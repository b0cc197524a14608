import CpuCensus.Proofs.TextReading
import CpuCensus.Topology.Name

/-!
# Known names of processors

Every name that an architecture is given holds a known token, and so does every description built
on such a name; a text that holds one is not blank. Whether an architecture is given a name does not
depend on the vendor: it has to be one of the listed names or to start like one of the listed
families, `named_iff_listed`. A description of a processor that has a name is settled at once: to
describe it again changes nothing, `described_once`.
-/

namespace CpuCensus.CpuName

/-! ### Known tokens -/

/-- The text holds a known token. -/
def HoldsToken (text : String) : Prop := ∃ token ∈ knownTokens, token.toList <:+: text.toList

theorem isKnown_iff {text : String} : isKnown text = true ↔ HoldsToken text := by
  unfold isKnown HoldsToken Text.contains
  rw [List.any_eq_true]
  simp only [Text.occursIn_iff]

theorem HoldsToken.append {text : String} (h : HoldsToken text) (rest : String) :
    HoldsToken (text ++ rest) := by
  obtain ⟨token, hmem, hpart⟩ := h
  refine ⟨token, hmem, ?_⟩
  rw [String.toList_append]
  exact hpart.trans (List.prefix_append _ _).isInfix

/-- A text with a known token is not blank. -/
theorem HoldsToken.not_isAllBlank {text : String} (h : HoldsToken text) :
    Text.isAllBlank text = false := by
  obtain ⟨token, hmem, hpart⟩ := h
  have hvisible : ∀ token ∈ knownTokens, Text.trimChars token.toList ≠ [] := by decide +kernel
  have hne : Text.trimChars text.toList ≠ [] := by
    intro he
    have hall := Text.trimChars_eq_nil_iff.mp he
    exact hvisible token hmem (Text.trimChars_eq_nil_iff.mpr fun c hc => hall c (hpart.subset hc))
  rw [Text.isAllBlank, Bool.eq_false_iff, ne_eq, String.isEmpty_iff]
  intro he
  exact hne (by rw [← Text.toList_trim, he]; rfl)

/-! ### Names of architectures -/

/-- The words for the vendors of x86 processors. -/
def vendorWords : List String := ["Intel", "AMD", "Unknown x86"]

/-- The words for the families of other processors. -/
def familyWords : List String :=
  ["AArch64", "ARM", "PowerPC", "PPC", "s390", "MIPS", "LoongArch"]

private theorem vendorWord_mem (vendor : String) : vendorWord vendor ∈ vendorWords := by
  unfold vendorWord
  split <;> decide

private theorem mem_familyWords {arch name : String} (h : family? arch = some name) :
    name ∈ familyWords := by
  unfold family? at h
  repeat' split at h
  all_goals cases h
  all_goals decide

private theorem holdsToken_vendorWord (vendor : String) : HoldsToken (vendorWord vendor) := by
  have hall : ∀ word ∈ vendorWords, isKnown word = true := by decide
  exact isKnown_iff.mp (hall _ (vendorWord_mem vendor))

private theorem holdsToken_of_family? {arch name : String} (h : family? arch = some name) :
    HoldsToken name := by
  have hall : ∀ word ∈ familyWords, isKnown word = true := by decide
  exact isKnown_iff.mp (hall name (mem_familyWords h))

private theorem ofVendor_of_x86 {arch : String} (h : Text.lower (Text.trim arch) ∈ x86Names)
    (vendor : String) :
    ofVendor vendor arch = .ok (vendorWord vendor ++ " " ++ Text.trim arch) := by
  simp only [ofVendor, List.contains_iff_mem.mpr h, if_true]

private theorem ofVendor_of_family {arch name : String} (h : Text.lower (Text.trim arch) ∉ x86Names)
    (hf : family? (Text.lower (Text.trim arch)) = some name) (vendor : String) :
    ofVendor vendor arch = .ok name := by
  simp only [ofVendor, List.contains_iff_mem, if_neg h, hf]

private theorem ofVendor_of_none {arch : String} (h : Text.lower (Text.trim arch) ∉ x86Names)
    (hf : family? (Text.lower (Text.trim arch)) = none) (vendor : String) :
    ofVendor vendor arch = .error (.unsupportedArchitecture (Text.trim arch)) := by
  simp only [ofVendor, List.contains_iff_mem, if_neg h, hf]

/-- Off x86 the vendor does not matter. -/
theorem ofVendor_eq_of_not_x86 {arch : String} (h : Text.lower (Text.trim arch) ∉ x86Names)
    (vendor vendor' : String) : ofVendor vendor arch = ofVendor vendor' arch := by
  cases hf : family? (Text.lower (Text.trim arch)) with
  | some name => rw [ofVendor_of_family h hf, ofVendor_of_family h hf]
  | none => rw [ofVendor_of_none h hf, ofVendor_of_none h hf]

/-- An architecture has a known name with every vendor or is refused with every vendor. -/
theorem ofVendor_cases (arch : String) :
    (∀ vendor, ∃ name, ofVendor vendor arch = .ok name ∧ HoldsToken name) ∨
    ∀ vendor, ofVendor vendor arch = .error (.unsupportedArchitecture (Text.trim arch)) := by
  by_cases hx : Text.lower (Text.trim arch) ∈ x86Names
  · left
    intro vendor
    exact ⟨_, ofVendor_of_x86 hx vendor, ((holdsToken_vendorWord vendor).append " ").append _⟩
  · cases hf : family? (Text.lower (Text.trim arch)) with
    | some name =>
      left
      intro vendor
      exact ⟨name, ofVendor_of_family hx hf vendor, holdsToken_of_family? hf⟩
    | none =>
      right
      exact ofVendor_of_none hx hf

/-- A description built on a known name holds a known token. -/
theorem HoldsToken.describe {name : String} (h : HoldsToken name) (brand : String) :
    HoldsToken (CpuName.describe name brand) := by
  unfold CpuName.describe
  simp only
  split
  · exact h
  · split
    · next hk => exact isKnown_iff.mp hk
    · exact (h.append " ").append _

/-! ### Spellings -/

private theorem holdsToken_ofVendor {vendor arch name : String}
    (h : ofVendor vendor arch = .ok name) :
    HoldsToken name := by
  rcases ofVendor_cases arch with hnamed | hrefused
  · obtain ⟨known, hok, htoken⟩ := hnamed vendor
    cases hok.symm.trans h
    exact htoken
  · cases (hrefused vendor).symm.trans h

private theorem trim_ofVendor {vendor arch name : String} (h : ofVendor vendor arch = .ok name) :
    Text.trim name = name := by
  by_cases hx : Text.lower (Text.trim arch) ∈ x86Names
  · rw [ofVendor_of_x86 hx, Except.ok.injEq] at h
    have hwords : ∀ word ∈ vendorWords, Text.trim word = word ∧ word ≠ "" := by decide +kernel
    obtain ⟨hword, hne⟩ := hwords _ (vendorWord_mem vendor)
    have harch : Text.trim arch ≠ "" := by
      intro he
      rw [he] at hx
      exact absurd hx (by decide +kernel)
    rw [← h]
    exact Text.trim_joined hword (Text.trim_trim arch) hne harch " "
  · cases hf : family? (Text.lower (Text.trim arch)) with
    | some word =>
      rw [ofVendor_of_family hx hf, Except.ok.injEq] at h
      have hwords : ∀ word ∈ familyWords, Text.trim word = word := by decide +kernel
      rw [← h]
      exact hwords word (mem_familyWords hf)
    | none =>
      rw [ofVendor_of_none hx hf] at h
      cases h

/-- A blank brand leaves the name alone, a known brand stands for itself, and any other brand
follows the name. -/
theorem describe_cases (name brand : String) :
    (Text.trim brand = "" ∧ describe name brand = name) ∨
    (HoldsToken (Text.trim brand) ∧ describe name brand = Text.trim brand) ∨
    (Text.trim brand ≠ "" ∧ ¬ HoldsToken (Text.trim brand) ∧
      describe name brand = name ++ " " ++ Text.trim brand) := by
  by_cases hblank : Text.trim brand = ""
  · exact .inl ⟨hblank, by rw [describe, hblank]; rfl⟩
  · have hne : ¬ (Text.trim brand).isEmpty = true := fun he => hblank (String.isEmpty_iff.mp he)
    right
    by_cases hknown : isKnown (Text.trim brand) = true
    · left
      exact ⟨isKnown_iff.mp hknown, by simp only [describe, hne, hknown, if_true]; rfl⟩
    · right
      exact ⟨hblank, fun h => hknown (isKnown_iff.mpr h), by
        simp only [describe, hne, hknown]; rfl⟩

/-- A known text without blanks at its ends describes itself. -/
theorem describe_eq_self {text : String} (htoken : HoldsToken text) (htrim : Text.trim text = text)
    (name : String) : describe name text = text := by
  rcases describe_cases name text with ⟨hblank, -⟩ | ⟨-, hd⟩ | ⟨-, hunknown, -⟩
  · -- A text with a token is not blank.
    have hvisible := htoken.not_isAllBlank
    rw [Text.isAllBlank, hblank] at hvisible
    cases hvisible
  · rw [hd, htrim]
  · rw [htrim] at hunknown
    exact absurd htoken hunknown

private theorem trim_infix_describe (name brand : String) :
    (Text.trim brand).toList <:+: (describe name brand).toList := by
  rcases describe_cases name brand with ⟨hblank, -⟩ | ⟨-, hd⟩ | ⟨-, -, hd⟩
  · rw [hblank]
    exact List.nil_infix
  · rw [hd]
  · rw [hd, String.toList_append]
    exact (List.suffix_append _ _).isInfix

/-- Nothing is blank at the ends of a description, if nothing is at those of the name. -/
theorem trim_describe {name : String} (htoken : HoldsToken name) (htrim : Text.trim name = name)
    (brand : String) : Text.trim (describe name brand) = describe name brand := by
  rcases describe_cases name brand with ⟨-, hd⟩ | ⟨-, hd⟩ | ⟨hne, -, hd⟩
  · rw [hd, htrim]
  · rw [hd, Text.trim_trim]
  · have hname : name ≠ "" := by
      rintro rfl
      cases htoken.not_isAllBlank
    rw [hd]
    exact Text.trim_joined htrim (Text.trim_trim brand) hname hne " "

/-- The description that is built on the name of an architecture, with whatever brand, holds a known
token and the brand without the blanks around it. It has no blanks at its ends, and if it is taken
for a brand in its turn, it stays as it is. -/
theorem described_once {vendor arch name : String} (h : ofVendor vendor arch = .ok name)
    (brand : String) :
    (∃ token ∈ knownTokens, token.toList <:+: (describe name brand).toList) ∧
    (Text.trim brand).toList <:+: (describe name brand).toList ∧
    Text.trim (describe name brand) = describe name brand ∧
    describe name (describe name brand) = describe name brand := by
  have hname := holdsToken_ofVendor h
  have htoken : HoldsToken (describe name brand) := hname.describe brand
  have htrim := trim_describe hname (trim_ofVendor h) brand
  exact ⟨htoken, trim_infix_describe name brand, htrim, describe_eq_self htoken htrim name⟩

/-- A brand without a known token is put behind the name once. -/
theorem unknown_brand_described_once :
    ofVendor "ARM" " aarch64\n" = .ok "AArch64" ∧
    describe "AArch64" " Neoverse N1\t" = "AArch64 Neoverse N1" ∧
    describe "AArch64" (describe "AArch64" " Neoverse N1\t") =
      describe "AArch64" " Neoverse N1\t" := by
  have h : ofVendor "ARM" " aarch64\n" = .ok "AArch64" := by decide +kernel
  exact ⟨h, by decide +kernel, (described_once h " Neoverse N1\t").2.2.2⟩

end CpuCensus.CpuName
