import CpuCensus.Text.Blank
import CpuCensus.Text.Letters
import CpuCensus.Text.Lines
import CpuCensus.Text.Numeral
import Mathlib

/-!
# Reading of texts

What the small readers do with a text that was put together from known parts: blanks around it are
taken off, whatever the case of its letters, it is parted at its first mark, a number in decimal
digits is read back, and the lines that it was written in are found again, whichever way they end.
-/

namespace CpuCensus

/-! ### One reading after another -/

section bind

variable {ε α β : Type} {x : Except ε α} {f : α → Except ε β}

theorem bindExcept_eq_ok_iff {b : β} : x >>= f = .ok b ↔ ∃ a, x = .ok a ∧ f a = .ok b := by
  cases x with
  | error e => simp [bind, Except.bind]
  | ok a => simp [bind, Except.bind]

theorem bindExcept_eq_error_iff {e : ε} :
    x >>= f = .error e ↔ x = .error e ∨ ∃ a, x = .ok a ∧ f a = .error e := by
  cases x with
  | error e => simp [bind, Except.bind]
  | ok a => simp [bind, Except.bind]

end bind

end CpuCensus

namespace CpuCensus.Text

/-! ### Blanks -/

/-- All of these characters are blank. -/
def AllBlank (cs : List Char) : Prop := ∀ c ∈ cs, isBlank c = true

variable {cs before after : List Char}

theorem allBlank_singleton {c : Char} (h : isBlank c = true) : AllBlank [c] := by
  intro d hd
  rw [List.mem_singleton.mp hd, h]

theorem AllBlank.notMem {c : Char} (h : AllBlank cs) (hc : isBlank c = false) : c ∉ cs := by
  intro hm
  rw [h c hm] at hc
  cases hc

private theorem trimEndChars_append_blank (h : AllBlank after) (cs : List Char) :
    trimEndChars (cs ++ after) = trimEndChars cs := by
  have hr : ∀ c ∈ after.reverse, isBlank c = true := fun c hc => h c (List.mem_reverse.mp hc)
  rw [trimEndChars, List.reverse_append, List.dropWhile_append_of_pos hr, trimEndChars]

theorem trimChars_blank_append (h : AllBlank before) (cs : List Char) :
    trimChars (before ++ cs) = trimChars cs := by
  rw [trimChars, List.dropWhile_append_of_pos h, trimChars]

theorem trimChars_append_blank (h : AllBlank after) (cs : List Char) :
    trimChars (cs ++ after) = trimChars cs := by
  rw [trimChars, List.dropWhile_append, trimChars]
  split
  · next he =>
    rw [List.isEmpty_iff.mp he, List.dropWhile_eq_nil_iff.mpr h]
  · exact trimEndChars_append_blank h _

/-- Nothing remains exactly of blanks. -/
theorem trimChars_eq_nil_iff : trimChars cs = [] ↔ AllBlank cs := by
  rw [trimChars, trimEndChars, List.reverse_eq_nil_iff, List.dropWhile_eq_nil_iff]
  constructor
  · intro h
    have hd : cs.dropWhile isBlank = [] := by
      by_contra hne
      -- The first character that is left is not blank.
      have hhead := List.head_dropWhile_not isBlank hne
      rw [h _ (List.mem_reverse.mpr (List.head_mem hne))] at hhead
      cases hhead
    exact List.dropWhile_eq_nil_iff.mp hd
  · intro h c hc
    rw [List.dropWhile_eq_nil_iff.mpr h] at hc
    cases hc

private theorem dropWhile_eq_self (h : ∀ c ∈ cs.head?, isBlank c = false) :
    cs.dropWhile isBlank = cs := by
  cases cs with
  | nil => rfl
  | cons c cs => rw [List.dropWhile_cons_of_neg (by simp [h c rfl])]

/-- Characters of which neither the first nor the last is blank are left as they are. -/
theorem trimChars_eq_self_of_ends (hfirst : ∀ c ∈ cs.head?, isBlank c = false)
    (hlast : ∀ c ∈ cs.getLast?, isBlank c = false) : trimChars cs = cs := by
  rw [trimChars, trimEndChars, dropWhile_eq_self hfirst, dropWhile_eq_self, List.reverse_reverse]
  rwa [List.head?_reverse]

theorem trimChars_eq_self (h : ∀ c ∈ cs, isBlank c = false) : trimChars cs = cs :=
  trimChars_eq_self_of_ends (fun c hc => h c (List.mem_of_mem_head? hc))
    fun c hc => h c (List.mem_of_mem_getLast? hc)

private theorem isBlank_of_mem_head?_dropWhile {c : Char} (h : c ∈ (cs.dropWhile isBlank).head?) :
    isBlank c = false := by
  have hnot := List.head?_dropWhile_not isBlank cs
  rw [Option.mem_def.mp h] at hnot
  simpa using hnot

private theorem isBlank_of_mem_getLast?_trimChars {c : Char} (h : c ∈ (trimChars cs).getLast?) :
    isBlank c = false := by
  rw [trimChars, trimEndChars, List.getLast?_reverse] at h
  exact isBlank_of_mem_head?_dropWhile h

private theorem isBlank_of_mem_head?_trimChars {c : Char} (h : c ∈ (trimChars cs).head?) :
    isBlank c = false := by
  -- What is left begins as it did before its end was trimmed.
  have hstart : trimChars cs <+: cs.dropWhile isBlank := by
    rw [← List.reverse_suffix, trimChars, trimEndChars, List.reverse_reverse]
    exact List.dropWhile_suffix isBlank
  obtain ⟨rest, hrest⟩ := hstart
  have hhead : c ∈ (cs.dropWhile isBlank).head? := by
    rw [← hrest]
    exact List.mem_head?_append_of_mem_head? h
  exact isBlank_of_mem_head?_dropWhile hhead

/-- Trimming twice is trimming once. -/
theorem trim_trim (s : String) : trim (trim s) = trim s := by
  apply String.toList_inj.mp
  rw [toList_trim, toList_trim]
  exact trimChars_eq_self_of_ends (fun c => isBlank_of_mem_head?_trimChars)
    fun c => isBlank_of_mem_getLast?_trimChars

/-- What was taken off is blank. -/
theorem trimChars_spec (cs : List Char) :
    ∃ before after, AllBlank before ∧ AllBlank after ∧ cs = before ++ trimChars cs ++ after := by
  let kept := cs.dropWhile isBlank
  refine ⟨cs.takeWhile isBlank, (kept.reverse.takeWhile isBlank).reverse,
    fun c hc => List.mem_takeWhile_imp hc,
    fun c hc => List.mem_takeWhile_imp (List.mem_reverse.mp hc), ?_⟩
  have hkept : trimChars cs ++ (kept.reverse.takeWhile isBlank).reverse = kept := by
    rw [trimChars, trimEndChars, ← List.reverse_append, List.takeWhile_append_dropWhile,
      List.reverse_reverse]
  rw [List.append_assoc, hkept, List.takeWhile_append_dropWhile]

/-- Two texts without blanks at their ends make one without, whatever stands between them. -/
theorem trim_joined {s t : String} (hs : trim s = s) (ht : trim t = t) (hs' : s ≠ "")
    (ht' : t ≠ "") (between : String) : trim (s ++ between ++ t) = s ++ between ++ t := by
  have hstart : s.toList ≠ [] := by simpa using hs'
  have hend : t.toList ≠ [] := by simpa using ht'
  apply String.toList_inj.mp
  rw [toList_trim, String.toList_append, String.toList_append]
  apply trimChars_eq_self_of_ends
  · intro c hc
    rw [List.append_assoc, List.head?_append_of_ne_nil _ hstart, ← hs, toList_trim] at hc
    exact isBlank_of_mem_head?_trimChars hc
  · intro c hc
    rw [List.getLast?_append_of_ne_nil _ hend, ← ht, toList_trim] at hc
    exact isBlank_of_mem_getLast?_trimChars hc

private theorem isBlank_of_visible {c : Char} (h : 0x20 < c.toNat) (h' : c.toNat < 0x7F) :
    isBlank c = false := by
  simp only [isBlank, Bool.or_eq_false_iff, Bool.and_eq_false_iff, decide_eq_false_iff_not,
    beq_eq_false_iff_ne]
  omega

/-! ### Small letters -/

variable {mark : Char}

theorem splitAtFirst?_of_notMem (h : mark ∉ cs) : splitAtFirst? mark cs = none := by
  induction cs with
  | nil => rfl
  | cons c cs ih =>
    rw [List.mem_cons, not_or] at h
    obtain ⟨hc, hcs⟩ := h
    rw [splitAtFirst?, if_neg (by simpa using Ne.symm hc), ih hcs]
    rfl

theorem splitAtFirst?_append (h : mark ∉ before) (after : List Char) :
    splitAtFirst? mark (before ++ mark :: after) = some (before, after) := by
  induction before with
  | nil => simp [splitAtFirst?]
  | cons c before ih =>
    rw [List.mem_cons, not_or] at h
    obtain ⟨hc, hb⟩ := h
    rw [List.cons_append, splitAtFirst?, if_neg (by simpa using Ne.symm hc), ih hb]
    rfl

/-- A text without the mark is not parted; any other is parted at the first. -/
theorem splitAtFirst?_cases (mark : Char) (cs : List Char) :
    (mark ∉ cs ∧ splitAtFirst? mark cs = none) ∨
    ∃ before after, cs = before ++ mark :: after ∧ mark ∉ before ∧
      splitAtFirst? mark cs = some (before, after) := by
  by_cases h : mark ∈ cs
  · obtain ⟨before, after, hcs, hb⟩ := List.eq_append_cons_of_mem h
    exact .inr ⟨before, after, hcs, hb, hcs ▸ splitAtFirst?_append hb after⟩
  · exact .inl ⟨h, splitAtFirst?_of_notMem h⟩

/-! ### Numbers in decimal digits -/

theorem isBlank_of_isDigit {c : Char} (h : c.isDigit = true) : isBlank c = false := by
  have hc := Char.isDigit_iff_toNat.mp h
  have h0 : '0'.toNat = 48 := rfl
  have h9 : '9'.toNat = 57 := rfl
  exact isBlank_of_visible (by omega) (by omega)

theorem digitsFrom_of_isDigit (h : ∀ c ∈ cs, c.isDigit = true) (acc : Nat) :
    digitsFrom acc cs = some (Nat.ofDigitChars 10 cs acc) := by
  induction cs generalizing acc with
  | nil => rfl
  | cons c cs ih =>
    rw [digitsFrom, if_pos (h c List.mem_cons_self), ih fun d hd => h d (List.mem_cons_of_mem c hd)]
    rfl

theorem isDigit_of_mem_repr {n : Nat} {c : Char} (h : c ∈ (Nat.repr n).toList) :
    c.isDigit = true := by
  rw [Nat.toList_repr] at h
  exact Nat.isDigit_of_mem_toDigits (by decide) (by decide) h

/-- One or more ASCII digits. -/
def IsNumeral (cs : List Char) : Prop := cs ≠ [] ∧ ∀ c ∈ cs, c.isDigit = true

theorem isNumeral_repr (n : Nat) : IsNumeral (Nat.repr n).toList := by
  refine ⟨?_, fun c => isDigit_of_mem_repr⟩
  rw [Nat.toList_repr]
  exact Nat.toDigits_ne_nil

theorem IsNumeral.notMem {c : Char} (h : IsNumeral cs) (hc : c.isDigit = false) : c ∉ cs := by
  intro hm
  rw [h.2 c hm] at hc
  cases hc

private theorem isDigit_of_digitsFrom {acc n : Nat} (h : digitsFrom acc cs = some n) :
    ∀ c ∈ cs, c.isDigit = true := by
  induction cs generalizing acc with
  | nil => simp
  | cons c cs ih =>
    rw [digitsFrom] at h
    split at h
    · next hc => exact List.forall_mem_cons.mpr ⟨hc, ih h⟩
    · cases h

private theorem ofDigits?_eq_some_iff {n : Nat} :
    ofDigits? cs = some n ↔ IsNumeral cs ∧ Nat.ofDigitChars 10 cs 0 = n := by
  cases cs with
  | nil => simp [ofDigits?, IsNumeral]
  | cons c cs =>
    rw [ofDigits?]
    constructor
    · intro h
      have hd := isDigit_of_digitsFrom h
      rw [digitsFrom_of_isDigit hd, Option.some.injEq] at h
      exact ⟨⟨List.cons_ne_nil c cs, hd⟩, h⟩
    · rintro ⟨⟨-, hd⟩, rfl⟩
      exact digitsFrom_of_isDigit hd 0

/-- No sign is a digit, so digits are read as they are. -/
theorem unsignedChars?_of_isNumeral (h : IsNumeral cs) :
    unsignedChars? cs = some (Nat.ofDigitChars 10 cs 0) := by
  unfold unsignedChars?
  split
  · exact absurd List.mem_cons_self (h.notMem rfl)
  · exact ofDigits?_eq_some_iff.mpr ⟨h, rfl⟩

theorem ofDigitChars_repr (n : Nat) : Nat.ofDigitChars 10 (Nat.repr n).toList 0 = n := by
  rw [Nat.toList_repr, Nat.ofDigitChars_ten_toDigits]

/-- The characters write the number in decimal digits, with a plus sign in front or none. -/
inductive WritesNatural : List Char → Nat → Prop
  | plain {cs : List Char} : IsNumeral cs → WritesNatural cs (Nat.ofDigitChars 10 cs 0)
  | plus {cs : List Char} : IsNumeral cs → WritesNatural ('+' :: cs) (Nat.ofDigitChars 10 cs 0)

theorem writesNatural_repr (n : Nat) : WritesNatural (Nat.repr n).toList n := by
  have h := WritesNatural.plain (isNumeral_repr n)
  rwa [ofDigitChars_repr] at h

/-- Digits after an optional plus sign are read, and nothing else is. -/
theorem unsignedChars?_eq_some_iff {n : Nat} : unsignedChars? cs = some n ↔ WritesNatural cs n := by
  constructor
  · intro h
    unfold unsignedChars? at h
    split at h
    · obtain ⟨hd, rfl⟩ := ofDigits?_eq_some_iff.mp h
      exact .plus hd
    · obtain ⟨hd, rfl⟩ := ofDigits?_eq_some_iff.mp h
      exact .plain hd
  · intro h
    cases h with
    | plain hd => exact unsignedChars?_of_isNumeral hd
    | plus hd => exact ofDigits?_eq_some_iff.mpr ⟨hd, rfl⟩

theorem unsigned?_eq_some_iff {bound n : Nat} {s : String} :
    unsigned? bound s = some n ↔ WritesNatural s.toList n ∧ n < bound := by
  rw [unsigned?, Option.filter_eq_some_iff, unsignedChars?_eq_some_iff, decide_eq_true_eq]

/-- Decimal digits are read back. -/
theorem unsigned?_repr {bound n : Nat} (h : n < bound) : unsigned? bound (Nat.repr n) = some n :=
  unsigned?_eq_some_iff.mpr ⟨writesNatural_repr n, h⟩

/-! ### Numbers with a sign -/

/-- The characters write the number in decimal digits, with a sign in front or none. -/
inductive WritesInteger : List Char → Int → Prop
  | plain {cs : List Char} : IsNumeral cs → WritesInteger cs (Nat.ofDigitChars 10 cs 0)
  | plus {cs : List Char} : IsNumeral cs → WritesInteger ('+' :: cs) (Nat.ofDigitChars 10 cs 0)
  | minus {cs : List Char} : IsNumeral cs → WritesInteger ('-' :: cs) (-Nat.ofDigitChars 10 cs 0)

theorem writesInteger_repr (n : Nat) : WritesInteger (Nat.repr n).toList n := by
  have h := WritesInteger.plain (isNumeral_repr n)
  rwa [ofDigitChars_repr] at h

/-- The number is in the 64-bit signed range. -/
def IsInt64 (n : Int) : Prop := -2 ^ 63 ≤ n ∧ n < 2 ^ 63

/-- Digits after an optional sign are read, and nothing else is. -/
theorem signedChars?_eq_some_iff {n : Int} : signedChars? cs = some n ↔ WritesInteger cs n := by
  constructor
  · intro h
    unfold signedChars? at h
    split at h
    · obtain ⟨m, hm, rfl⟩ := Option.map_eq_some_iff.mp h
      obtain ⟨hd, rfl⟩ := ofDigits?_eq_some_iff.mp hm
      exact .minus hd
    · obtain ⟨m, hm, rfl⟩ := Option.map_eq_some_iff.mp h
      cases unsignedChars?_eq_some_iff.mp hm with
      | plain hd => exact .plain hd
      | plus hd => exact .plus hd
  · intro h
    cases h with
    | plain hd =>
      unfold signedChars?
      split
      · exact absurd List.mem_cons_self (hd.notMem rfl)
      · rw [unsignedChars?_eq_some_iff.mpr (.plain hd)]
        rfl
    | plus hd => simp [signedChars?, unsignedChars?_eq_some_iff.mpr (.plus hd)]
    | minus hd => simp [signedChars?, ofDigits?_eq_some_iff.mpr ⟨hd, rfl⟩]

private theorem signed?_eq_some_iff {s : String} {n : Int} :
    signed? s = some n ↔ WritesInteger s.toList n ∧ IsInt64 n := by
  rw [signed?, Option.filter_eq_some_iff, signedChars?_eq_some_iff, IsInt64]
  refine and_congr_right fun _ => ?_
  rw [Bool.and_eq_true, decide_eq_true_eq, decide_eq_true_eq]
  omega

/-- What writes a number has no blanks. -/
theorem WritesInteger.not_isBlank {n : Int} (h : WritesInteger cs n) :
    ∀ c ∈ cs, isBlank c = false := by
  cases h with
  | plain hd => exact fun c hc => isBlank_of_isDigit (hd.2 c hc)
  | plus hd =>
    exact List.forall_mem_cons.mpr ⟨by decide, fun c hc => isBlank_of_isDigit (hd.2 c hc)⟩
  | minus hd =>
    exact List.forall_mem_cons.mpr ⟨by decide, fun c hc => isBlank_of_isDigit (hd.2 c hc)⟩

/-- The text without the blanks around it is read as a number exactly if it is made of blanks, what
writes the number, and blanks. -/
theorem signed?_trim_eq_some_iff {s : String} {n : Int} :
    signed? (trim s) = some n ↔ IsInt64 n ∧ ∃ before number after,
      AllBlank before ∧ AllBlank after ∧ WritesInteger number n ∧
        s = String.ofList (before ++ number ++ after) := by
  rw [signed?_eq_some_iff, toList_trim]
  constructor
  · rintro ⟨hn, hrange⟩
    obtain ⟨before, after, hb, ha, hs⟩ := trimChars_spec s.toList
    refine ⟨hrange, before, trimChars s.toList, after, hb, ha, hn, ?_⟩
    rw [← hs, String.ofList_toList]
  · rintro ⟨hrange, before, number, after, hb, ha, hn, rfl⟩
    refine ⟨?_, hrange⟩
    rw [String.toList_ofList, trimChars_append_blank ha, trimChars_blank_append hb,
      trimChars_eq_self hn.not_isBlank]
    exact hn

/-! ### Lines -/

/-- The characters write these lines one after the other. Each ends with a newline, with or without
a carriage return before it, but the last may be cut off by the end of the text. -/
inductive Written : List (List Char) → List Char → Prop
  | nil : Written [] []
  | last {line : List Char} : line ≠ [] → '\n' ∉ line → Written [line] line
  | newline {line : List Char} {lines : List (List Char)} {cs : List Char} :
      '\n' ∉ line → Written lines cs → Written (line :: lines) (line ++ '\n' :: cs)
  | carriageReturn {line : List Char} {lines : List (List Char)} {cs : List Char} :
      '\n' ∉ line → Written lines cs → Written (line :: lines) (line ++ '\r' :: '\n' :: cs)

private theorem linesFrom_append {line : List Char} (h : '\n' ∉ line) (held cs : List Char) :
    linesFrom held (line ++ cs) = linesFrom (line.reverse ++ held) cs := by
  induction line generalizing held with
  | nil => rfl
  | cons c line ih =>
    rw [List.mem_cons, not_or] at h
    obtain ⟨hc, hl⟩ := h
    rw [List.cons_append, linesFrom, if_neg (by simpa using Ne.symm hc), ih hl, List.reverse_cons,
      List.append_assoc]
    rfl

/-- A line that is closed is the one that was held, but for a carriage return at its end. -/
theorem closeLine_reverse (line : List Char) :
    closeLine line.reverse = line ∨ line = closeLine line.reverse ++ ['\r'] := by
  unfold closeLine
  split
  · next held hl =>
    right
    rw [← List.reverse_cons, ← hl, List.reverse_reverse]
  · left
    exact List.reverse_reverse line

/-- The lines that were written are found again, but for carriage returns at their ends. -/
theorem lines_of_written {lines : List (List Char)} {cs : List Char} (h : Written lines cs) :
    List.Forall₂ (fun got line => got = line ∨ line = got ++ ['\r']) (linesFrom [] cs) lines := by
  induction h with
  | nil => exact .nil
  | @last line hne hn =>
    have hl : linesFrom [] line = [line] := by
      rw [← List.append_nil line, linesFrom_append hn]
      simp [linesFrom, hne]
    rw [hl]
    exact .cons (.inl rfl) .nil
  | @newline line lines cs hn _ ih =>
    rw [linesFrom_append hn, linesFrom, if_pos (by rfl), List.append_nil]
    exact .cons (closeLine_reverse line) ih
  | @carriageReturn line lines cs hn _ ih =>
    rw [linesFrom_append hn, linesFrom, if_neg (by decide), linesFrom, if_pos (by rfl),
      List.append_nil]
    refine .cons (.inl ?_) ih
    exact List.reverse_reverse line

end CpuCensus.Text
