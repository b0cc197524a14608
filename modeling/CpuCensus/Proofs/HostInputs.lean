import CpuCensus.Proofs.CountedTrees
import CpuCensus.Proofs.HostSnapshots

/-!
# What a snapshot of a host depends on

A host lets the program read more than goes into a snapshot. The counts come from one source only,
and the vendor and the brand of the first processor are asked of the text list one by one, each only
where it is blank. So two hosts that differ in what is not asked for give the same snapshot or the
same fault: `outcome_by_first_processor`.
-/

namespace CpuCensus

namespace Snapshot

private theorem map_checked_startTime (s : Snapshot) (startTime : Instant) :
    s.checked.map (fun s => { s with startTime }) = { s with startTime }.checked := by
  have hdefect : { s with startTime }.defect? = s.defect? := rfl
  rw [checked, checked, hdefect]
  cases s.defect? <;> rfl

private theorem ofCounts_startTime (c : Counts) (cpu description : String) (t t' : Instant) :
    { ofCounts c cpu description t with startTime := t' } = ofCounts c cpu description t' := rfl

/-- The snapshot that counts, a name and a brand make, or the first fault among these. -/
def taken (counted : Except ProbeFault Counts) (named : Except ProbeFault String) (brand : String)
    (startTime : Instant) : Except ProbeFault Snapshot :=
  counted.bind fun c => named.bind fun name =>
    (ofCounts c name (CpuName.describe name brand) startTime).checked

/-- The start time goes into a snapshot as it is, and into no fault. -/
theorem map_taken_startTime (counted : Except ProbeFault Counts) (named : Except ProbeFault String)
    (brand : String) (t t' : Instant) :
    (taken counted named brand t).map (fun s => { s with startTime := t' }) =
      taken counted named brand t' := by
  cases counted with
  | error fault => rfl
  | ok c =>
    cases named with
    | error fault => rfl
    | ok name =>
      simp only [taken, Except.bind]
      rw [map_checked_startTime, ofCounts_startTime]

end Snapshot

/-! ### Counts -/

/-- The place of a directory goes into its faults only. -/
theorem ProcessorTree.counts_eq_ok_root {root : String} {tree : Option FileTree} {c : Counts}
    (h : (counts root tree).1 = .ok c) (root' : String) : (counts root' tree).1 = .ok c := by
  match tree with
  | none => cases h
  | some (.file _) => cases h
  | some (.directory entries) => exact counts_eq_ok_iff.mpr (counts_eq_ok_iff.mp h)

namespace Host

variable {h h' : Host}

/-- The text lists of the hosts are at the same place and hold the same. -/
def SameCpuinfo (h h' : Host) : Prop := h.cpuinfoPath = h'.cpuinfoPath ∧ h.cpuinfo = h'.cpuinfo

/-- The hosts give the same snapshot or the same fault, but for the start time. -/
def SameOutcome (h h' : Host) : Prop :=
  ∀ t t', (h.sample t).outcome.map (fun s => { s with startTime := t' }) = (h'.sample t').outcome

private theorem SameCpuinfo.readCpuinfo_eq (hc : SameCpuinfo h h') :
    h.readCpuinfo = h'.readCpuinfo := by
  rw [readCpuinfo, readCpuinfo, hc.1, hc.2]

private theorem topology_of_counted {c : Counts}
    (hcounted : (ProcessorTree.counts h.treePath h.tree).1 = .ok c) : h.topology = .ok c := by
  rw [topology, hcounted]

private theorem topology_of_not_counted {fault : ProbeFault}
    (hfault : (ProcessorTree.counts h.treePath h.tree).1 = .error fault) :
    h.topology = h.listedCounts := by
  rw [topology, hfault]

private theorem topology_eq_of_counted {c : Counts}
    (hcounted : (ProcessorTree.counts h.treePath h.tree).1 = .ok c) (htree : h.tree = h'.tree) :
    h.topology = h'.topology := by
  have hcounted' := ProcessorTree.counts_eq_ok_root hcounted h'.treePath
  rw [htree] at hcounted'
  rw [topology_of_counted hcounted, topology_of_counted hcounted']

private theorem SameCpuinfo.topology_eq (hc : SameCpuinfo h h') (htree : h.tree = h'.tree) :
    h.topology = h'.topology := by
  cases hcounted : (ProcessorTree.counts h.treePath h.tree).1 with
  | ok c => exact topology_eq_of_counted hcounted htree
  | error fault =>
    cases hcounted' : (ProcessorTree.counts h'.treePath h'.tree).1 with
    | ok c => exact (topology_eq_of_counted hcounted' htree.symm).symm
    | error fault' =>
      rw [topology_of_not_counted hcounted, topology_of_not_counted hcounted',
        ← readCpuinfo_bind_counts, ← readCpuinfo_bind_counts, hc.readCpuinfo_eq]

/-! ### Names -/

/-- What the text list tells of a name, if it can be read and tells it. -/
def listed (h : Host) (name : Cpuinfo.Summary → Option String) : String :=
  match h.readCpuinfo with
  | .ok summary => (name summary).getD ""
  | .error _ => ""

/-- The text without the blanks around it, or else what the text list tells instead of it. -/
def told (h : Host) (text : String) (name : Cpuinfo.Summary → Option String) : String :=
  if Text.trim text = "" then h.listed name else Text.trim text

/-- The vendor and the brand are asked for one by one, though the text list is read once. -/
theorem identify_eq (h : Host) (first : ReportedCpu) :
    h.identify first =
      { vendor := h.told first.vendor Cpuinfo.Summary.vendor
        brand := h.told first.brand Cpuinfo.Summary.model } := by
  unfold identify told listed
  cases h.readCpuinfo <;> by_cases hv : Text.trim first.vendor = "" <;>
    by_cases hb : Text.trim first.brand = "" <;> simp [hv, hb]

private theorem SameCpuinfo.told_eq (hc : SameCpuinfo h h') {text text' : String}
    (htext : Text.trim text = Text.trim text') (name : Cpuinfo.Summary → Option String) :
    h.told text name = h'.told text' name := by
  rw [told, told, listed, listed, htext, hc.readCpuinfo_eq]

private theorem told_eq_of_ne {text text' : String} (htext : Text.trim text = Text.trim text')
    (hne : Text.trim text ≠ "") (name : Cpuinfo.Summary → Option String) :
    h.told text name = h'.told text' name := by
  rw [told, told, if_neg hne, if_neg (htext ▸ hne), htext]

private theorem resolvedArchitecture_eq
    (hbuilt : h.platform.architecture = h'.platform.architecture)
    (ha : Text.trim h.architecture = Text.trim h'.architecture) :
    h.resolvedArchitecture = h'.resolvedArchitecture := by
  rw [resolvedArchitecture, resolvedArchitecture, Platform.resolveArchitecture,
    Platform.resolveArchitecture, hbuilt, ha]

private theorem trim_resolvedArchitecture (h : Host) :
    Text.trim h.resolvedArchitecture = h.resolvedArchitecture := by
  unfold resolvedArchitecture Platform.resolveArchitecture
  simp only
  split
  · exact h.platform.trim_architecture
  · exact Text.trim_trim h.architecture

private theorem ofVendor_resolvedArchitecture
    (hx : Text.lower h.resolvedArchitecture ∉ CpuName.x86Names) (vendor vendor' : String) :
    CpuName.ofVendor vendor h.resolvedArchitecture =
      CpuName.ofVendor vendor' h.resolvedArchitecture := by
  apply CpuName.ofVendor_eq_of_not_x86
  rwa [trim_resolvedArchitecture]

/-! ### Outcomes -/

/-- The name that the first processor is given, or why none is. -/
def named (h : Host) (first : ReportedCpu) : Except ProbeFault String :=
  CpuName.ofVendor (h.told first.vendor Cpuinfo.Summary.vendor) h.resolvedArchitecture

/-- The outcome is made of the counts, of the name and of the brand, and of nothing else. -/
theorem outcome_sample_of_cons {first : ReportedCpu} {others : List ReportedCpu}
    (hp : h.processors = first :: others) (startTime : Instant) :
    (h.sample startTime).outcome = Snapshot.taken h.topology (h.named first)
      (h.told first.brand Cpuinfo.Summary.model) startTime := by
  cases ht : h.topology with
  | error fault =>
    exact outcome_sample_of_fault (by simp [hp]) ht startTime
  | ok c =>
    have hc : h.counts.1 = .ok c := h.counts_fst.trans ht
    simp only [sample, hp, hc, h.identify_eq first, outcome_assemble, Snapshot.taken, named,
      Except.bind]

/-- Hosts with the same counts, the same name and the same brand have the same outcome. -/
theorem sameOutcome_of_told {first first' : ReportedCpu} {others others' : List ReportedCpu}
    (hp : h.processors = first :: others) (hp' : h'.processors = first' :: others')
    (htopology : h.topology = h'.topology)
    (hbrand : h.told first.brand Cpuinfo.Summary.model =
      h'.told first'.brand Cpuinfo.Summary.model)
    (hname : h.named first = h'.named first') : SameOutcome h h' := by
  intro t t'
  rw [outcome_sample_of_cons hp, outcome_sample_of_cons hp', Snapshot.map_taken_startTime,
    htopology, hname, hbrand]

/-- Take two hosts that report processors to programs built for the same architecture, with the same
directory of processors, architectures that agree but for blanks around them, and first processors
whose brands agree so. If the vendors agree so too, the outcome of a snapshot is the same but for
the start time, whatever other processors are reported and how many, where the text lists are the
same; and whatever the text lists are, where vendor and brand are not blank and the directory is
counted. Where the architecture is none of the x86 names, the vendors need not agree, nor be there.
-/
theorem outcome_by_first_processor (h h' : Host) (first first' : ReportedCpu)
    (others others' : List ReportedCpu) (hp : h.processors = first :: others)
    (hp' : h'.processors = first' :: others') (htree : h.tree = h'.tree)
    (hbuilt : h.platform.architecture = h'.platform.architecture)
    (harch : Text.trim h.architecture = Text.trim h'.architecture)
    (hbrand : Text.trim first.brand = Text.trim first'.brand) :
    (Text.trim first.vendor = Text.trim first'.vendor →
      (SameCpuinfo h h' → SameOutcome h h') ∧
      (Text.trim first.vendor ≠ "" → Text.trim first.brand ≠ "" →
        (∃ c, (ProcessorTree.counts h.treePath h.tree).1 = .ok c) → SameOutcome h h')) ∧
    (Text.lower h.resolvedArchitecture ∉ CpuName.x86Names →
      (SameCpuinfo h h' → SameOutcome h h') ∧
      (Text.trim first.brand ≠ "" →
        (∃ c, (ProcessorTree.counts h.treePath h.tree).1 = .ok c) → SameOutcome h h')) := by
  have harch' : h.resolvedArchitecture = h'.resolvedArchitecture :=
    resolvedArchitecture_eq hbuilt harch
  -- The counts and the brand are the same if nothing is asked of the text list or both tell the
  -- same; the vendor is left to each case.
  have hsame (hc : SameCpuinfo h h') : h.named first = h'.named first' → SameOutcome h h' :=
    sameOutcome_of_told hp hp' (hc.topology_eq htree) (hc.told_eq hbrand _)
  have hown (hb : Text.trim first.brand ≠ "")
      (hcounted : ∃ c, (ProcessorTree.counts h.treePath h.tree).1 = .ok c) :
      h.named first = h'.named first' → SameOutcome h h' := by
    obtain ⟨c, hcounted⟩ := hcounted
    exact sameOutcome_of_told hp hp' (topology_eq_of_counted hcounted htree)
      (told_eq_of_ne hbrand hb _)
  refine ⟨fun hvendor => ⟨fun hc => hsame hc ?_, fun hv hb hcounted => hown hb hcounted ?_⟩,
    fun hx => ⟨fun hc => hsame hc ?_, fun hb hcounted => hown hb hcounted ?_⟩⟩
  · rw [named, named, hc.told_eq hvendor, harch']
  · rw [named, named, told_eq_of_ne hvendor hv, harch']
  · rw [named, named, ← harch', ofVendor_resolvedArchitecture hx]
  · rw [named, named, ← harch', ofVendor_resolvedArchitecture hx]

/-- A host whose directory lists one processor. -/
def oneProcessor (processors : List ReportedCpu) (architecture : String)
    (cpuinfo : Option String) : Host where
  processors := processors
  architecture := architecture
  tree := some (.directory [ProcessorTree.processorEntry 0 "0\n" "0\n"])
  cpuinfo := cpuinfo.map String.toUTF8

private theorem counted_oneProcessor (processors : List ReportedCpu) (architecture : String)
    (cpuinfo : Option String) :
    (ProcessorTree.counts (oneProcessor processors architecture cpuinfo).treePath
      (oneProcessor processors architecture cpuinfo).tree).1 =
      .ok { threads := 1, cores := 1, sockets := 1 } := by
  simp only [oneProcessor]
  decide +kernel

/-- A text list that tells another vendor goes unread, and off x86 so does a vendor. -/
theorem text_list_goes_unread :
    SameOutcome (oneProcessor [⟨"GenuineIntel", "Xeon"⟩] "x86_64" none)
      (oneProcessor [⟨" GenuineIntel", "Xeon\n"⟩, ⟨"", ""⟩] " x86_64\n"
        (some "vendor_id: AuthenticAMD\n")) ∧
    SameOutcome (oneProcessor [⟨"Apple", "M1"⟩] "aarch64" none)
      (oneProcessor [⟨"", "M1"⟩] "aarch64" (some "vendor_id: AuthenticAMD\n")) := by
  constructor
  · have houtcome := outcome_by_first_processor
      (oneProcessor [⟨"GenuineIntel", "Xeon"⟩] "x86_64" none)
      (oneProcessor [⟨" GenuineIntel", "Xeon\n"⟩, ⟨"", ""⟩] " x86_64\n"
        (some "vendor_id: AuthenticAMD\n")) ⟨"GenuineIntel", "Xeon"⟩ ⟨" GenuineIntel", "Xeon\n"⟩
      [] [⟨"", ""⟩] rfl rfl rfl rfl (by decide +kernel) (by decide +kernel)
    exact (houtcome.1 (by decide +kernel)).2 (by decide +kernel) (by decide +kernel)
      ⟨_, counted_oneProcessor _ _ _⟩
  · have houtcome := outcome_by_first_processor
      (oneProcessor [⟨"Apple", "M1"⟩] "aarch64" none)
      (oneProcessor [⟨"", "M1"⟩] "aarch64" (some "vendor_id: AuthenticAMD\n"))
      ⟨"Apple", "M1"⟩ ⟨"", "M1"⟩ [] [] rfl rfl rfl rfl (by decide +kernel) (by decide +kernel)
    exact (houtcome.2 (by decide +kernel)).2 (by decide +kernel) ⟨_, counted_oneProcessor _ _ _⟩

end Host

end CpuCensus
