import CpuCensus.Host
import CpuCensus.Proofs.CpuNames
import CpuCensus.Proofs.SummarisedTexts

/-!
# Snapshots of a host

Whatever a host lets the program read, a snapshot is put together from ordered counts and known
names, so that it never has a defect. It fails for want of processors, of counts or of a name for
the architecture, in this order; the counts that are missed are then those of the text list.
-/

namespace CpuCensus

/-! ### Snapshots without defect -/

namespace Snapshot

private theorem textDefect?_eq_none_iff {field value : String} :
    textDefect? field value = none ↔ CpuName.HoldsToken value := by
  constructor
  · intro h
    unfold textDefect? at h
    split at h
    · cases h
    · split at h
      · next hk => exact CpuName.isKnown_iff.mp hk
      · cases h
  · intro h
    rw [textDefect?, h.not_isAllBlank, CpuName.isKnown_iff.mpr h]
    rfl

/-- A snapshot is without defect exactly if its counts are in order and its names are known. -/
theorem defect?_eq_none_iff {s : Snapshot} :
    s.defect? = none ↔ (1 ≤ s.sockets ∧ s.sockets ≤ s.cores ∧ s.cores ≤ s.threads) ∧
      CpuName.HoldsToken s.cpu ∧ CpuName.HoldsToken s.description := by
  constructor
  · intro h
    unfold defect? at h
    split at h
    · cases h
    · split at h
      · cases h
      · split at h
        · cases h
        · obtain ⟨hcpu, hdescription⟩ := Option.or_eq_none_iff.mp h
          exact ⟨by omega, textDefect?_eq_none_iff.mp hcpu,
            textDefect?_eq_none_iff.mp hdescription⟩
  · rintro ⟨⟨hsockets, hcores, hthreads⟩, hcpu, hdescription⟩
    rw [defect?, if_neg (by omega), if_neg (by omega), if_neg (by omega), Option.or_eq_none_iff]
    exact ⟨textDefect?_eq_none_iff.mpr hcpu, textDefect?_eq_none_iff.mpr hdescription⟩

theorem checked_eq_ok_iff {s x : Snapshot} : s.checked = .ok x ↔ s.defect? = none ∧ s = x := by
  unfold checked
  cases s.defect? <;> simp

/-- The snapshot with these counts and texts. -/
def ofCounts (c : Counts) (cpu description : String) (startTime : Instant) : Snapshot :=
  { threads := c.threads, cores := c.cores, sockets := c.sockets, cpu, description, startTime }

@[simp] theorem cpu_ofCounts (c : Counts) (cpu description : String) (startTime : Instant) :
    (ofCounts c cpu description startTime).cpu = cpu := rfl

@[simp] theorem description_ofCounts (c : Counts) (cpu description : String)
    (startTime : Instant) : (ofCounts c cpu description startTime).description = description := rfl

/-- A snapshot with ordered counts and known names is accepted. -/
theorem checked_ofCounts {c : Counts} (hc : c.Ordered) {cpu description : String}
    (hcpu : CpuName.HoldsToken cpu) (hd : CpuName.HoldsToken description) (startTime : Instant) :
    (ofCounts c cpu description startTime).checked =
      .ok (ofCounts c cpu description startTime) :=
  checked_eq_ok_iff.mpr ⟨defect?_eq_none_iff.mpr
    ⟨⟨hc.sockets_pos, hc.sockets_le_cores, hc.cores_le_threads⟩, hcpu, hd⟩, rfl⟩

end Snapshot

/-! ### Counts of a host -/

theorem ProcessorTree.ordered_of_counts {root : String} {tree : Option FileTree} {c : Counts}
    (h : (ProcessorTree.counts root tree).1 = .ok c) : c.Ordered := by
  unfold counts at h
  split at h
  · cases h
  · next entries _ =>
    cases hp : (readEntries root entries).1 with
    | error fault =>
      simp only [hp] at h
      cases h
    | ok processors =>
      simp only [hp] at h
      exact Counts.ordered_of_ofProcessors h

namespace Host

/-- The counts that the text list tells, if it is a text and tells them. -/
def listedCounts (h : Host) : Except ProbeFault Counts :=
  match h.cpuinfo with
  | none => .error (.unreadable h.cpuinfoPath .notFound)
  | some bytes =>
    match String.fromUTF8? bytes with
    | none => .error (.unreadable h.cpuinfoPath .notUtf8)
    | some text => (Cpuinfo.parse text).counts

/-- The counts that the file tree tells, or else those of the text list. -/
def topology (h : Host) : Except ProbeFault Counts :=
  match (ProcessorTree.counts h.treePath h.tree).1 with
  | .ok c => .ok c
  | .error _ => h.listedCounts

theorem readCpuinfo_bind_counts (h : Host) :
    h.readCpuinfo.bind Cpuinfo.Summary.counts = h.listedCounts := by
  unfold readCpuinfo listedCounts
  cases h.cpuinfo with
  | none => rfl
  | some bytes =>
    simp only [Option.map_some, FileTree.readText]
    cases String.fromUTF8? bytes <;> rfl

theorem counts_fst (h : Host) : h.counts.1 = h.topology := by
  unfold counts topology
  cases ProcessorTree.counts h.treePath h.tree with
  | mk counted notices =>
    cases counted with
    | ok c => rfl
    | error fault => exact h.readCpuinfo_bind_counts

/-- What is wrong with the text list is that it cannot be read or does not tell the sockets. -/
theorem listedCounts_fault {h : Host} {fault : ProbeFault} (hl : h.listedCounts = .error fault) :
    (∃ cause, fault = .unreadable h.cpuinfoPath cause) ∨
    ∃ reason, fault = .undetermined "sockets" reason := by
  unfold listedCounts at hl
  split at hl
  · cases hl
    exact .inl ⟨_, rfl⟩
  · split at hl
    · cases hl
      exact .inl ⟨_, rfl⟩
    · next text _ =>
      rcases (Cpuinfo.parse text).counts_cases with ⟨⟨hne, -⟩, he⟩ | ⟨-, he⟩
      · rw [he, Counts.ofProcessors_of_ne_nil _ hne] at hl
        cases hl
      · rw [he] at hl
        cases hl
        exact .inr ⟨_, rfl⟩

private theorem ordered_of_topology {h : Host} {c : Counts} (ht : h.topology = .ok c) :
    c.Ordered := by
  unfold topology at ht
  split at ht
  · next c' hc =>
    cases ht
    exact ProcessorTree.ordered_of_counts hc
  · unfold listedCounts at ht
    repeat' split at ht
    · cases ht
    · cases ht
    · exact Cpuinfo.Summary.ordered_of_counts ht

/-! ### Putting a snapshot together -/

theorem outcome_assemble (h : Host) (cpu : ReportedCpu) (c : Counts) (startTime : Instant) :
    (h.assemble cpu c startTime).outcome =
      (CpuName.ofVendor cpu.vendor h.resolvedArchitecture).bind fun name =>
        (Snapshot.ofCounts c name (CpuName.describe name cpu.brand) startTime).checked := by
  unfold assemble
  cases CpuName.ofVendor cpu.vendor h.resolvedArchitecture with
  | error fault => rfl
  | ok name =>
    simp only [Except.bind, Snapshot.ofCounts]
    split <;> simp only [*]

/-- From ordered counts a snapshot is put together once the processor has a known name. -/
theorem outcome_assemble_of_ok (h : Host) (cpu : ReportedCpu) {name : String}
    (hname : CpuName.ofVendor cpu.vendor h.resolvedArchitecture = .ok name)
    (hknown : CpuName.HoldsToken name) {c : Counts} (hc : c.Ordered) (startTime : Instant) :
    (h.assemble cpu c startTime).outcome =
      .ok (Snapshot.ofCounts c name (CpuName.describe name cpu.brand) startTime) := by
  rw [outcome_assemble, hname]
  exact Snapshot.checked_ofCounts hc hknown (hknown.describe cpu.brand) startTime

private theorem outcome_assemble_of_error (h : Host) (cpu : ReportedCpu) {fault : ProbeFault}
    (hname : CpuName.ofVendor cpu.vendor h.resolvedArchitecture = .error fault)
    (c : Counts) (startTime : Instant) :
    (h.assemble cpu c startTime).outcome = .error fault := by
  rw [outcome_assemble, hname]
  rfl

private theorem outcome_sample_of_nil {h : Host} (hp : h.processors = []) (startTime : Instant) :
    (h.sample startTime).outcome =
      .error (.undetermined "hardware threads" "sysinfo reported no processors") := by
  simp only [sample, hp]

theorem outcome_sample_of_fault {h : Host} (hp : h.processors ≠ []) {fault : ProbeFault}
    (ht : h.topology = .error fault) (startTime : Instant) :
    (h.sample startTime).outcome = .error fault := by
  have hc : h.counts.1 = .error fault := h.counts_fst.trans ht
  cases hl : h.processors with
  | nil => exact absurd hl hp
  | cons first rest => simp only [sample, hl, hc]

private theorem outcome_sample_of_counts {h : Host} (hp : h.processors ≠ []) {c : Counts}
    (ht : h.topology = .ok c) (startTime : Instant) :
    ∃ cpu, (h.sample startTime).outcome = (h.assemble cpu c startTime).outcome := by
  have hc : h.counts.1 = .ok c := h.counts_fst.trans ht
  cases hl : h.processors with
  | nil => exact absurd hl hp
  | cons first rest => exact ⟨h.identify first, by simp only [sample, hl, hc]⟩

/-- With processors and counts it is the architecture that decides. -/
theorem outcome_sample_cases {h : Host} (hp : h.processors ≠ []) {c : Counts}
    (ht : h.topology = .ok c) (startTime : Instant) :
    ((∀ vendor, ∃ name, CpuName.ofVendor vendor h.resolvedArchitecture = .ok name) ∧
      ∃ (cpu : ReportedCpu) (name : String), CpuName.HoldsToken name ∧
        (h.sample startTime).outcome = .ok
          (Snapshot.ofCounts c name (CpuName.describe name cpu.brand) startTime)) ∨
    ((∀ vendor, CpuName.ofVendor vendor h.resolvedArchitecture =
        .error (.unsupportedArchitecture (Text.trim h.resolvedArchitecture))) ∧
      (h.sample startTime).outcome =
        .error (.unsupportedArchitecture (Text.trim h.resolvedArchitecture))) := by
  obtain ⟨cpu, ho⟩ := outcome_sample_of_counts hp ht startTime
  rw [ho]
  rcases CpuName.ofVendor_cases h.resolvedArchitecture with hnamed | hrefused
  · left
    obtain ⟨name, hname, hknown⟩ := hnamed cpu.vendor
    refine ⟨fun vendor => ?_, cpu, name, hknown,
      h.outcome_assemble_of_ok cpu hname hknown (ordered_of_topology ht) startTime⟩
    obtain ⟨name', hname', -⟩ := hnamed vendor
    exact ⟨name', hname'⟩
  · right
    exact ⟨hrefused, h.outcome_assemble_of_error cpu (hrefused cpu.vendor) c startTime⟩

/-- There are counts if the file tree tells them, or else if the text list does. -/
theorem exists_topology_iff (h : Host) :
    (∃ c, h.topology = .ok c) ↔
      (∃ c, (ProcessorTree.counts h.treePath h.tree).1 = .ok c) ∨ ∃ c, h.listedCounts = .ok c := by
  unfold topology
  cases (ProcessorTree.counts h.treePath h.tree).1 <;> simp

/-- The counts that are missed are those of the text list. -/
theorem topology_eq_error {h : Host} {fault : ProbeFault} :
    h.topology = .error fault ↔
      (∃ treeFault, (ProcessorTree.counts h.treePath h.tree).1 = .error treeFault) ∧
      h.listedCounts = .error fault := by
  unfold topology
  cases (ProcessorTree.counts h.treePath h.tree).1 <;> simp

/-- A snapshot that is taken is put together from processors, counts and a known name. -/
theorem outcome_sample_ok {h : Host} {startTime : Instant} {s : Snapshot}
    (ho : (h.sample startTime).outcome = .ok s) :
    h.processors ≠ [] ∧
    (∀ vendor, ∃ name, CpuName.ofVendor vendor h.resolvedArchitecture = .ok name) ∧
    ∃ c, h.topology = .ok c ∧
      ∃ (cpu : ReportedCpu) (name : String), CpuName.HoldsToken name ∧
        s = Snapshot.ofCounts c name (CpuName.describe name cpu.brand) startTime := by
  by_cases hp : h.processors = []
  · cases (outcome_sample_of_nil hp startTime).symm.trans ho
  · cases ht : h.topology with
    | error fault => cases (outcome_sample_of_fault hp ht startTime).symm.trans ho
    | ok c =>
      rcases outcome_sample_cases hp ht startTime with ⟨hnamed, cpu, name, hknown, hs⟩ | ⟨-, hs⟩
      · exact ⟨hp, hnamed, c, rfl, cpu, name, hknown, Except.ok.inj (ho.symm.trans hs)⟩
      · cases hs.symm.trans ho

/-- What a snapshot can fail for. -/
theorem outcome_sample_error {h : Host} {startTime : Instant} {fault : ProbeFault}
    (ho : (h.sample startTime).outcome = .error fault) :
    (∃ quantity reason, fault = .undetermined quantity reason) ∨
    (∃ cause, fault = .unreadable h.cpuinfoPath cause) ∨
    ∃ arch, fault = .unsupportedArchitecture arch := by
  by_cases hp : h.processors = []
  · exact .inl ⟨_, _, Except.error.inj (ho.symm.trans (outcome_sample_of_nil hp startTime))⟩
  · cases ht : h.topology with
    | error lack =>
      have he : fault = lack :=
        Except.error.inj (ho.symm.trans (outcome_sample_of_fault hp ht startTime))
      rw [he]
      rcases listedCounts_fault (topology_eq_error.mp ht).2 with ⟨cause, hl⟩ | ⟨reason, hl⟩
      · exact .inr (.inl ⟨cause, hl⟩)
      · exact .inl ⟨_, reason, hl⟩
    | ok c =>
      rcases outcome_sample_cases hp ht startTime with ⟨-, cpu, name, -, hs⟩ | ⟨-, hs⟩
      · cases hs.symm.trans ho
      · exact .inr (.inr ⟨_, Except.error.inj (ho.symm.trans hs)⟩)

/-! ### Main statement -/

/-- Whatever a host lets the program read, a snapshot of it never has a defect and never fails for
the system. It is taken exactly if processors are reported, the file tree or else the text list
tells the counts, and the architecture has a name. Otherwise it fails for the first of these: that
no processors are reported, what is wrong with the text list whatever is wrong with the file tree,
and that the architecture is not supported. Every snapshot has the counts that were told, at least
one socket, no more sockets than cores and no more cores than threads, and its name and description
hold known tokens. -/
theorem snapshot_taken_or_first_lack (h : Host) (startTime : Instant) :
    let outcome := (h.sample startTime).outcome
    let told := (ProcessorTree.counts h.treePath h.tree).1
    let arch := h.resolvedArchitecture
    (∀ defect, outcome ≠ .error (.invalid defect)) ∧
    (∀ system, outcome ≠ .error (.unsupportedSystem system)) ∧
    ((∃ s, outcome = .ok s) ↔
      h.processors ≠ [] ∧ ((∃ c, told = .ok c) ∨ ∃ c, h.listedCounts = .ok c) ∧
      ∀ vendor, ∃ name, CpuName.ofVendor vendor arch = .ok name) ∧
    (h.processors = [] → outcome =
      .error (.undetermined "hardware threads" "sysinfo reported no processors")) ∧
    (h.processors ≠ [] → ∀ treeFault fault, told = .error treeFault →
      h.listedCounts = .error fault → outcome = .error fault) ∧
    (h.processors ≠ [] → ((∃ c, told = .ok c) ∨ ∃ c, h.listedCounts = .ok c) →
      ∀ vendor fault, CpuName.ofVendor vendor arch = .error fault →
        fault = .unsupportedArchitecture (Text.trim arch) ∧ outcome = .error fault) ∧
    (∀ s, outcome = .ok s →
      h.topology = .ok { threads := s.threads, cores := s.cores, sockets := s.sockets } ∧
      1 ≤ s.sockets ∧ s.sockets ≤ s.cores ∧ s.cores ≤ s.threads ∧
      (∃ token ∈ CpuName.knownTokens, token.toList <:+: s.cpu.toList) ∧
      ∃ token ∈ CpuName.knownTokens, token.toList <:+: s.description.toList) := by
  intro outcome told arch
  refine ⟨?_, ?_, ⟨?_, ?_⟩, ?_, ?_, ?_, ?_⟩
  · intro defect ho
    rcases outcome_sample_error ho with ⟨_, _, he⟩ | ⟨_, he⟩ | ⟨_, he⟩ <;> cases he
  · intro system ho
    rcases outcome_sample_error ho with ⟨_, _, he⟩ | ⟨_, he⟩ | ⟨_, he⟩ <;> cases he
  · rintro ⟨s, ho⟩
    obtain ⟨hp, hnamed, c, ht, -⟩ := outcome_sample_ok ho
    exact ⟨hp, h.exists_topology_iff.mp ⟨c, ht⟩, hnamed⟩
  · rintro ⟨hp, hcounts, hnamed⟩
    obtain ⟨c, ht⟩ := h.exists_topology_iff.mpr hcounts
    rcases outcome_sample_cases hp ht startTime with ⟨-, cpu, name, -, ho⟩ | ⟨hrefused, -⟩
    · exact ⟨_, ho⟩
    · obtain ⟨name, hname⟩ := hnamed ""
      cases (hrefused "").symm.trans hname
  · intro hp
    exact outcome_sample_of_nil hp startTime
  · intro hp treeFault fault htold hlisted
    exact outcome_sample_of_fault hp (topology_eq_error.mpr ⟨⟨treeFault, htold⟩, hlisted⟩) startTime
  · intro hp hcounts vendor fault hname
    obtain ⟨c, ht⟩ := h.exists_topology_iff.mpr hcounts
    rcases outcome_sample_cases hp ht startTime with ⟨hnamed, -⟩ | ⟨hrefused, ho⟩
    · obtain ⟨name, hok⟩ := hnamed vendor
      cases hok.symm.trans hname
    · have he := Except.error.inj (hname.symm.trans (hrefused vendor))
      exact ⟨he, he ▸ ho⟩
  · intro s ho
    obtain ⟨-, -, c, ht, cpu, name, hknown, rfl⟩ := outcome_sample_ok ho
    have hc := ordered_of_topology ht
    rw [Snapshot.cpu_ofCounts, Snapshot.description_ofCounts]
    exact ⟨ht, hc.sockets_pos, hc.sockets_le_cores, hc.cores_le_threads, hknown,
      hknown.describe cpu.brand⟩

end Host

end CpuCensus
