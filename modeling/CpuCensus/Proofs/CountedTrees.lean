import CpuCensus.Proofs.ProcessorTrees
import Mathlib

/-!
# What is counted in a tree of processors

A directory is counted exactly if it lists a processor and each processor tells its numbers, and the
counts are the sizes of sets: `counted_iff_processors_told`. Numbers are counted as they are from 1
up to the largest 32-bit number and all others alike, so not every two processors whose numbers
differ are told apart: `told_apart_iff_in_range`.
-/

namespace CpuCensus.ProcessorTree

/-! ### All entries -/

section entries

/-- The numbers of all processors that tell theirs. -/
def told (entries : FileTree.Listing) : Set FiledId := {id | ∃ entry ∈ entries, TellsIds entry id}

variable {root : String} {entries entries' : FileTree.Listing} {processors : List ProcessorId}

private theorem readEntries_eq_ok_iff_map :
    (readEntries root entries).1 = .ok processors ↔
      entries.filterMap (entryId? root) = processors.map .ok := by
  rw [readEntries_eq_ok_iff, ← List.forall₂_map_right_iff, List.forall₂_eq_eq_eq]

/-- As many processors are read as there are. -/
theorem length_of_readEntries (h : (readEntries root entries).1 = .ok processors) :
    processors.length = entries.countP fun entry => IsProcessor entry := by
  have hmap := readEntries_eq_ok_iff_map.mp h
  have hcount : (entries.filterMap (entryId? root)).length =
      entries.countP fun entry => IsProcessor entry := by
    rw [List.length_filterMap_eq_countP]
    apply List.countP_congr
    intro entry _
    rw [isSome_entryId?_iff, decide_eq_true_eq]
  rw [← hcount, hmap, List.length_map]

/-- What is read is what the processors tell. -/
theorem mem_of_readEntries (h : (readEntries root entries).1 = .ok processors) (p : ProcessorId) :
    p ∈ processors ↔ p ∈ FiledId.counted '' told entries := by
  have hmap := readEntries_eq_ok_iff_map.mp h
  have hmem : p ∈ processors ↔ .ok p ∈ entries.filterMap (entryId? root) := by
    rw [hmap, List.mem_map_of_injective (fun _ _ => Except.ok.inj)]
  rw [hmem, List.mem_filterMap]
  simp only [entryId?_eq_ok_iff]
  constructor
  · rintro ⟨entry, he, id, hid, hp⟩
    exact ⟨id, ⟨entry, he, hid⟩, hp⟩
  · rintro ⟨id, ⟨entry, he, hid⟩, hp⟩
    exact ⟨entry, he, id, hid, hp⟩

/-- The entries can be read exactly if each processor tells its numbers. -/
theorem exists_readEntries_iff (root : String) (entries : FileTree.Listing) :
    (∃ processors, (readEntries root entries).1 = .ok processors) ↔
      ∀ entry ∈ entries, IsProcessor entry → ∃ id, TellsIds entry id := by
  have hrange : (∃ processors, (readEntries root entries).1 = .ok processors) ↔
      entries.filterMap (entryId? root) ∈ Set.range (List.map Except.ok) := by
    simp only [readEntries_eq_ok_iff_map, Set.mem_range]
    exact exists_congr fun processors => eq_comm
  rw [hrange, Set.range_list_map, Set.mem_ofPred_eq]
  constructor
  · intro h entry he hentry
    obtain ⟨told, htold⟩ := Option.isSome_iff_exists.mp (isSome_entryId?_iff.mpr hentry)
    obtain ⟨p, rfl⟩ := h told (List.mem_filterMap.mpr ⟨entry, he, htold⟩)
    obtain ⟨id, hid, -⟩ := entryId?_eq_ok_iff.mp htold
    exact ⟨id, hid⟩
  · intro h told hmem
    obtain ⟨entry, he, htold⟩ := List.mem_filterMap.mp hmem
    obtain ⟨id, hid⟩ := h entry he (isSome_entryId?_iff.mp (Option.isSome_of_eq_some htold))
    have hok : entryId? root entry = some (.ok id.counted) :=
      entryId?_eq_ok_iff.mpr ⟨id, hid, rfl⟩
    rw [hok] at htold
    exact ⟨id.counted, Option.some.inj htold⟩

/-- The entry is a processor, but its files do not tell its numbers. -/
def IsUnreadable (entry : FileName × FileTree) : Prop :=
  IsProcessor entry ∧ ¬ ∃ id, TellsIds entry id

private theorem isUnreadable_iff (root : String) {entry : FileName × FileTree} :
    IsUnreadable entry ↔ ∃ fault, entryId? root entry = some (.error fault) := by
  cases htold : entryId? root entry with
  | none => simp [IsUnreadable, entryId?_eq_none_iff.mp htold]
  | some told =>
    have hentry : IsProcessor entry := isSome_entryId?_iff.mp (Option.isSome_of_eq_some htold)
    cases told with
    | error fault =>
      have hnone : ¬ ∃ id, TellsIds entry id := by
        rintro ⟨id, hid⟩
        rw [entryId?_eq_ok_iff.mpr ⟨id, hid, rfl⟩] at htold
        cases htold
      simp [IsUnreadable, hentry, hnone]
    | ok p =>
      obtain ⟨id, hid, -⟩ := entryId?_eq_ok_iff.mp htold
      have hsome : ∃ id, TellsIds entry id := ⟨id, hid⟩
      simp [IsUnreadable, hsome]

/-- The first entry that fails is the one that is reported. -/
theorem readEntries_of_first_fault {fault : ProbeFault} {entry : FileName × FileTree}
    (h : entryId? root entry = some (.error fault)) (before after : FileTree.Listing)
    (hbefore : ∀ other ∈ before, ¬ IsUnreadable other) :
    (readEntries root (before ++ entry :: after)).1 = .error fault := by
  induction before with
  | nil => rw [List.nil_append, fst_readEntries_cons, h]
  | cons other before ih =>
    have hrest := ih fun e he => hbefore e (List.mem_cons_of_mem other he)
    rw [List.cons_append, fst_readEntries_cons, hrest]
    cases hother : entryId? root other with
    | none => rfl
    | some told =>
      cases told with
      | ok p => rfl
      | error fault' =>
        exact absurd ((isUnreadable_iff root).mpr ⟨fault', hother⟩)
          (hbefore other List.mem_cons_self)

private theorem counts_directory (root : String) (entries : FileTree.Listing) :
    (counts root (some (.directory entries))).1 =
      (readEntries root entries).1.bind (Counts.ofProcessors root) := rfl

/-- The numbers of processors, of different cores and of different packages that a directory lists,
each up to the largest that is reported. -/
noncomputable def tally (entries : FileTree.Listing) : Counts where
  threads := capped (entries.countP fun entry => IsProcessor entry)
  cores := capped (FiledId.counted '' told entries).ncard
  sockets := capped ((fun id => narrowed id.package) '' told entries).ncard

private theorem ne_nil_iff_of_readEntries (h : (readEntries root entries).1 = .ok processors) :
    processors ≠ [] ↔ ∃ entry ∈ entries, IsProcessor entry := by
  rw [← List.length_pos_iff, length_of_readEntries h, List.countP_pos_iff]
  simp only [decide_eq_true_eq]

private theorem distinctCount_of_readEntries (h : (readEntries root entries).1 = .ok processors) :
    distinctCount processors = (FiledId.counted '' told entries).ncard :=
  distinctCount_eq_ncard (mem_of_readEntries h)

private theorem distinctCount_package_of_readEntries
    (h : (readEntries root entries).1 = .ok processors) :
    distinctCount (processors.map ProcessorId.package) =
      ((fun id => narrowed id.package) '' told entries).ncard := by
  apply distinctCount_eq_ncard
  intro package
  have himage : (fun id => narrowed id.package) '' told entries =
      ProcessorId.package '' (FiledId.counted '' told entries) := by
    rw [Set.image_image]
    rfl
  rw [himage, List.mem_map, Set.mem_image]
  simp only [mem_of_readEntries h]

/-- Whatever processors are read, their counts are the tally. -/
theorem ofProcessors_of_readEntries (h : (readEntries root entries).1 = .ok processors)
    (hne : processors ≠ []) (source : String) :
    Counts.ofProcessors source processors = .ok (tally entries) := by
  rw [Counts.ofProcessors_of_ne_nil source hne, length_of_readEntries h,
    distinctCount_of_readEntries h, distinctCount_package_of_readEntries h, tally]

theorem counts_eq_ok_iff {c : Counts} :
    (counts root (some (.directory entries))).1 = .ok c ↔
      (∃ entry ∈ entries, IsProcessor entry) ∧
      (∀ entry ∈ entries, IsProcessor entry → ∃ id, TellsIds entry id) ∧ c = tally entries := by
  rw [counts_directory, ← exists_readEntries_iff root entries]
  constructor
  · intro h
    cases hread : (readEntries root entries).1 with
    | error fault =>
      rw [hread] at h
      cases h
    | ok processors =>
      rw [hread] at h
      have hne : processors ≠ [] := Counts.ne_nil_of_ofProcessors h
      rw [Except.bind, ofProcessors_of_readEntries hread hne, Except.ok.injEq] at h
      exact ⟨(ne_nil_iff_of_readEntries hread).mp hne, ⟨processors, rfl⟩, h.symm⟩
  · rintro ⟨hsome, ⟨processors, hread⟩, rfl⟩
    have hne : processors ≠ [] := (ne_nil_iff_of_readEntries hread).mpr hsome
    rw [hread, Except.bind, ofProcessors_of_readEntries hread hne]

end entries

/-! ### Orders of a directory -/

section order

variable {root : String} {entries entries' : FileTree.Listing}

/-- The listings have the same processors, in whatever order, and any other entries. -/
def SameProcessors (entries entries' : FileTree.Listing) : Prop :=
  (entries.filter fun entry => IsProcessor entry).Perm
    (entries'.filter fun entry => IsProcessor entry)

namespace SameProcessors

theorem symm (h : SameProcessors entries entries') : SameProcessors entries' entries :=
  List.Perm.symm h

theorem mem_iff (h : SameProcessors entries entries') {entry : FileName × FileTree}
    (hentry : IsProcessor entry) : entry ∈ entries ↔ entry ∈ entries' := by
  have hmem := List.Perm.mem_iff (a := entry) h
  simpa [List.mem_filter, hentry] using hmem

end SameProcessors

end order

/-- Two processors without any files are the same processors in either order, but each time the one
that is listed first is reported. -/
theorem fault_follows_listing (root : String) {name name' : String}
    (h : isProcessorName name = true) (h' : isProcessorName name' = true) (hne : name ≠ name') :
    let bare (name : String) : FileName × FileTree :=
      (.text name, .directory [(.text "topology", .directory [])])
    let lacking (name : String) : ProbeFault :=
      .unreadable (root ++ "/" ++ name ++ "/topology" ++ "/physical_package_id") .notFound
    SameProcessors [bare name, bare name'] [bare name', bare name] ∧
    (counts root (some (.directory [bare name, bare name']))).1 = .error (lacking name) ∧
    (counts root (some (.directory [bare name', bare name]))).1 = .error (lacking name') ∧
    lacking name ≠ lacking name' := by
  intro bare lacking
  have hbare {name : String} (h : isProcessorName name = true) :
      entryId? root (bare name) = some (.error (lacking name)) := by
    rw [entryId?, if_pos h]
    rfl
  have hcounts {first second : FileName × FileTree} {fault : ProbeFault}
      (hfirst : entryId? root first = some (.error fault)) :
      (counts root (some (.directory [first, second]))).1 = .error fault := by
    have hread := readEntries_of_first_fault hfirst [] [second] (by simp)
    rw [counts_directory]
    exact congrArg (·.bind (Counts.ofProcessors root)) hread
  refine ⟨(List.Perm.swap ..).filter _, hcounts (hbare h), hcounts (hbare h'), ?_⟩
  intro he
  have hpath := congrArg String.toList (ProbeFault.unreadable.inj he).1
  simp only [String.toList_append, List.append_left_inj, List.append_right_inj] at hpath
  exact hne (String.toList_injective hpath)

/-! ### Numbers that are told apart -/

section apart

variable {root : String} {entries : FileTree.Listing}

/-- The numbers differ, and at least one of them is counted as it is and not as 0. -/
def ToldApart (m n : Int) : Prop := m ≠ n ∧ ((0 < m ∧ m < 2 ^ 32) ∨ (0 < n ∧ n < 2 ^ 32))

/-- The numbers with 0 in place of those below it. -/
def FiledId.withoutNegatives (id : FiledId) : FiledId where
  package := max id.package 0
  die := max id.die 0
  cluster := max id.cluster 0
  core := max id.core 0

/-- All of the numbers are below the bound. -/
structure FiledId.Below (bound : Int) (id : FiledId) : Prop where
  package : id.package < bound
  die : id.die < bound
  cluster : id.cluster < bound
  core : id.core < bound

private theorem narrowed_ne_iff {m n : Int} : narrowed m ≠ narrowed n ↔ ToldApart m n := by
  unfold narrowed ToldApart
  rw [bound32_eq]
  split <;> split <;> omega

/-- Below the bound, only negative numbers are counted as 0. -/
theorem narrowed_eq_max {n : Int} (h : n < 2 ^ 32) : (narrowed n : Int) = max n 0 := by
  unfold narrowed
  rw [bound32_eq]
  split <;> omega

private theorem counted_ne_iff {id id' : FiledId} :
    id.counted ≠ id'.counted ↔
      ToldApart id.package id'.package ∨ ToldApart id.die id'.die ∨
        ToldApart id.cluster id'.cluster ∨ ToldApart id.core id'.core := by
  simp only [← narrowed_ne_iff, FiledId.counted, ne_eq, ProcessorId.mk.injEq, not_and_or]

/-- The numbers of a processor as integers. -/
def ofCounted (p : ProcessorId) : FiledId := ⟨p.package, p.die, p.cluster, p.core⟩

private theorem ofCounted_injective : Function.Injective ofCounted := by
  rintro ⟨package, die, cluster, core⟩ ⟨package', die', cluster', core'⟩ h
  simpa [ofCounted] using h

private theorem ofCounted_counted {id : FiledId} (h : id.Below (2 ^ 32)) :
    ofCounted id.counted = id.withoutNegatives := by
  simp only [ofCounted, FiledId.counted, FiledId.withoutNegatives, narrowed_eq_max h.package,
    narrowed_eq_max h.die, narrowed_eq_max h.cluster, narrowed_eq_max h.core]

private theorem ncard_packages (h : ∀ id ∈ told entries, id.package < 2 ^ 32) :
    ((fun id => narrowed id.package) '' told entries).ncard =
      ((fun id => max id.package 0) '' told entries).ncard := by
  have himage : (fun id => max id.package 0) '' told entries =
      Nat.cast '' ((fun id => narrowed id.package) '' told entries) := by
    rw [Set.image_image]
    apply Set.image_congr
    intro id hid
    rw [narrowed_eq_max (h id hid)]
  rw [himage, Set.ncard_image_of_injective _ Nat.cast_injective]

private theorem ncard_counted (h : ∀ id ∈ told entries, id.Below (2 ^ 32)) :
    (FiledId.counted '' told entries).ncard =
      (FiledId.withoutNegatives '' told entries).ncard := by
  have himage : FiledId.withoutNegatives '' told entries =
      ofCounted '' (FiledId.counted '' told entries) := by
    rw [Set.image_image]
    apply Set.image_congr
    intro id hid
    rw [ofCounted_counted (h id hid)]
  rw [himage, Set.ncard_image_of_injective _ ofCounted_injective]

private theorem ncard_counted_le
    (h : ∀ entry ∈ entries, IsProcessor entry → ∃ id, TellsIds entry id) :
    (FiledId.counted '' told entries).ncard ≤ entries.countP fun entry => IsProcessor entry := by
  obtain ⟨processors, hread⟩ := (exists_readEntries_iff "" entries).mpr h
  rw [← distinctCount_of_readEntries hread, ← length_of_readEntries hread]
  exact distinctCount_le_length processors

private theorem ncard_packages_le
    (h : ∀ entry ∈ entries, IsProcessor entry → ∃ id, TellsIds entry id) :
    ((fun id => narrowed id.package) '' told entries).ncard ≤
      (FiledId.counted '' told entries).ncard := by
  obtain ⟨processors, hread⟩ := (exists_readEntries_iff "" entries).mpr h
  rw [← distinctCount_of_readEntries hread, ← distinctCount_package_of_readEntries hread]
  exact distinctCount_map_le ProcessorId.package processors

end apart

/-- A directory with fewer than 2 ^ 32 processors is counted without a cap. Two processors are in
different sockets exactly if their packages differ and one of the two is from 1 up to the largest
32-bit number: a package beyond that range counts as 0, as a negative one does. The same holds of
cores and the four numbers of a processor. Where no number is beyond the range, only the negative
ones are replaced by 0. -/
theorem told_apart_iff_in_range (root : String) (entries : FileTree.Listing) (c : Counts)
    (h : (counts root (some (.directory entries))).1 = .ok c)
    (hfew : (entries.countP fun entry => IsProcessor entry) < 2 ^ 32) :
    (∀ entry ∈ entries, IsProcessor entry → ∃! id, TellsIds entry id) ∧
    c.sockets = ((fun id => id.counted.package) '' told entries).ncard ∧
    c.cores = (FiledId.counted '' told entries).ncard ∧
    (∀ id ∈ told entries, ∀ id' ∈ told entries,
      (id.counted.package ≠ id'.counted.package ↔ ToldApart id.package id'.package) ∧
      (id.counted ≠ id'.counted ↔
        ToldApart id.package id'.package ∨ ToldApart id.die id'.die ∨
          ToldApart id.cluster id'.cluster ∨ ToldApart id.core id'.core)) ∧
    ((∀ id ∈ told entries, id.package < 2 ^ 32) →
      c.sockets = ((fun id => max id.package 0) '' told entries).ncard) ∧
    ((∀ id ∈ told entries, id.Below (2 ^ 32)) →
      c.cores = (FiledId.withoutNegatives '' told entries).ncard) := by
  obtain ⟨-, hall, rfl⟩ := counts_eq_ok_iff.mp h
  have hcores := ncard_counted_le hall
  have hpackages := ncard_packages_le hall
  have hc : (tally entries).cores = (FiledId.counted '' told entries).ncard :=
    capped_eq_self (by omega)
  have hs : (tally entries).sockets = ((fun id => narrowed id.package) '' told entries).ncard :=
    capped_eq_self (by omega)
  refine ⟨?_, hs, hc, fun id _ id' _ => ⟨narrowed_ne_iff, counted_ne_iff⟩, ?_, ?_⟩
  · intro entry he hentry
    obtain ⟨id, hid⟩ := hall entry he hentry
    exact ⟨id, hid, fun id' hid' => hid'.unique hid⟩
  · intro hbelow
    rw [hs, ncard_packages hbelow]
  · intro hbelow
    rw [hc, ncard_counted hbelow]

/-- The files of a processor on a system that tells no dies and clusters. -/
def processorFiles (package core : String) : FileTree.Listing :=
  [(.text "physical_package_id", .file package.toUTF8), (.text "core_id", .file core.toUTF8)]

/-- The entry of a numbered processor. -/
def processorEntry (n : Nat) (package core : String) : FileName × FileTree :=
  (.text ("cpu" ++ Nat.repr n),
    .directory [(.text "topology", .directory (processorFiles package core))])

private theorem tellsIds_processorEntry (n : Nat) {package core : String} {p c : Int}
    (hp : Text.signed? (Text.trim package) = some p)
    (hc : Text.signed? (Text.trim core) = some c) :
    TellsIds (processorEntry n package core) ⟨p, 0, 0, c⟩ := by
  refine ⟨processorFiles package core,
    ⟨(Nat.repr n).toList, [(.text "topology", .directory (processorFiles package core))],
      Text.isNumeral_repr n, ?_, rfl⟩, ?_⟩
  · rw [String.ofList_toList]
    rfl
  · exact
      { package := holdsInteger_iff.mpr ⟨package, FileTree.readText_toUTF8 package, hp⟩
        die := rfl
        cluster := rfl
        core := holdsInteger_iff.mpr ⟨core, FileTree.readText_toUTF8 core, hc⟩ }

private theorem told_eq_of_forall₂ {entries : FileTree.Listing} {ids : List FiledId}
    (h : List.Forall₂ TellsIds entries ids) : told entries = {id | id ∈ ids} := by
  ext id
  induction h with
  | nil => simp [told]
  | @cons entry first entries ids hentry _ ih =>
    have hfirst : TellsIds entry id ↔ id = first :=
      ⟨fun hid => hid.unique hentry, fun hid => hid ▸ hentry⟩
    simp only [told, Set.mem_ofPred_eq, List.mem_cons, or_and_right, exists_or, exists_eq_left,
      hfirst] at ih ⊢
    rw [ih]

/-- A processor in each of the packages 0, -1 and 4294967295. -/
def borderPackages : FileTree.Listing :=
  [processorEntry 0 "0\n" "0\n", processorEntry 1 "-1\n" "0\n",
    processorEntry 2 "4294967295\n" "0\n"]

theorem border_packages_told_apart :
    (counts "cpu" (some (.directory borderPackages))).1 =
      .ok { threads := 3, cores := 2, sockets := 2 } ∧
    (borderPackages.countP fun entry => IsProcessor entry) < 2 ^ 32 ∧
    (∀ id ∈ told borderPackages, id.package < 2 ^ 32) ∧
    2 = ((fun id => max id.package 0) '' told borderPackages).ncard := by
  have hcounts : (counts "cpu" (some (.directory borderPackages))).1 =
      .ok { threads := 3, cores := 2, sockets := 2 } := by decide +kernel
  have hfew : (borderPackages.countP fun entry => IsProcessor entry) < 2 ^ 32 := by decide +kernel
  have htold : told borderPackages =
      {id | id ∈ [⟨0, 0, 0, 0⟩, ⟨-1, 0, 0, 0⟩, ⟨4294967295, 0, 0, 0⟩]} := by
    refine told_eq_of_forall₂ (.cons ?_ (.cons ?_ (.cons ?_ .nil)))
    all_goals exact tellsIds_processorEntry _ (by decide +kernel) (by decide +kernel)
  have hbelow : ∀ id ∈ told borderPackages, id.package < 2 ^ 32 := by
    rw [htold]
    simp
  obtain ⟨-, -, -, -, hsockets, -⟩ := told_apart_iff_in_range "cpu" borderPackages _ hcounts hfew
  exact ⟨hcounts, hfew, hbelow, hsockets hbelow⟩

/-- A processor in each of the packages 0 and 4294967296. -/
def largePackage : FileTree.Listing :=
  [processorEntry 0 "0\n" "0\n", processorEntry 1 "4294967296\n" "1\n"]

/-- A package beyond the 32-bit range is counted as package 0. -/
theorem large_package_joins_first :
    (counts "cpu" (some (.directory largePackage))).1 =
      .ok { threads := 2, cores := 2, sockets := 1 } ∧
    told largePackage = {id | id ∈ [⟨0, 0, 0, 0⟩, ⟨4294967296, 0, 0, 1⟩]} ∧
    ((fun id => max id.package 0) '' told largePackage).ncard = 2 := by
  have htold : told largePackage = {id | id ∈ [⟨0, 0, 0, 0⟩, ⟨4294967296, 0, 0, 1⟩]} := by
    refine told_eq_of_forall₂ (.cons ?_ (.cons ?_ .nil))
    all_goals exact tellsIds_processorEntry _ (by decide +kernel) (by decide +kernel)
  have himage : (fun id => max id.package 0) '' told largePackage = {0, 4294967296} := by
    rw [htold]
    ext n
    simp [eq_comm]
  refine ⟨by decide +kernel, htold, ?_⟩
  rw [himage, Set.ncard_pair (by decide)]

end CpuCensus.ProcessorTree
