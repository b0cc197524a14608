import CpuCensus.Host.ProcessorTree
import CpuCensus.Proofs.ProcessorCounts
import CpuCensus.Proofs.TextReading

/-!
# Trees of processors

Each entry of a directory is read by itself: `entryId?` says what it tells, and all entries are read
if every processor among them can be. `IsProcessor` says which entries are processors that are
online, and `TellsIds` which numbers the files of a processor hold, both without a word on how they
are read; `entryId?_eq_ok_iff` is where they meet. `Lists` describes the trees that list given
packages and cores in any order. Main statement: `counts_of_lists`, such a tree is counted, and its
counts are those of the packages and cores.
-/

namespace CpuCensus

/-- The processor in a package and at a core, on a system that tells no dies and clusters. -/
def ProcessorId.ofPair (pair : UInt32 × UInt32) : ProcessorId :=
  { package := pair.1.toNat, core := pair.2.toNat }

theorem FileTree.readText_toUTF8 (s : String) : readText (some (.file s.toUTF8)) = .ok s := by
  have hs : String.fromUTF8? s.toUTF8 = some s := dif_pos s.isValidUTF8
  rw [readText, hs]

private theorem FileTree.readText_eq_ok_iff {file : Option FileTree} {s : String} :
    readText file = .ok s ↔ file = some (.file s.toUTF8) := by
  constructor
  · intro h
    match file with
    | none => cases h
    | some (.directory _) => cases h
    | some (.file contents) =>
      rw [readText, String.fromUTF8?] at h
      by_cases hvalid : contents.IsValidUTF8
      · rw [dif_pos hvalid] at h
        cases h
        rfl
      · rw [dif_neg hvalid] at h
        cases h
  · rintro rfl
    exact readText_toUTF8 s

namespace ProcessorTree

/-! ### What the entries tell -/

/-- What an entry tells: nothing unless it is a processor that is online. -/
def entryId? (root : String) : FileName × FileTree → Option (Except ProbeFault ProcessorId)
  | (.text name, node) =>
    if isProcessorName name then
      (topology? node).map (readProcessor (root ++ "/" ++ name ++ "/topology"))
    else none
  | (.bytes _, _) => none

/-- An entry that tells nothing is passed over, and one that cannot be read ends the reading. -/
theorem fst_readEntries_cons (root : String) (entry : FileName × FileTree)
    (entries : FileTree.Listing) :
    (readEntries root (entry :: entries)).1 =
      match entryId? root entry with
      | none => (readEntries root entries).1
      | some (.error fault) => .error fault
      | some (.ok processor) => (readEntries root entries).1.map (processor :: ·) := by
  obtain ⟨name, node⟩ := entry
  cases name with
  | bytes name => rfl
  | text name =>
    rw [readEntries, entryId?]
    by_cases hname : isProcessorName name = true
    · rw [if_pos hname, if_pos hname]
      cases topology? node with
      | none => rfl
      | some files =>
        simp only [Option.map_some]
        cases readProcessor (root ++ "/" ++ name ++ "/topology") files <;> rfl
    · rw [if_neg hname, if_neg hname]

/-- The entries are read exactly if each of them that tells something tells a processor. -/
theorem readEntries_eq_ok_iff {root : String} {entries : FileTree.Listing}
    {processors : List ProcessorId} :
    (readEntries root entries).1 = .ok processors ↔
      List.Forall₂ (fun told processor => told = .ok processor)
        (entries.filterMap (entryId? root)) processors := by
  induction entries generalizing processors with
  | nil =>
    rw [List.filterMap_nil, List.forall₂_nil_left_iff, readEntries, Except.ok.injEq]
    exact eq_comm
  | cons entry entries ih =>
    rw [fst_readEntries_cons]
    cases htold : entryId? root entry with
    | none => rw [List.filterMap_cons_none htold]; exact ih
    | some told =>
      rw [List.filterMap_cons_some htold, List.forall₂_cons_left_iff]
      simp only [← ih]
      cases told with
      | error fault => simp
      | ok processor =>
        cases (readEntries root entries).1 with
        | error fault => simp [Except.map]
        | ok rest => simp [Except.map, eq_comm]

/-- In whatever order a directory is listed, the same processors are read. -/
theorem readEntries_perm {root : String} {entries entries' : FileTree.Listing}
    (hp : entries.Perm entries') {processors : List ProcessorId}
    (h : (readEntries root entries').1 = .ok processors) :
    ∃ processors', (readEntries root entries).1 = .ok processors' ∧
      processors'.Perm processors := by
  have htold := hp.filterMap (entryId? root)
  obtain ⟨processors', hread, hperm⟩ :=
    List.perm_comp_forall₂ htold (readEntries_eq_ok_iff.mp h)
  exact ⟨processors', readEntries_eq_ok_iff.mpr hread, hperm⟩

/-! ### Numbers in files -/

section files

variable {file : Option FileTree} {n : Int}

/-- The file is a text: a number of the 64-bit signed range with blanks around it. -/
def HoldsInteger (file : Option FileTree) (n : Int) : Prop :=
  Text.IsInt64 n ∧ ∃ before number after : List Char,
    Text.AllBlank before ∧ Text.AllBlank after ∧ Text.WritesInteger number n ∧
      file = some (.file (String.ofList (before ++ number ++ after)).toUTF8)

/-- The file holds the number, or there is no file and the number is 0. -/
def HoldsOptional (file : Option FileTree) (n : Int) : Prop :=
  match file with
  | some (.file contents) => HoldsInteger (some (.file contents)) n
  | _ => n = 0

theorem holdsInteger_iff :
    HoldsInteger file n ↔
      ∃ s, FileTree.readText file = .ok s ∧ Text.signed? (Text.trim s) = some n := by
  simp only [FileTree.readText_eq_ok_iff, Text.signed?_trim_eq_some_iff, HoldsInteger]
  constructor
  · rintro ⟨hn, before, number, after, hb, ha, hw, hf⟩
    exact ⟨_, hf, hn, before, number, after, hb, ha, hw, rfl⟩
  · rintro ⟨_, hf, hn, before, number, after, hb, ha, hw, rfl⟩
    exact ⟨hn, before, number, after, hb, ha, hw, hf⟩

theorem HoldsInteger.unique {m : Int} (hm : HoldsInteger file m) (hn : HoldsInteger file n) :
    m = n := by
  obtain ⟨s, hs, hm⟩ := holdsInteger_iff.mp hm
  obtain ⟨t, ht, hn⟩ := holdsInteger_iff.mp hn
  rw [hs, Except.ok.injEq] at ht
  rw [ht, hn] at hm
  exact (Option.some.inj hm).symm

theorem HoldsOptional.unique {m : Int} (hm : HoldsOptional file m) (hn : HoldsOptional file n) :
    m = n := by
  match file with
  | some (.file _) => exact HoldsInteger.unique hm hn
  | some (.directory _) => exact hm.trans hn.symm
  | none => exact hm.trans hn.symm

/-- A number that a file holds is read as it is counted, and nothing else is read. -/
theorem readId_eq_ok_iff {path : String} {m : Nat} :
    readId path file = .ok m ↔ ∃ n, HoldsInteger file n ∧ narrowed n = m := by
  simp only [holdsInteger_iff, readId]
  cases FileTree.readText file with
  | error cause => simp
  | ok s =>
    cases hn : Text.signed? (Text.trim s) with
    | none => simp [hn]
    | some n => simp [hn]

private theorem readOptionalId_eq_ok_iff {path : String} {m : Nat} :
    readOptionalId path file = .ok m ↔ ∃ n, HoldsOptional file n ∧ narrowed n = m := by
  unfold readOptionalId HoldsOptional
  split
  · exact readId_eq_ok_iff
  · simp [narrowed]

end files

/-! ### What processors tell -/

/-- The numbers that the files of a processor hold. -/
structure FiledId where
  package : Int
  die : Int
  cluster : Int
  core : Int
  deriving DecidableEq

/-- The numbers as they are counted. -/
def FiledId.counted (id : FiledId) : ProcessorId where
  package := narrowed id.package
  die := narrowed id.die
  cluster := narrowed id.cluster
  core := narrowed id.core

/-- The files hold the numbers: those of the package and the core must be there, those of the die
and the cluster need not. -/
structure FilesHold (files : FileTree.Listing) (id : FiledId) : Prop where
  package : HoldsInteger (files.entry? (.text "physical_package_id")) id.package
  die : HoldsOptional (files.entry? (.text "die_id")) id.die
  cluster : HoldsOptional (files.entry? (.text "cluster_id")) id.cluster
  core : HoldsInteger (files.entry? (.text "core_id")) id.core

/-- The entry has the name of a processor and a directory `topology` with these files. -/
def HasTopology (entry : FileName × FileTree) (files : FileTree.Listing) : Prop :=
  ∃ (digits : List Char) (inner : FileTree.Listing), Text.IsNumeral digits ∧
    entry = (.text ("cpu" ++ String.ofList digits), .directory inner) ∧
      inner.entry? (.text "topology") = some (.directory files)

/-- The entry is a processor that is online. -/
def IsProcessor (entry : FileName × FileTree) : Prop := ∃ files, HasTopology entry files

/-- The entry is a processor whose files hold the numbers. -/
def TellsIds (entry : FileName × FileTree) (id : FiledId) : Prop :=
  ∃ files, HasTopology entry files ∧ FilesHold files id

theorem FilesHold.unique {files : FileTree.Listing} {id id' : FiledId} (h : FilesHold files id)
    (h' : FilesHold files id') : id = id' := by
  obtain ⟨package, die, cluster, core⟩ := id
  obtain ⟨package', die', cluster', core'⟩ := id'
  rw [FiledId.mk.injEq]
  exact ⟨h.package.unique h'.package, h.die.unique h'.die, h.cluster.unique h'.cluster,
    h.core.unique h'.core⟩

theorem HasTopology.unique {entry : FileName × FileTree} {files files' : FileTree.Listing}
    (h : HasTopology entry files) (h' : HasTopology entry files') : files = files' := by
  obtain ⟨digits, inner, -, rfl, hf⟩ := h
  obtain ⟨digits', inner', -, he, hf'⟩ := h'
  rw [Prod.mk.injEq, FileTree.directory.injEq] at he
  rw [← he.2, hf, Option.some.injEq, FileTree.directory.injEq] at hf'
  exact hf'

/-- A processor tells one number for each of its identifiers. -/
theorem TellsIds.unique {entry : FileName × FileTree} {id id' : FiledId} (h : TellsIds entry id)
    (h' : TellsIds entry id') : id = id' := by
  obtain ⟨files, hf, hh⟩ := h
  obtain ⟨files', hf', hh'⟩ := h'
  rw [hf'.unique hf] at hh'
  exact hh.unique hh'

private theorem readProcessor_eq_ok_iff {path : String} {files : FileTree.Listing}
    {p : ProcessorId} :
    readProcessor path files = .ok p ↔ ∃ id, FilesHold files id ∧ id.counted = p := by
  simp only [readProcessor, bindExcept_eq_ok_iff, readId_eq_ok_iff, readOptionalId_eq_ok_iff]
  constructor
  · rintro ⟨_, ⟨package, hp, rfl⟩, _, ⟨die, hd, rfl⟩, _, ⟨cluster, hl, rfl⟩, _, ⟨core, hc, rfl⟩, he⟩
    exact ⟨⟨package, die, cluster, core⟩, ⟨hp, hd, hl, hc⟩, Except.ok.inj he⟩
  · rintro ⟨id, h, rfl⟩
    exact ⟨_, ⟨_, h.package, rfl⟩, _, ⟨_, h.die, rfl⟩, _, ⟨_, h.cluster, rfl⟩, _,
      ⟨_, h.core, rfl⟩, rfl⟩

/-! ### One entry -/

section entry

variable {root : String} {entry : FileName × FileTree}

private theorem toList_cpu_append (digits : List Char) :
    ("cpu" ++ String.ofList digits).toList = 'c' :: 'p' :: 'u' :: digits := by
  rw [String.toList_append, String.toList_ofList, String.toList_ofList]
  rfl

private theorem isProcessorName_iff {name : String} :
    isProcessorName name = true ↔
      ∃ digits, Text.IsNumeral digits ∧ name = "cpu" ++ String.ofList digits := by
  constructor
  · intro h
    unfold isProcessorName at h
    split at h
    · next digits hname =>
      rw [Bool.and_eq_true, Bool.not_eq_true', List.isEmpty_eq_false_iff, List.all_eq_true] at h
      refine ⟨digits, h, ?_⟩
      apply String.toList_injective
      rw [hname, toList_cpu_append]
    · cases h
  · rintro ⟨digits, ⟨hne, hd⟩, rfl⟩
    simp only [isProcessorName, toList_cpu_append, List.isEmpty_eq_false_iff.mpr hne,
      List.all_eq_true.mpr hd, Bool.not_false, Bool.and_self]

private theorem topology?_eq_some_iff {node : FileTree} {files : FileTree.Listing} :
    topology? node = some files ↔
      ∃ inner : FileTree.Listing, node = .directory inner ∧
        inner.entry? (.text "topology") = some (.directory files) := by
  cases node with
  | file contents => simp [topology?]
  | directory inner =>
    simp only [topology?, FileTree.directory.injEq, exists_eq_left']
    split
    · next files' he => simp [he]
    · next hne =>
      constructor
      · intro h
        cases h
      · intro h
        exact absurd h (hne files)

/-- A processor is read from its files. -/
theorem entryId?_of_hasTopology {files : FileTree.Listing} (h : HasTopology entry files)
    (root : String) : ∃ path, entryId? root entry = some (readProcessor path files) := by
  obtain ⟨digits, inner, hd, rfl, hf⟩ := h
  have hname := isProcessorName_iff.mpr ⟨digits, hd, rfl⟩
  have hfiles : topology? (.directory inner) = some files :=
    topology?_eq_some_iff.mpr ⟨inner, rfl, hf⟩
  rw [entryId?, if_pos hname, hfiles]
  exact ⟨_, rfl⟩

/-- An entry tells nothing exactly if it is no processor. -/
theorem entryId?_eq_none_iff : entryId? root entry = none ↔ ¬ IsProcessor entry := by
  constructor
  · rintro hnone ⟨files, hf⟩
    obtain ⟨path, hp⟩ := entryId?_of_hasTopology hf root
    rw [hnone] at hp
    cases hp
  · intro h
    match entry with
    | (.bytes _, _) => rfl
    | (.text name, node) =>
      by_contra hsome
      rw [entryId?] at hsome
      by_cases hname : isProcessorName name = true
      · rw [if_pos hname] at hsome
        obtain ⟨digits, hd, rfl⟩ := isProcessorName_iff.mp hname
        cases hfiles : topology? node with
        | none => exact hsome (by rw [hfiles, Option.map_none])
        | some files =>
          obtain ⟨inner, rfl, hf⟩ := topology?_eq_some_iff.mp hfiles
          exact h ⟨files, digits, inner, hd, rfl, hf⟩
      · exact hsome (if_neg hname)

theorem isSome_entryId?_iff : (entryId? root entry).isSome = true ↔ IsProcessor entry := by
  rw [Option.isSome_iff_ne_none, ne_eq, entryId?_eq_none_iff, not_not]

instance : DecidablePred IsProcessor := fun entry =>
  decidable_of_iff ((entryId? "" entry).isSome = true) isSome_entryId?_iff

theorem entryId?_eq_ok_iff {p : ProcessorId} :
    entryId? root entry = some (.ok p) ↔ ∃ id, TellsIds entry id ∧ id.counted = p := by
  constructor
  · intro h
    have hentry : IsProcessor entry := isSome_entryId?_iff.mp (Option.isSome_of_eq_some h)
    obtain ⟨files, hf⟩ := hentry
    obtain ⟨path, hp⟩ := entryId?_of_hasTopology hf root
    rw [hp, Option.some.injEq] at h
    obtain ⟨id, hid, hc⟩ := readProcessor_eq_ok_iff.mp h
    exact ⟨id, ⟨files, hf, hid⟩, hc⟩
  · rintro ⟨id, ⟨files, hf, hid⟩, rfl⟩
    obtain ⟨path, hp⟩ := entryId?_of_hasTopology hf root
    rw [hp, readProcessor_eq_ok_iff.mpr ⟨id, hid, rfl⟩]

end entry

/-! ### Trees that list packages and cores -/

/-- The file holds the number in decimal digits, with blanks around it. -/
def HoldsNumber (file : Option FileTree) (n : UInt32) : Prop :=
  ∃ before after : List Char, Text.AllBlank before ∧ Text.AllBlank after ∧
    file = some (.file (String.ofList (before ++ (Nat.repr n.toNat).toList ++ after)).toUTF8)

/-- The files tell a package and a core, and neither a die nor a cluster. -/
structure Tells (files : FileTree.Listing) (pair : UInt32 × UInt32) : Prop where
  package : HoldsNumber (files.entry? (.text "physical_package_id")) pair.1
  core : HoldsNumber (files.entry? (.text "core_id")) pair.2
  noDie : files.entry? (.text "die_id") = none
  noCluster : files.entry? (.text "cluster_id") = none

/-- The entry is a numbered processor whose topology tells the package and the core. -/
def Online (entry : FileName × FileTree) (pair : UInt32 × UInt32) : Prop :=
  ∃ (n : Nat) (entries files : FileTree.Listing),
    entry = (.text ("cpu" ++ Nat.repr n), .directory entries) ∧
    entries.entry? (.text "topology") = some (.directory files) ∧ Tells files pair

/-- The tree is a directory that holds, in any order, a processor for each package and core, and
apart from them no entry with the name of a processor. -/
def Lists (tree : Option FileTree) (pairs : List (UInt32 × UInt32)) : Prop :=
  ∃ entries online others : FileTree.Listing, tree = some (.directory entries) ∧
    entries.Perm (online ++ others) ∧ List.Forall₂ Online online pairs ∧
    ∀ entry ∈ others, ∀ name, entry.1 = .text name → isProcessorName name = false

private theorem narrowed_toNat (n : UInt32) : narrowed (n.toNat : Int) = n.toNat := by
  have hn : n.toNat < Text.bound32 := n.toNat_lt
  rw [narrowed, if_pos (by omega), Int.toNat_natCast]

/-- A number in decimal digits is an integer, whatever blanks are around it. -/
theorem HoldsNumber.holdsInteger {file : Option FileTree} {n : UInt32} (h : HoldsNumber file n) :
    HoldsInteger file n.toNat := by
  obtain ⟨before, after, hb, ha, hf⟩ := h
  have hn : n.toNat < 2 ^ 32 := n.toNat_lt
  refine ⟨?_, before, (Nat.repr n.toNat).toList, after, hb, ha, Text.writesInteger_repr n.toNat, hf⟩
  rw [Text.IsInt64]
  omega

private theorem Online.tellsIds {entry : FileName × FileTree} {pair : UInt32 × UInt32}
    (h : Online entry pair) : TellsIds entry ⟨pair.1.toNat, 0, 0, pair.2.toNat⟩ := by
  obtain ⟨n, entries, files, rfl, htopology, htells⟩ := h
  refine ⟨files, ⟨(Nat.repr n).toList, entries, Text.isNumeral_repr n, ?_, htopology⟩, ?_⟩
  · rw [String.ofList_toList]
  · constructor
    · exact htells.package.holdsInteger
    · rw [htells.noDie]
      rfl
    · rw [htells.noCluster]
      rfl
    · exact htells.core.holdsInteger

private theorem entryId?_of_online {entry : FileName × FileTree} {pair : UInt32 × UInt32}
    (h : Online entry pair) (root : String) :
    entryId? root entry = some (.ok (ProcessorId.ofPair pair)) := by
  refine entryId?_eq_ok_iff.mpr ⟨_, h.tellsIds, ?_⟩
  simp only [FiledId.counted, narrowed_toNat]
  rfl

private theorem entryId?_of_not_processor {entry : FileName × FileTree}
    (h : ∀ name, entry.1 = .text name → isProcessorName name = false) (root : String) :
    entryId? root entry = none := by
  obtain ⟨name, node⟩ := entry
  cases name with
  | bytes name => rfl
  | text name => rw [entryId?, if_neg (by simp [h name rfl])]

/-- A directory that begins with its processors tells them in order. -/
theorem readEntries_of_online {online others : FileTree.Listing}
    {pairs : List (UInt32 × UInt32)} (honline : List.Forall₂ Online online pairs)
    (hothers : ∀ entry ∈ others, ∀ name, entry.1 = .text name → isProcessorName name = false)
    (root : String) :
    (readEntries root (online ++ others)).1 = .ok (pairs.map ProcessorId.ofPair) := by
  rw [readEntries_eq_ok_iff]
  have hnone : others.filterMap (entryId? root) = [] :=
    List.filterMap_eq_nil_iff.mpr fun entry he => entryId?_of_not_processor (hothers entry he) root
  rw [List.filterMap_append, hnone, List.append_nil]
  induction honline with
  | nil => exact .nil
  | cons hentry _ ih =>
    rw [List.filterMap_cons_some (entryId?_of_online hentry root)]
    exact .cons rfl ih

/-- A tree that lists packages and cores is counted as they are. -/
theorem counts_of_lists {tree : Option FileTree} {pairs : List (UInt32 × UInt32)}
    (h : Lists tree pairs) (hne : pairs ≠ []) (root source : String) :
    (counts root tree).1 = Counts.ofProcessors source (pairs.map ProcessorId.ofPair) := by
  obtain ⟨entries, online, others, rfl, hperm, honline, hothers⟩ := h
  obtain ⟨processors, hread, hprocessors⟩ :=
    readEntries_perm hperm (readEntries_of_online honline hothers root)
  have hcounts : (counts root (some (.directory entries))).1 =
      (readEntries root entries).1.bind (Counts.ofProcessors root) := rfl
  have hne' : processors ≠ [] := by
    rintro rfl
    exact hne (List.map_eq_nil_iff.mp hprocessors.symm.eq_nil)
  rw [hcounts, hread]
  exact Counts.ofProcessors_perm hprocessors hne' root source

end ProcessorTree

end CpuCensus
