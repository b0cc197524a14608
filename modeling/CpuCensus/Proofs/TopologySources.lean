import CpuCensus.Proofs.ProcessorBlocks
import CpuCensus.Proofs.ProcessorTrees

/-!
# Two sources of the topology

A host tells its packages and cores twice, in a tree of files and in a text. `Cpuinfo.Lists`
describes the texts that list given packages and cores, a block for each; the order of the lines in
a block, what else a block says, blanks and line ends are left open. Main statement: a tree and a
text that list the same packages and cores are counted alike.
-/

namespace CpuCensus

namespace Cpuinfo

/-! ### Texts that list packages and cores -/

/-- The line gives a value for a key, with blanks around both. -/
def Keyed (key value line : List Char) : Prop :=
  ∃ a b c d : List Char, Text.AllBlank a ∧ Text.AllBlank b ∧ Text.AllBlank c ∧ Text.AllBlank d ∧
    line = a ++ key ++ b ++ ':' :: (c ++ value ++ d)

/-- The keys that make up a block. -/
def blockKeys : List String := ["processor", "physical id", "core id"]

/-- The line is not blank and has none of the keys that make up a block. -/
structure Other (line : List Char) : Prop where
  not_blank : ¬ Text.AllBlank line
  key_notMem : ∀ key value, line = key ++ ':' :: value → ':' ∉ key →
    String.ofList (Text.trimChars key) ∉ blockKeys

/-- The lines are a block: a `processor` line, and after it, in any order, a package line, a core
line and other lines. -/
def Block (pair : UInt32 × UInt32) (lines : List (List Char)) : Prop :=
  ∃ (processor package core : List Char) (others body : List (List Char)),
    lines = processor :: body ∧ body.Perm (package :: core :: others) ∧
    (∃ value, Keyed "processor".toList value processor) ∧
    Keyed "physical id".toList (Nat.repr pair.1.toNat).toList package ∧
    Keyed "core id".toList (Nat.repr pair.2.toNat).toList core ∧
    ∀ line ∈ others, Other line

/-- The lines are a block for each pair, with any number of blank lines around the blocks. -/
inductive Layout : List (UInt32 × UInt32) → List (List Char) → Prop
  | nil {blanks : List (List Char)} : (∀ line ∈ blanks, Text.AllBlank line) → Layout [] blanks
  | cons {pair : UInt32 × UInt32} {pairs : List (UInt32 × UInt32)}
      {blanks block rest : List (List Char)} :
      (∀ line ∈ blanks, Text.AllBlank line) → Block pair block → Layout pairs rest →
      Layout (pair :: pairs) (blanks ++ block ++ rest)

/-- The text is written in such lines. -/
def Lists (text : String) (pairs : List (UInt32 × UInt32)) : Prop :=
  ∃ lines, Text.Written lines text.toList ∧ Layout pairs lines

/-! ### What the lines say -/

namespace Line

/-- Blanks at the end of a line do not matter. -/
theorem ofChars_append_blank {after : List Char} (h : Text.AllBlank after) (cs : List Char) :
    ofChars (cs ++ after) = ofChars cs := by
  rcases Text.splitAtFirst?_cases ':' cs with ⟨hnone, he⟩ | ⟨key, value, rfl, hkey, he⟩
  · have hnone' : ':' ∉ cs ++ after := by
      rw [List.mem_append, not_or]
      exact ⟨hnone, h.notMem rfl⟩
    rw [ofChars, ofChars, he, Text.splitAtFirst?_of_notMem hnone', Text.trimChars_append_blank h]
  · rw [ofChars, ofChars, he, List.append_assoc, List.cons_append, Text.splitAtFirst?_append hkey]
    simp only [Text.trimChars_append_blank h]

/-- A line that gives a value for a key says so, whatever blanks are around them. -/
theorem ofChars_keyed {key value line : List Char} (h : Keyed key value line) (hmark : ':' ∉ key)
    (htrim : Text.trimChars key = key) :
    ofChars line = ofPair (String.ofList key) (String.ofList (Text.trimChars value)) := by
  obtain ⟨a, b, c, d, ha, hb, hc, hd, rfl⟩ := h
  have hkey : ':' ∉ a ++ key ++ b := by
    rw [List.mem_append, List.mem_append, not_or, not_or]
    exact ⟨⟨ha.notMem rfl, hmark⟩, hb.notMem rfl⟩
  rw [ofChars, Text.splitAtFirst?_append hkey]
  simp only [Text.trimChars_append_blank hb, Text.trimChars_blank_append ha, htrim,
    Text.trimChars_append_blank hd, Text.trimChars_blank_append hc]

private theorem ofChars_blank {line : List Char} (h : Text.AllBlank line) :
    ofChars line = blank := by
  rw [ofChars, Text.splitAtFirst?_of_notMem (h.notMem rfl),
    Text.trimChars_eq_nil_iff.mpr h]
  rfl

private theorem ofChars_processor {value line : List Char}
    (h : Keyed "processor".toList value line) :
    ofChars line = processor :=
  ofChars_keyed h (by decide) (by decide)

private theorem ofChars_numbered {key line : List Char} {n : Nat}
    (h : Keyed key (Nat.repr n).toList line) (hmark : ':' ∉ key)
    (htrim : Text.trimChars key = key) :
    ofChars line = ofPair (String.ofList key) (Nat.repr n) := by
  have hdigits : Text.trimChars (Nat.repr n).toList = (Nat.repr n).toList :=
    Text.trimChars_eq_self fun c hc => Text.isBlank_of_isDigit (Text.isDigit_of_mem_repr hc)
  rw [ofChars_keyed h hmark htrim, hdigits, String.ofList_toList]

private theorem ofChars_package {n : UInt32} {line : List Char}
    (h : Keyed "physical id".toList (Nat.repr n.toNat).toList line) :
    ofChars line = package (some n.toNat) := by
  rw [ofChars_numbered h (by decide) (by decide), ← Text.unsigned?_repr n.toNat_lt]
  rfl

private theorem ofChars_core {n : UInt32} {line : List Char}
    (h : Keyed "core id".toList (Nat.repr n.toNat).toList line) :
    ofChars line = core (some n.toNat) := by
  rw [ofChars_numbered h (by decide) (by decide), ← Text.unsigned?_repr n.toNat_lt]
  rfl

private theorem ofPair_of_notMem {key : String} (h : key ∉ blockKeys) (value : String) :
    (ofPair key value).ends = false ∧ (ofPair key value).isId = false := by
  unfold ofPair
  split <;> first | exact ⟨rfl, rfl⟩ | exact absurd (by decide) h

/-- Other lines end no block and tell no identifier. -/
theorem ofChars_other {line : List Char} (h : Other line) :
    (ofChars line).ends = false ∧ (ofChars line).isId = false := by
  rcases Text.splitAtFirst?_cases ':' line with ⟨-, he⟩ | ⟨key, value, hline, hkey, he⟩
  · have hne : Text.trimChars line ≠ [] := fun ht => h.not_blank (Text.trimChars_eq_nil_iff.mp ht)
    rw [ofChars, he]
    simp only [List.isEmpty_eq_false_iff.mpr hne]
    exact ⟨rfl, rfl⟩
  · rw [ofChars, he]
    exact ofPair_of_notMem (h.key_notMem key value hline hkey) _

end Line

/-- The lines that are read say what the lines that were written say. -/
theorem map_ofChars_lines {lines : List (List Char)} {text : String}
    (h : Text.Written lines text.toList) :
    (Text.lines text).map Line.ofChars = lines.map Line.ofChars := by
  have hreturn : Text.AllBlank ['\r'] := Text.allBlank_singleton rfl
  replace h := Text.lines_of_written h
  rw [Text.lines]
  generalize Text.linesFrom [] text.toList = found at h ⊢
  induction h with
  | nil => rfl
  | @cons got line _ _ hline _ ih =>
    have hsame : Line.ofChars got = Line.ofChars line := by
      rcases hline with rfl | rfl
      · rfl
      · rw [Line.ofChars_append_blank hreturn]
    rw [List.map_cons, List.map_cons, hsame, ih]

/-! ### What the blocks say -/

private theorem lastOf_of_filterMap {told : Line → Option (Option Nat)} {lines : List Line}
    {n : Nat} (h : (lines.filterMap told).Perm [some n]) : lastOf told lines = some n := by
  rw [lastOf, List.perm_singleton.mp h]
  rfl

/-- A block is opened by its first line, is not ended by the others and identifies its
processor. -/
theorem Block.map_ofChars {pair : UInt32 × UInt32} {lines : List (List Char)}
    (h : Block pair lines) :
    ∃ body, lines.map Line.ofChars = .processor :: body ∧ (∀ line ∈ body, line.ends = false) ∧
      idOf body = some (ProcessorId.ofPair pair) := by
  obtain ⟨processor, package, core, others, body, rfl, hperm, ⟨value, hprocessor⟩, hpackage, hcore,
    hothers⟩ := h
  have hbody : (body.map Line.ofChars).Perm
      (.package (some pair.1.toNat) :: .core (some pair.2.toNat) :: others.map Line.ofChars) := by
    have hmap := hperm.map Line.ofChars
    rwa [List.map_cons, List.map_cons, Line.ofChars_package hpackage,
      Line.ofChars_core hcore] at hmap
  have hrest : ∀ line ∈ others.map Line.ofChars, line.ends = false ∧ line.isId = false := by
    intro line hl
    obtain ⟨cs, hcs, rfl⟩ := List.mem_map.mp hl
    exact Line.ofChars_other (hothers cs hcs)
  have hpackages : (others.map Line.ofChars).filterMap Line.package? = [] :=
    List.filterMap_eq_nil_iff.mpr fun line hl => Line.package?_of_not_isId (hrest line hl).2
  have hcores : (others.map Line.ofChars).filterMap Line.core? = [] :=
    List.filterMap_eq_nil_iff.mpr fun line hl => Line.core?_of_not_isId (hrest line hl).2
  refine ⟨body.map Line.ofChars, by rw [List.map_cons, Line.ofChars_processor hprocessor], ?_, ?_⟩
  · intro line hl
    rcases List.mem_cons.mp (hbody.mem_iff.mp hl) with rfl | hl
    · rfl
    · rcases List.mem_cons.mp hl with rfl | hl
      · rfl
      · exact (hrest line hl).1
  · -- Each identifier is told once, so the order of the lines does not matter.
    have hp := hbody.filterMap Line.package?
    have hc := hbody.filterMap Line.core?
    simp only [List.filterMap_cons, Line.package?, hpackages] at hp
    simp only [List.filterMap_cons, Line.core?, hcores] at hc
    rw [idOf, lastOf_of_filterMap hp, lastOf_of_filterMap hc]
    rfl

private theorem blocks_append {before : List Line} (h : ∀ line ∈ before, line ≠ .processor)
    (lines : List Line) : blocks (before ++ lines) = blocks lines := by
  induction before with
  | nil => rfl
  | cons line before ih =>
    obtain ⟨hline, hbefore⟩ := List.forall_mem_cons.mp h
    rw [List.cons_append, blocks, ih hbefore]
    exact hline

private theorem strayLines_append_of_inside {body : List Line}
    (h : ∀ line ∈ body, line.ends = false)
    (lines : List Line) : strayLines true (body ++ lines) = strayLines true lines := by
  induction body with
  | nil => rfl
  | cons line body ih =>
    obtain ⟨hline, hbody⟩ := List.forall_mem_cons.mp h
    rw [List.cons_append, ← ih hbody]
    cases line <;> first | rfl | cases hline

private theorem strayLines_blanks_append {blanks lines : List Line}
    (h : ∀ line ∈ blanks, line = .blank)
    (hlines : ∀ inside, strayLines inside lines = []) (inside : Bool) :
    strayLines inside (blanks ++ lines) = [] := by
  induction blanks generalizing inside with
  | nil => exact hlines inside
  | cons line blanks ih =>
    obtain ⟨rfl, hblanks⟩ := List.forall_mem_cons.mp h
    exact ih hblanks false

private theorem map_ofChars_blanks {blanks : List (List Char)}
    (h : ∀ line ∈ blanks, Text.AllBlank line) :
    ∀ line ∈ blanks.map Line.ofChars, line = .blank := by
  intro line hl
  obtain ⟨cs, hcs, rfl⟩ := List.mem_map.mp hl
  exact Line.ofChars_blank (h cs hcs)

section Layout

variable {pairs : List (UInt32 × UInt32)} {lines : List (List Char)}

/-- A block before these lines ends where they begin. -/
theorem Layout.blockBody_eq_nil (h : Layout pairs lines) :
    blockBody (lines.map Line.ofChars) = [] := by
  have hblanks : ∀ {blanks rest : List Line}, (∀ line ∈ blanks, line = .blank) →
      blockBody rest = [] → blockBody (blanks ++ rest) = [] := by
    intro blanks rest hb hrest
    cases blanks with
    | nil => exact hrest
    | cons line blanks =>
      rw [hb line List.mem_cons_self]
      exact blockBody_cons_of_ends rfl _
  cases h with
  | nil hb =>
    rw [← List.append_nil (lines.map Line.ofChars)]
    exact hblanks (map_ofChars_blanks hb) rfl
  | cons hb hblock _ =>
    obtain ⟨body, hbody, -, -⟩ := hblock.map_ofChars
    rw [List.append_assoc, List.map_append, List.map_append, hbody]
    exact hblanks (map_ofChars_blanks hb) (blockBody_cons_of_ends rfl _)

/-- Only blank lines stand outside the blocks. -/
theorem Layout.strayLines_eq_nil (h : Layout pairs lines) (inside : Bool) :
    strayLines inside (lines.map Line.ofChars) = [] := by
  induction h generalizing inside with
  | @nil blanks hb =>
    rw [← List.append_nil (blanks.map Line.ofChars)]
    exact strayLines_blanks_append (map_ofChars_blanks hb) (fun _ => rfl) inside
  | cons hb hblock _ ih =>
    obtain ⟨body, hbody, hends, -⟩ := hblock.map_ofChars
    rw [List.append_assoc, List.map_append, List.map_append, hbody]
    apply strayLines_blanks_append (map_ofChars_blanks hb)
    intro inside
    exact (strayLines_append_of_inside hends _).trans (ih true)

/-- The blocks identify the processors in their order. -/
theorem Layout.map_idOf_blocks (h : Layout pairs lines) :
    (blocks (lines.map Line.ofChars)).map idOf =
      pairs.map fun pair => some (ProcessorId.ofPair pair) := by
  have hblanks : ∀ {blanks : List (List Char)}, (∀ line ∈ blanks, Text.AllBlank line) →
      ∀ line ∈ blanks.map Line.ofChars, line ≠ .processor := by
    intro blanks hb line hl
    rw [map_ofChars_blanks hb line hl]
    nofun
  induction h with
  | @nil blanks hb =>
    rw [← List.append_nil (blanks.map Line.ofChars), blocks_append (hblanks hb)]
    rfl
  | @cons pair pairs blanks block rest hb hblock hrest ih =>
    obtain ⟨body, hbody, hends, hid⟩ := hblock.map_ofChars
    have hfirst : blockBody (body ++ rest.map Line.ofChars) = body := by
      rw [blockBody, List.takeWhile_append_of_pos (by simpa using hends), ← blockBody,
        hrest.blockBody_eq_nil, List.append_nil]
    have hskip : ∀ line ∈ body, line ≠ .processor := by
      rintro line hl rfl
      cases hends _ hl
    rw [List.append_assoc, List.map_append, List.map_append, blocks_append (hblanks hb), hbody,
      List.cons_append, blocks, hfirst, blocks_append hskip, List.map_cons, ih, hid, List.map_cons]

end Layout

/-- A text that lists packages and cores tells them in order, and no processor besides. -/
theorem parse_of_lists {text : String} {pairs : List (UInt32 × UInt32)} (h : Lists text pairs) :
    (parse text).ids = pairs.map ProcessorId.ofPair ∧
    (parse text).processors = pairs.length := by
  obtain ⟨lines, hwritten, hlayout⟩ := h
  have hlines := map_ofChars_lines hwritten
  have hblocks := hlayout.map_idOf_blocks
  constructor
  · rw [ids_eq_blocks (by rw [hlines, hlayout.strayLines_eq_nil]; nofun), hlines]
    have hids := congrArg (List.filterMap id) hblocks
    simpa only [List.filterMap_map, Function.id_comp, Function.comp_def, id_eq,
      List.filterMap_eq_map'] using hids
  · rw [(parse_of_sections text).2, hlines]
    simpa using congrArg List.length hblocks

/-- Such a text is counted as its packages and cores are. -/
theorem counts_of_lists {text : String} {pairs : List (UInt32 × UInt32)} (h : Lists text pairs)
    (hne : pairs ≠ []) :
    (parse text).counts =
      Counts.ofProcessors "/proc/cpuinfo" (pairs.map ProcessorId.ofPair) := by
  obtain ⟨hids, hprocessors⟩ := parse_of_lists h
  rcases (parse text).counts_cases with ⟨-, hcounts⟩ | ⟨hnot, -⟩
  · rw [hcounts, hids]
  · refine absurd ⟨?_, ?_⟩ hnot
    · rw [hids]
      simpa using hne
    · rw [hids, hprocessors, List.length_map]

end Cpuinfo

/-! ### Main statement -/

private theorem ProcessorId.ofPair_injective : Function.Injective ProcessorId.ofPair := by
  rintro ⟨package, core⟩ ⟨package', core'⟩ h
  obtain ⟨hpackage, -, -, hcore⟩ := ProcessorId.mk.inj h
  exact Prod.ext (UInt32.toNat_inj.mp hpackage) (UInt32.toNat_inj.mp hcore)

/-- Packages and cores are counted as pairs of numbers are. -/
theorem Counts.ofProcessors_ofPair {pairs : List (UInt32 × UInt32)} (hne : pairs ≠ [])
    (source : String) :
    Counts.ofProcessors source (pairs.map ProcessorId.ofPair) = .ok {
      threads := capped pairs.length
      cores := capped pairs.toFinset.card
      sockets := capped (pairs.map Prod.fst).toFinset.card } := by
  have hcores : distinctCount (pairs.map ProcessorId.ofPair) = pairs.toFinset.card := by
    rw [distinctCount_map, Finset.card_image_of_injective _ ProcessorId.ofPair_injective]
  have hpackages : (pairs.map ProcessorId.ofPair).map ProcessorId.package =
      (pairs.map Prod.fst).map UInt32.toNat := by
    rw [List.map_map, List.map_map]
    rfl
  have hsockets : distinctCount ((pairs.map ProcessorId.ofPair).map ProcessorId.package) =
      (pairs.map Prod.fst).toFinset.card := by
    rw [hpackages, distinctCount_map,
      Finset.card_image_of_injective _ fun _ _ => UInt32.toNat_inj.mp]
  rw [ofProcessors_of_ne_nil source (by simpa using hne), hcores, hsockets, List.length_map]

/-- A tree and a text that list the same packages and cores are counted alike: as many hardware
threads as there are pairs, as many cores as there are different pairs, as many sockets as there are
different packages. The text tells the pairs in their order, and no processor besides. -/
theorem sources_agree (pairs : List (UInt32 × UInt32)) (root text : String)
    (tree : Option FileTree) (hne : pairs ≠ []) (htree : ProcessorTree.Lists tree pairs)
    (htext : Cpuinfo.Lists text pairs) :
    (ProcessorTree.counts root tree).1 = (Cpuinfo.parse text).counts ∧
    (Cpuinfo.parse text).counts = .ok {
      threads := capped pairs.length
      cores := capped pairs.toFinset.card
      sockets := capped (pairs.map Prod.fst).toFinset.card } ∧
    (Cpuinfo.parse text).ids = pairs.map ProcessorId.ofPair ∧
    (Cpuinfo.parse text).processors = pairs.length := by
  obtain ⟨hids, hprocessors⟩ := Cpuinfo.parse_of_lists htext
  rw [Cpuinfo.counts_of_lists htext hne,
    ProcessorTree.counts_of_lists htree hne root "/proc/cpuinfo"]
  exact ⟨rfl, Counts.ofProcessors_ofPair hne _, hids, hprocessors⟩

/-- Two processors, in a tree with entries in another order and in a text of which the blocks are
not separated and the last line is cut off. -/
theorem unseparated_blocks_agree :
    let topology (package core : String) : FileTree := .directory [(.text "topology", .directory
      [(.text "core_id", .file core.toUTF8), (.text "physical_package_id", .file package.toUTF8)])]
    let tree : FileTree := .directory
      [(.text "cpu10", topology "1\n" "3\n"), (.text "online", .file "0,10\n".toUTF8),
        (.text "cpu0", topology "0\n" "4294967295\n")]
    let text := "processor\t: 0\r\nmodel name: a : b\nphysical id : 0\r\n" ++
      "core id:4294967295 \nprocessor: 10\ncore id: 3\nphysical id: 1"
    ProcessorTree.Lists (some tree) [(0, 4294967295), (1, 3)] ∧
    Cpuinfo.Lists text [(0, 4294967295), (1, 3)] ∧
    (ProcessorTree.counts "/cpu" (some tree)).1 = (Cpuinfo.parse text).counts ∧
    (Cpuinfo.parse text).counts = .ok { threads := 2, cores := 2, sockets := 2 } ∧
    (Cpuinfo.parse text).ids =
      [{ package := 0, core := 4294967295 }, { package := 1, core := 3 }] := by
  intro topology tree text
  have hnumber : ∀ {s : String} {n : UInt32},
      s = String.ofList ((Nat.repr n.toNat).toList ++ ['\n']) →
      ProcessorTree.HoldsNumber (some (.file s.toUTF8)) n := by
    rintro s n rfl
    exact ⟨[], ['\n'], nofun, Text.allBlank_singleton rfl, rfl⟩
  have hfirst : ProcessorTree.Online (.text "cpu0", topology "0\n" "4294967295\n")
      (0, 4294967295) :=
    ⟨0, _, _, rfl, rfl, hnumber (by decide +kernel), hnumber (by decide +kernel), rfl, rfl⟩
  have hsecond : ProcessorTree.Online (.text "cpu10", topology "1\n" "3\n") (1, 3) :=
    ⟨10, _, _, rfl, rfl, hnumber (by decide +kernel), hnumber (by decide +kernel), rfl, rfl⟩
  have htree : ProcessorTree.Lists (some tree) [(0, 4294967295), (1, 3)] := by
    refine ⟨_, _, [(.text "online", .file "0,10\n".toUTF8)], rfl,
      ((List.Perm.swap _ _ _).cons _).trans (List.Perm.swap _ _ _),
      .cons hfirst (.cons hsecond .nil), ?_⟩
    intro entry he name hname
    cases List.mem_singleton.mp he
    cases hname
    decide
  have hblank : Text.AllBlank [' '] := Text.allBlank_singleton rfl
  have hother : Cpuinfo.Other "model name: a : b".toList := by
    refine ⟨fun h => h.notMem (c := 'm') rfl (by decide), ?_⟩
    intro key value hline hkey
    have hsplit := Text.splitAtFirst?_append hkey value
    rw [← hline] at hsplit
    cases hsplit
    decide
  have hlayout : Cpuinfo.Layout [(0, 4294967295), (1, 3)]
      ["processor\t: 0".toList, "model name: a : b".toList, "physical id : 0".toList,
        "core id:4294967295 ".toList, "processor: 10".toList, "core id: 3".toList,
        "physical id: 1".toList] := by
    refine @Cpuinfo.Layout.cons _ _ [] ["processor\t: 0".toList, _, _, _] _ nofun ?_
      (@Cpuinfo.Layout.cons _ _ [] [_, _, _] [] nofun ?_ (.nil nofun))
    · exact ⟨_, _, _, ["model name: a : b".toList], _, rfl,
        (List.Perm.swap _ _ _).trans ((List.Perm.swap _ _ _).cons _),
        ⟨['0'], [], ['\t'], [' '], [], nofun, Text.allBlank_singleton rfl, hblank, nofun, rfl⟩,
        ⟨[], [' '], [' '], [], nofun, hblank, hblank, nofun, by decide +kernel⟩,
        ⟨[], [], [], [' '], nofun, nofun, nofun, hblank, by decide +kernel⟩,
        by simpa using hother⟩
    · exact ⟨_, _, _, [], _, rfl, List.Perm.swap _ _ _,
        ⟨['1', '0'], [], [], [' '], [], nofun, nofun, hblank, nofun, rfl⟩,
        ⟨[], [], [' '], [], nofun, nofun, hblank, nofun, by decide +kernel⟩,
        ⟨[], [], [' '], [], nofun, nofun, hblank, nofun, by decide +kernel⟩, nofun⟩
  have hwritten := @Text.Written.carriageReturn "processor\t: 0".toList _ _ (by decide) <|
    @Text.Written.newline "model name: a : b".toList _ _ (by decide) <|
    @Text.Written.carriageReturn "physical id : 0".toList _ _ (by decide) <|
    @Text.Written.newline "core id:4294967295 ".toList _ _ (by decide) <|
    @Text.Written.newline "processor: 10".toList _ _ (by decide) <|
    @Text.Written.newline "core id: 3".toList _ _ (by decide) <|
    @Text.Written.last "physical id: 1".toList (by decide) (by decide)
  have htext : Cpuinfo.Lists text [(0, 4294967295), (1, 3)] := by
    refine ⟨_, ?_, hlayout⟩
    convert hwritten using 1
    decide +kernel
  obtain ⟨hsame, hcounts, hids, -⟩ :=
    sources_agree [(0, 4294967295), (1, 3)] "/cpu" text (some tree) (by decide) htree htext
  exact ⟨htree, htext, hsame, hcounts, hids⟩

end CpuCensus
