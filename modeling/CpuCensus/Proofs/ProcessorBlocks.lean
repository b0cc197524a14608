import CpuCensus.Host.Cpuinfo

/-!
# Processor blocks

Every `processor` line of a text list opens a block, which ends before the next blank line or the
next `processor` line. `blocks` takes the blocks out of the lines, and `idOf` says which identifiers
a group of lines tells: those of its last package line and of its last core line.

The reader forgets identifiers only when a block ends, so lines that stand in no block speak for the
block after them. `sections` puts each block together with these stray lines, and the identifiers
that are listed are those of the sections. They are those of the blocks as long as no stray line
tells an identifier.
-/

namespace CpuCensus.Cpuinfo

/-! ### Lines and blocks -/

namespace Line

/-- The line ends the block before it. -/
def ends : Line → Bool
  | .blank | .processor => true
  | _ => false

/-- What a package line tells: its number, if it holds one. -/
def package? : Line → Option (Option Nat)
  | .package id => some id
  | _ => none

/-- What a core line tells: its number, if it holds one. -/
def core? : Line → Option (Option Nat)
  | .core id => some id
  | _ => none

/-- The line tells an identifier, even if it holds no number. -/
def isId (line : Line) : Bool := line.package?.isSome || line.core?.isSome

theorem package?_of_not_isId {line : Line} (h : line.isId = false) : line.package? = none := by
  cases line <;> simp_all [isId, package?]

theorem core?_of_not_isId {line : Line} (h : line.isId = false) : line.core? = none := by
  cases line <;> simp_all [isId, core?]

end Line

/-- The number in the last of those lines that tell an identifier of one kind. -/
def lastOf (told : Line → Option (Option Nat)) (lines : List Line) : Option Nat :=
  (lines.filterMap told).getLast?.join

/-- A processor with both identifiers, if both are known. -/
def pairUp (package core : Option Nat) : Option ProcessorId :=
  package.bind fun package => core.map fun core => { package, core }

/-- The processor that a group of lines identifies. -/
def idOf (lines : List Line) : Option ProcessorId :=
  pairUp (lastOf Line.package? lines) (lastOf Line.core? lines)

/-- The rest of a block, from the lines after its first. -/
def blockBody (lines : List Line) : List Line := lines.takeWhile fun line => !line.ends

/-- The blocks of a text, each without the `processor` line that opens it. -/
def blocks : List Line → List (List Line)
  | [] => []
  | .processor :: lines => blockBody lines :: blocks lines
  | _ :: lines => blocks lines

/-- The lines that stand in no block and end none; `inside` says whether the first line is still in
a block. -/
def strayLines (inside : Bool) : List Line → List Line
  | [] => []
  | .processor :: lines => strayLines true lines
  | .blank :: lines => strayLines false lines
  | line :: lines => if inside then strayLines inside lines else line :: strayLines inside lines

/-- A block and the stray lines between it and the block before. -/
structure Section where
  stray : List Line
  body : List Line
  deriving DecidableEq

/-- All lines of a section that can tell an identifier. -/
def Section.lines (s : Section) : List Line := s.stray ++ s.body

/-- The sections of the lines that follow on `stray`. -/
def sectionsFrom (inside : Bool) (stray : List Line) : List Line → List Section
  | [] => []
  | .processor :: lines => { stray, body := blockBody lines } :: sectionsFrom true [] lines
  | .blank :: lines => sectionsFrom false stray lines
  | line :: lines => sectionsFrom inside (if inside then stray else stray ++ [line]) lines

/-- The sections of a text. -/
def sections (lines : List Line) : List Section := sectionsFrom false [] lines

private theorem lastOf_concat (told : Line → Option (Option Nat)) (lines : List Line)
    (line : Line) :
    lastOf told (lines ++ [line]) = (told line).getD (lastOf told lines) := by
  cases h : told line with
  | none => simp [lastOf, h]
  | some id => simp [lastOf, h]

private theorem lastOf_append_of_none {told : Line → Option (Option Nat)} {before : List Line}
    (h : ∀ line ∈ before, told line = none) (lines : List Line) :
    lastOf told (before ++ lines) = lastOf told lines := by
  have hb : before.filterMap told = [] := List.filterMap_eq_nil_iff.mpr h
  rw [lastOf, List.filterMap_append, hb, List.nil_append, lastOf]

private theorem lastOf_append_of_some {told : Line → Option (Option Nat)} {lines : List Line}
    {n : Nat} (h : lastOf told lines = some n) (before : List Line) :
    lastOf told (before ++ lines) = some n := by
  have hl : (lines.filterMap told).getLast? = some (some n) := Option.join_eq_some_iff.mp h
  rw [lastOf, List.filterMap_append, List.getLast?_append, hl]
  rfl

/-- Lines that identify a processor identify it whatever stands before them. -/
theorem idOf_append_of_some {lines : List Line} {id : ProcessorId} (h : idOf lines = some id)
    (before : List Line) : idOf (before ++ lines) = some id := by
  obtain ⟨package, hp, h⟩ := Option.bind_eq_some_iff.mp h
  obtain ⟨core, hc, h⟩ := Option.map_eq_some_iff.mp h
  rw [idOf, lastOf_append_of_some hp, lastOf_append_of_some hc, ← h]
  rfl

/-- Lines that tell no identifier do not change which processor the lines after them identify. -/
theorem idOf_append_of_not_isId {before : List Line} (h : ∀ line ∈ before, line.isId = false)
    (lines : List Line) : idOf (before ++ lines) = idOf lines := by
  have hp : ∀ line ∈ before, line.package? = none := fun line hl =>
    Line.package?_of_not_isId (h line hl)
  have hc : ∀ line ∈ before, line.core? = none := fun line hl => Line.core?_of_not_isId (h line hl)
  rw [idOf, lastOf_append_of_none hp, lastOf_append_of_none hc, idOf]

theorem blockBody_cons_of_ends {line : Line} (h : line.ends = true) (lines : List Line) :
    blockBody (line :: lines) = [] := by
  simp [blockBody, h]

private theorem blockBody_cons {line : Line} (h : line.ends = false) (lines : List Line) :
    blockBody (line :: lines) = line :: blockBody lines := by
  simp [blockBody, h]

private theorem sectionsFrom_cons {line : Line} (h : line.ends = false) (inside : Bool)
    (stray lines : List Line) :
    sectionsFrom inside stray (line :: lines) =
      sectionsFrom inside (if inside then stray else stray ++ [line]) lines := by
  cases line <;> first | rfl | cases h

/-- The sections hold the blocks in their order. -/
theorem map_body_sectionsFrom (inside : Bool) (stray lines : List Line) :
    (sectionsFrom inside stray lines).map Section.body = blocks lines := by
  fun_induction sectionsFrom inside stray lines with
  | case1 => rfl
  | case2 inside stray lines ih => simp [blocks, ih]
  | case3 inside stray lines ih => simpa [blocks] using ih
  | case4 inside stray line lines hp hb ih => rw [ih, blocks]; exact hp

/-- What a section has before its block are stray lines. -/
theorem mem_stray_of_mem_sectionsFrom {inside : Bool} {stray lines : List Line} {s : Section}
    (hs : s ∈ sectionsFrom inside stray lines) {line : Line} (hl : line ∈ s.stray) :
    line ∈ stray ∨ line ∈ strayLines inside lines := by
  fun_induction sectionsFrom inside stray lines with
  | case1 => cases hs
  | case2 inside stray lines ih =>
    rcases List.mem_cons.mp hs with rfl | hs
    · exact .inl hl
    · rcases ih hs with h | h
      · cases h
      · exact .inr h
  | case3 inside stray lines ih => exact ih hs
  | case4 inside stray next lines hp hb ih =>
    have he : strayLines inside (next :: lines) =
        if inside then strayLines inside lines else next :: strayLines inside lines := by
      rw [strayLines]
      · exact hp
      · exact hb
    rw [he]
    cases inside with
    | true => exact ih hs
    | false =>
      rcases ih hs with h | h
      · rcases List.mem_append.mp h with h | h
        · exact .inl h
        · exact .inr (List.mem_cons.mpr (.inl (List.mem_singleton.mp h)))
      · exact .inr (List.mem_cons_of_mem next h)

/-! ### What the reader does with a line -/

namespace Progress

variable {p : Progress} {inside : Bool} {held : List Line}

/-- The reader knows the identifiers that these lines tell, which it has read since the last block
ended. -/
structure Holds (p : Progress) (inside : Bool) (held : List Line) : Prop where
  inBlock_eq : p.inBlock = inside
  package_eq : p.package = lastOf Line.package? held
  core_eq : p.core = lastOf Line.core? held

private theorem ids_endBlock (p : Progress) :
    p.endBlock.summary.ids = p.summary.ids ++ (pairUp p.package p.core).toList := by
  unfold endBlock pairUp
  cases p.package with
  | none => simp
  | some package => cases p.core <;> simp

/-- At the end of a block its processor is listed and the identifiers are forgotten. -/
theorem Holds.close_of_inside (h : p.Holds true held) :
    p.close.Holds false [] ∧ p.close.summary.ids = p.summary.ids ++ [held].filterMap idOf := by
  have hc : p.close = p.endBlock := if_pos h.inBlock_eq
  have hi : [held].filterMap idOf = (pairUp p.package p.core).toList := by
    rw [h.package_eq, h.core_eq, ← idOf]
    cases hid : idOf held <;> simp [hid]
  rw [hc, ids_endBlock, hi]
  exact ⟨⟨rfl, rfl, rfl⟩, rfl⟩

/-- Outside a block there is nothing to close. -/
theorem Holds.close_of_outside (h : p.Holds false held) : p.close = p := by
  rw [close, h.inBlock_eq]
  rfl

theorem Holds.openBlock (h : p.Holds inside held) : p.openBlock.Holds true held where
  inBlock_eq := rfl
  package_eq := h.package_eq
  core_eq := h.core_eq

/-- A line that ends no block is held, and lists nothing. -/
theorem Holds.take (h : p.Holds inside held) {line : Line} (hl : line.ends = false) :
    (p.take line).Holds inside (held ++ [line]) ∧ (p.take line).summary.ids = p.summary.ids := by
  have hi := h.inBlock_eq
  have hp := h.package_eq
  have hc := h.core_eq
  cases line with
  | blank => cases hl
  | processor => cases hl
  | package id => exact ⟨⟨hi, by rw [lastOf_concat]; rfl, by rw [lastOf_concat]; exact hc⟩, rfl⟩
  | core id => exact ⟨⟨hi, by rw [lastOf_concat]; exact hp, by rw [lastOf_concat]; rfl⟩, rfl⟩
  | vendor name =>
    exact ⟨⟨hi, by rw [lastOf_concat]; exact hp, by rw [lastOf_concat]; exact hc⟩, rfl⟩
  | model name =>
    exact ⟨⟨hi, by rw [lastOf_concat]; exact hp, by rw [lastOf_concat]; exact hc⟩, rfl⟩
  | other => exact ⟨⟨hi, by rw [lastOf_concat]; exact hp, by rw [lastOf_concat]; exact hc⟩, rfl⟩

/-- The groups of lines that will identify processors: those of the block at hand, if the reader is
in one, and the sections to come. -/
def groupsAhead (inside : Bool) (held lines : List Line) : List (List Line) :=
  if inside then (held ++ blockBody lines) :: (sectionsFrom true [] lines).map Section.lines
  else (sectionsFrom false held lines).map Section.lines

/-- Reading on lists the processors that the groups ahead identify. -/
theorem Holds.ids_foldl (h : p.Holds inside held) (lines : List Line) :
    (lines.foldl Progress.take p).close.summary.ids =
      p.summary.ids ++ (groupsAhead inside held lines).filterMap idOf := by
  induction lines generalizing p inside held with
  | nil =>
    cases inside with
    | true => simpa [groupsAhead, blockBody, sectionsFrom] using h.close_of_inside.2
    | false => simp [h.close_of_outside, groupsAhead, sectionsFrom]
  | cons line lines ih =>
    rw [List.foldl_cons]
    by_cases hl : line.ends = true
    · -- The block at hand ends here; a `processor` line opens the next one.
      cases inside with
      | true =>
        obtain ⟨hclose, hids⟩ := h.close_of_inside
        have hg : groupsAhead true held (line :: lines) =
            [held] ++ (sectionsFrom true [] (line :: lines)).map Section.lines := by
          simp [groupsAhead, blockBody_cons_of_ends hl]
        rw [hg, List.filterMap_append, ← List.append_assoc, ← hids]
        cases line with
        | blank => exact ih hclose
        | processor => exact ih hclose.openBlock
        | _ => cases hl
      | false =>
        cases line with
        | blank =>
          rw [Progress.take, h.close_of_outside]
          exact ih h
        | processor =>
          rw [Progress.take, h.close_of_outside]
          exact ih h.openBlock
        | _ => cases hl
    · have hl : line.ends = false := Bool.eq_false_iff.mpr hl
      obtain ⟨htake, hids⟩ := h.take hl
      rw [ih htake, hids]
      cases inside <;> simp [groupsAhead, sectionsFrom_cons hl, blockBody_cons hl]

private theorem processors_close (p : Progress) :
    p.close.summary.processors = p.summary.processors := by
  unfold close
  split <;> rfl

/-- Reading on counts one processor for each block that is opened. -/
theorem processors_foldl (p : Progress) (lines : List Line) :
    (lines.foldl take p).close.summary.processors =
      p.summary.processors + (blocks lines).length := by
  induction lines generalizing p with
  | nil => exact processors_close p
  | cons line lines ih =>
    rw [List.foldl_cons, ih]
    cases line with
    | blank => rw [take, processors_close, blocks]; nofun
    | processor =>
      simp only [take, openBlock, processors_close, blocks, List.length_cons]
      omega
    | _ => rfl

end Progress

/-! ### What a text tells -/

/-- A text lists the processors of its sections and counts its blocks. -/
theorem parse_of_sections (text : String) :
    let lines := (Text.lines text).map Line.ofChars
    (parse text).ids = (sections lines).filterMap (fun s => idOf s.lines) ∧
    (parse text).processors = (blocks lines).length := by
  intro lines
  have hnew : ({} : Progress).Holds false [] := ⟨rfl, rfl, rfl⟩
  have hids := hnew.ids_foldl lines
  have hgroups : Progress.groupsAhead false [] lines = (sections lines).map Section.lines := rfl
  rw [hgroups, List.filterMap_map] at hids
  exact ⟨hids, (Progress.processors_foldl {} lines).trans (Nat.zero_add _)⟩

section filterMap

variable {α β : Type} {f g : α → Option β} {l : List α}

private theorem filterMap_sublist (h : ∀ a b, g a = some b → f a = some b) (l : List α) :
    (l.filterMap g).Sublist (l.filterMap f) := by
  induction l with
  | nil => exact List.Sublist.slnil
  | cons a l ih =>
    cases hg : g a with
    | none =>
      rw [List.filterMap_cons_none hg]
      exact ih.trans ((List.sublist_cons_self a l).filterMap f)
    | some b =>
      rw [List.filterMap_cons_some hg, List.filterMap_cons_some (h a b hg)]
      exact ih.cons_cons b

/-- Two choices from a list of which the first takes at least what the second does agree exactly if
the first takes nothing more. -/
private theorem filterMap_eq_iff (h : ∀ a b, g a = some b → f a = some b) :
    l.filterMap f = l.filterMap g ↔ ∀ a ∈ l, g a = none → f a = none := by
  induction l with
  | nil => simp
  | cons a l ih =>
    rw [List.forall_mem_cons, ← ih]
    cases hg : g a with
    | some b => simp [hg, h a b hg]
    | none =>
      cases hf : f a with
      | none => simp [hg, hf]
      | some b =>
        -- The first choice would be longer.
        have hle := (filterMap_sublist h l).length_le
        simp only [List.filterMap_cons_none hg, List.filterMap_cons_some hf, forall_const,
          reduceCtorEq, false_and, iff_false]
        intro he
        have hlen := congrArg List.length he
        rw [List.length_cons] at hlen
        omega

end filterMap

/-- The processors listed are those of the blocks exactly if no block gets from stray lines an
identifier that it lacks. -/
theorem ids_eq_blocks_iff (text : String) :
    let lines := (Text.lines text).map Line.ofChars
    (parse text).ids = (blocks lines).filterMap idOf ↔
      ∀ s ∈ sections lines, idOf s.body = none → idOf s.lines = none := by
  intro lines
  have hblocks : (blocks lines).filterMap idOf =
      (sections lines).filterMap fun s => idOf s.body := by
    rw [← map_body_sectionsFrom false [] lines, List.filterMap_map]
    rfl
  rw [(parse_of_sections text).1, hblocks]
  exact filterMap_eq_iff fun s id hs => idOf_append_of_some hs s.stray

/-- If no stray line tells an identifier, the processors listed are those of the blocks. -/
theorem ids_eq_blocks {text : String}
    (h : ∀ line ∈ strayLines false ((Text.lines text).map Line.ofChars), line.isId = false) :
    (parse text).ids = (blocks ((Text.lines text).map Line.ofChars)).filterMap idOf := by
  apply (ids_eq_blocks_iff text).mpr
  intro s hs hnone
  have hstray : ∀ line ∈ s.stray, line.isId = false := by
    intro line hl
    rcases mem_stray_of_mem_sectionsFrom hs hl with hl | hl
    · cases hl
    · exact h line hl
  rw [Section.lines, idOf_append_of_not_isId hstray, hnone]

/-- Processors are counted if there are any and each of them has both identifiers; otherwise it is
the sockets that are not known. -/
theorem Summary.counts_cases (s : Summary) :
    ((s.ids ≠ [] ∧ s.ids.length = s.processors) ∧
      s.counts = Counts.ofProcessors "/proc/cpuinfo" s.ids) ∨
    (¬ (s.ids ≠ [] ∧ s.ids.length = s.processors) ∧
      s.counts = .error (.undetermined "sockets"
        "/proc/cpuinfo lists no physical id for some processors")) := by
  have hcond : (s.ids.isEmpty || s.ids.length != s.processors) = true ↔
      ¬ (s.ids ≠ [] ∧ s.ids.length = s.processors) := by
    rw [Bool.or_eq_true, List.isEmpty_iff, bne_iff_ne, Decidable.not_and_iff_not_or_not, ne_eq,
      Decidable.not_not]
  unfold counts
  split
  · next h => exact .inr ⟨hcond.mp h, rfl⟩
  · next h => exact .inl ⟨Decidable.not_not.mp fun hn => h (hcond.mpr hn), rfl⟩

/-! ### Main statement -/

/-- For every text there are as many processors as blocks, and those listed are identified, in
order, by each block and the stray lines before it. They are those that the blocks alone identify
exactly if no block gets from stray lines an identifier that it lacks. Where no stray line tells an
identifier this is so, and then the processors are counted only if every block tells both of its
identifiers. -/
theorem ids_told_by_blocks_and_strays (text : String) :
    let lines := (Text.lines text).map Line.ofChars
    (parse text).processors = (blocks lines).length ∧
    (sections lines).map Section.body = blocks lines ∧
    (parse text).ids = (sections lines).filterMap (fun s => idOf (s.stray ++ s.body)) ∧
    ((parse text).ids = (blocks lines).filterMap idOf ↔
      ∀ s ∈ sections lines, idOf s.body = none → idOf (s.stray ++ s.body) = none) ∧
    ((∀ line ∈ strayLines false lines, line.isId = false) →
      (parse text).ids = (blocks lines).filterMap idOf ∧
      ∀ counts, (parse text).counts = .ok counts →
        ∀ block ∈ blocks lines, (idOf block).isSome) := by
  intro lines
  obtain ⟨hids, hprocessors⟩ := parse_of_sections text
  refine ⟨hprocessors, map_body_sectionsFrom false [] lines, hids, ids_eq_blocks_iff text, ?_⟩
  intro hstray
  have he := ids_eq_blocks hstray
  refine ⟨he, ?_⟩
  intro counts hcounts
  rcases (parse text).counts_cases with ⟨⟨-, hlength⟩, -⟩ | ⟨-, hfault⟩
  · rw [he, hprocessors] at hlength
    exact List.filterMap_length_eq_length.mp hlength
  · rw [hfault] at hcounts
    cases hcounts

/-- Identifiers that stand before the only block are taken for its own. -/
theorem stray_ids_reach_next_block :
    let text := "physical id: 0\ncore id: 0\n\nprocessor: 0\n"
    let lines := (Text.lines text).map Line.ofChars
    (parse text).ids = [{ package := 0, core := 0 }] ∧
    (parse text).counts = .ok { threads := 1, cores := 1, sockets := 1 } ∧
    blocks lines = [[]] ∧ (blocks lines).filterMap idOf = [] := by
  intro text lines
  have hids : (parse text).ids = [{ package := 0, core := 0 }] := by decide +kernel
  have hprocessors : (parse text).processors = 1 := by decide +kernel
  refine ⟨hids, ?_, by decide +kernel, by decide +kernel⟩
  rw [Summary.counts, hids, hprocessors]
  rfl

/-- Lines between two blocks that tell no identifier leave the blocks to speak for themselves. -/
theorem separate_blocks_tell_ids :
    let text := "processor: 0\ncore id: 1\nphysical id: 0\n\nmodel name: X\n" ++
      "processor: 1\nphysical id: x\nphysical id: 0\ncore id: 1\n"
    let lines := (Text.lines text).map Line.ofChars
    strayLines false lines = [.model "X"] ∧
    (parse text).ids = [{ package := 0, core := 1 }, { package := 0, core := 1 }] ∧
    (parse text).counts = .ok { threads := 2, cores := 1, sockets := 1 } ∧
    ∀ block ∈ blocks lines, (idOf block).isSome := by
  intro text lines
  have hstray : strayLines false lines = [.model "X"] := by decide +kernel
  have hids : (blocks lines).filterMap idOf =
      [{ package := 0, core := 1 }, { package := 0, core := 1 }] := by decide +kernel
  obtain ⟨hprocessors, -, -, -, htold⟩ := ids_told_by_blocks_and_strays text
  obtain ⟨he, hcounted⟩ := htold (by rw [hstray]; decide)
  have hcounts : (parse text).counts = .ok { threads := 2, cores := 1, sockets := 1 } := by
    have hlength : (blocks lines).length = 2 := by decide +kernel
    rw [Summary.counts, he, hids, hprocessors, hlength]
    rfl
  exact ⟨hstray, he.trans hids, hcounts, hcounted _ hcounts⟩

end CpuCensus.Cpuinfo
