import CpuCensus.Proofs.HostSnapshots

/-!
# Stated topologies

A text that states a topology is cut at its first three colons, and the pieces state the counts and
the name of the processor. Reading accepts exactly this grammar and the word `unsupported`, and
names the first part that is not stated otherwise: `stated_by_grammar`. What is written so is read
back, and a snapshot can be taken of it exactly if its counts are in order and its name is known.
-/

namespace CpuCensus.Simulation

/-! ### Pieces between colons -/

/-- The characters are cut at their first colons, so many times or until none is left. -/
inductive Cut : Nat → List Char → List (List Char) → Prop
  | enough {cs : List Char} : Cut 0 cs [cs]
  | last {n : Nat} {cs : List Char} : ':' ∉ cs → Cut (n + 1) cs [cs]
  | colon {n : Nat} {piece cs : List Char} {pieces : List (List Char)} :
      ':' ∉ piece → Cut n cs pieces → Cut (n + 1) (piece ++ ':' :: cs) (piece :: pieces)

theorem Cut.unique {n : Nat} {cs : List Char} {pieces pieces' : List (List Char)}
    (h : Cut n cs pieces) (h' : Cut n cs pieces') : pieces = pieces' := by
  induction h generalizing pieces' with
  | enough =>
    cases h'
    rfl
  | last hn =>
    cases h' with
    | last => rfl
    | colon => exact absurd (List.mem_append_right _ List.mem_cons_self) hn
  | @colon n piece cs pieces hp _ ih =>
    generalize hwhole : piece ++ ':' :: cs = whole at h'
    cases h' with
    | last hn => exact absurd (hwhole ▸ List.mem_append_right _ List.mem_cons_self) hn
    | @colon _ piece' cs' pieces' hp' hcut =>
      -- Both pieces end at the first colon.
      have hsplit := Text.splitAtFirst?_append hp cs
      rw [hwhole, Text.splitAtFirst?_append hp' cs'] at hsplit
      cases hsplit
      rw [ih hcut]

/-- There are one to four pieces. -/
theorem pieces_cases (s : String) :
    (∃ a, Cut 3 s.toList [a] ∧
      pieces s = { threads := a, cores := none, sockets := none, cpu := none }) ∨
    (∃ a b, Cut 3 s.toList [a, b] ∧
      pieces s = { threads := a, cores := some b, sockets := none, cpu := none }) ∨
    (∃ a b c, Cut 3 s.toList [a, b, c] ∧
      pieces s = { threads := a, cores := some b, sockets := some c, cpu := none }) ∨
    ∃ a b c r, Cut 3 s.toList [a, b, c, r] ∧
      pieces s = { threads := a, cores := some b, sockets := some c, cpu := some r } := by
  rcases Text.splitAtFirst?_cases ':' s.toList with ⟨hn, ha⟩ | ⟨a, rest, hs, hna, ha⟩
  · exact .inl ⟨s.toList, .last hn, by simp only [pieces, ha]⟩
  right
  rcases Text.splitAtFirst?_cases ':' rest with ⟨hn, hb⟩ | ⟨b, rest', rfl, hnb, hb⟩
  · exact .inl ⟨a, rest, hs ▸ .colon hna (.last hn), by simp only [pieces, ha, hb]⟩
  right
  rcases Text.splitAtFirst?_cases ':' rest' with ⟨hn, hc⟩ | ⟨c, r, rfl, hnc, hc⟩
  · exact .inl ⟨a, b, rest', hs ▸ .colon hna (.colon hnb (.last hn)),
      by simp only [pieces, ha, hb, hc]⟩
  · exact .inr ⟨a, b, c, r, hs ▸ .colon hna (.colon hnb (.colon hnc .enough)),
      by simp only [pieces, ha, hb, hc]⟩

private theorem pieces_of_cut {s : String} {a b c r : List Char} (h : Cut 3 s.toList [a, b, c, r]) :
    pieces s = { threads := a, cores := some b, sockets := some c, cpu := some r } := by
  rcases pieces_cases s with ⟨_, hcut, -⟩ | ⟨_, _, hcut, -⟩ | ⟨_, _, _, hcut, -⟩ |
    ⟨_, _, _, _, hcut, hp⟩
  all_goals cases h.unique hcut
  exact hp

/-! ### Parts -/

/-- The piece states a count: but for blanks around it, a number of the 32-bit range in decimal
digits, with a plus sign in front or none. -/
def StatesCount (piece : List Char) (n : Nat) : Prop :=
  Text.WritesNatural (Text.trimChars piece) n ∧ n < 2 ^ 32

/-- The parts of a stated topology. -/
inductive Part where
  | threads
  | cores
  | sockets
  | cpu
  deriving DecidableEq, Repr

namespace Part

/-- The parts in the order in which they are stated. -/
def order : List Part := [.threads, .cores, .sockets, .cpu]

/-- What the part is called. -/
def name : Part → String
  | .threads => "thread count"
  | .cores => "core count"
  | .sockets => "socket count"
  | .cpu => "CPU name"

/-- The piece states the part. -/
def Stated : Part → List Char → Prop
  | .cpu, piece => Text.trimChars piece ≠ []
  | _, piece => ∃ n, StatesCount piece n

/-- What is reported of a part that is not stated, with the piece that stands in its place if there
is one. A blank name is a missing one. -/
def fault (whole : String) : Part → Option (List Char) → SimulationFault
  | .cpu, _ => .missing Part.cpu.name whole
  | part, none => .missing part.name whole
  | part, some piece => .invalid part.name (String.ofList piece)

private theorem fault_cases (whole : String) (part : Part) (piece? : Option (List Char)) :
    part.fault whole piece? = .missing part.name whole ∨
    ∃ piece, part.fault whole piece? = .invalid part.name piece := by
  cases part <;> cases piece? <;> simp [fault]

private theorem infix_toList_append (a b c : String) : b.toList <:+: (a ++ (b ++ c)).toList := by
  rw [String.toList_append, String.toList_append, ← List.append_assoc]
  exact List.infix_append _ _ _

/-- The fault names the part. -/
theorem name_infix_message (whole : String) (part : Part) (piece? : Option (List Char)) :
    part.name.toList <:+: (part.fault whole piece?).message.toList := by
  rcases fault_cases whole part piece? with h | ⟨piece, h⟩
  · rw [h, SimulationFault.message]
    simp only [toString, String.append_assoc]
    exact infix_toList_append "missing " part.name _
  · rw [h, SimulationFault.message]
    simp only [toString, String.append_assoc]
    exact infix_toList_append "invalid " part.name _

end Part

/-- The first of the parts that its piece does not state, and that piece unless it is missing. -/
inductive FirstUnstated : List Part → List (List Char) → Part → Option (List Char) → Prop
  | missing {part : Part} {parts : List Part} : FirstUnstated (part :: parts) [] part none
  | unstated {part : Part} {parts : List Part} {piece : List Char} {pieces : List (List Char)} :
      ¬ part.Stated piece → FirstUnstated (part :: parts) (piece :: pieces) part (some piece)
  | later {part part' : Part} {parts : List Part} {piece : List Char} {pieces : List (List Char)}
      {piece? : Option (List Char)} :
      part.Stated piece → FirstUnstated parts pieces part' piece? →
        FirstUnstated (part :: parts) (piece :: pieces) part' piece?

/-! ### Reading -/

variable {s : String} {piece : List Char}

private theorem readCount_eq_ok_iff (s part : String) {n : Nat} :
    readCount s part (some piece) = .ok n ↔ StatesCount piece n := by
  have hread : Text.unsigned? Text.bound32 (Text.trim (String.ofList piece)) = some n ↔
      StatesCount piece n := by
    rw [Text.unsigned?_eq_some_iff, Text.toList_trim, String.toList_ofList]
    rfl
  rw [← hread, readCount]
  split <;> simp [*]

private theorem readCount_eq_error_iff (s part : String) {fault : SimulationFault} :
    readCount s part (some piece) = .error fault ↔
      (¬ ∃ n, StatesCount piece n) ∧ fault = .invalid part (String.ofList piece) := by
  simp only [← readCount_eq_ok_iff s part]
  rw [readCount]
  split <;> simp [eq_comm]

/-- Read the name of the processor, which ends the text. -/
def readName (whole : String) (piece? : Option (List Char)) : Except SimulationFault String :=
  if Text.trimChars (piece?.getD []) = [] then .error (.missing "CPU name" whole)
  else .ok (String.ofList (Text.trimChars (piece?.getD [])))

/-- The parts are read one after the other. -/
theorem parseFixed_eq (s : String) :
    parseFixed s = (do
      let threads ← readCount s "thread count" (some (pieces s).threads)
      let cores ← readCount s "core count" (pieces s).cores
      let sockets ← readCount s "socket count" (pieces s).sockets
      let cpu ← readName s (pieces s).cpu
      return .fixed threads cores sockets cpu) := by
  unfold parseFixed
  simp only
  cases readCount s "thread count" (some (pieces s).threads) with
  | error fault => rfl
  | ok threads =>
    cases readCount s "core count" (pieces s).cores with
    | error fault => rfl
    | ok cores =>
      cases readCount s "socket count" (pieces s).sockets with
      | error fault => rfl
      | ok sockets =>
        simp only [bind, Except.bind, readName, Text.trim, String.toList_ofList,
          String.isEmpty_iff, String.ofList_eq_empty_iff]
        split <;> rfl

private theorem readName_eq_ok_iff {cpu : String} :
    readName s (some piece) = .ok cpu ↔
      Text.trimChars piece ≠ [] ∧ String.ofList (Text.trimChars piece) = cpu := by
  rw [readName, Option.getD_some]
  split <;> simp [*]

private theorem readName_eq_error_iff {fault : SimulationFault} :
    readName s (some piece) = .error fault ↔
      Text.trimChars piece = [] ∧ fault = .missing "CPU name" s := by
  rw [readName, Option.getD_some]
  by_cases h : Text.trimChars piece = []
  · rw [if_pos h, Except.error.injEq, eq_comm]
    simp only [h, true_and]
  · simp [h]

private theorem readCount_none_ne_ok {part : String} {n : Nat} : readCount s part none ≠ .ok n := by
  rw [readCount]
  simp

private theorem readCount_none_eq_error_iff {part : String} {fault : SimulationFault} :
    readCount s part none = .error fault ↔ fault = .missing part s := by
  rw [readCount, Except.error.injEq, eq_comm]

private theorem readName_none (s : String) : readName s none = .error (.missing "CPU name" s) := rfl

private theorem readName_none_ne_ok {cpu : String} : readName s none ≠ .ok cpu := by
  rw [readName_none]
  simp

private theorem readName_none_eq_error_iff {fault : SimulationFault} :
    readName s none = .error fault ↔ fault = .missing "CPU name" s := by
  rw [readName_none, Except.error.injEq, eq_comm]

/-- Four pieces that state the four parts are read, and nothing else is. -/
theorem parseFixed_eq_ok_iff {stated : Simulation} :
    parseFixed s = .ok stated ↔ ∃ a b c r threads cores sockets,
      Cut 3 s.toList [a, b, c, r] ∧ StatesCount a threads ∧ StatesCount b cores ∧
      StatesCount c sockets ∧ Text.trimChars r ≠ [] ∧
      stated = .fixed threads cores sockets (String.ofList (Text.trimChars r)) := by
  rw [parseFixed_eq]
  simp only [bindExcept_eq_ok_iff]
  constructor
  · rcases pieces_cases s with ⟨a, hcut, hp⟩ | ⟨a, b, hcut, hp⟩ | ⟨a, b, c, hcut, hp⟩ |
      ⟨a, b, c, r, hcut, hp⟩
    all_goals rw [hp]
    · rintro ⟨_, -, _, hb, -⟩
      exact absurd hb readCount_none_ne_ok
    · rintro ⟨_, -, _, -, _, hc, -⟩
      exact absurd hc readCount_none_ne_ok
    · rintro ⟨_, -, _, -, _, -, _, hr, -⟩
      exact absurd hr readName_none_ne_ok
    · simp only [readCount_eq_ok_iff, readName_eq_ok_iff]
      rintro ⟨threads, ha, cores, hb, sockets, hc, _, ⟨hr, rfl⟩, he⟩
      exact ⟨a, b, c, r, threads, cores, sockets, hcut, ha, hb, hc, hr, (Except.ok.inj he).symm⟩
  · rintro ⟨a, b, c, r, threads, cores, sockets, hcut, ha, hb, hc, hr, rfl⟩
    rw [pieces_of_cut hcut]
    simp only [readCount_eq_ok_iff, readName_eq_ok_iff]
    exact ⟨threads, ha, cores, hb, sockets, hc, _, ⟨hr, rfl⟩, rfl⟩

/-- What is reported of the first part that is not stated. -/
def FirstFault (whole : String) (parts : List Part) (pieces : List (List Char))
    (fault : SimulationFault) : Prop :=
  ∃ part piece?, FirstUnstated parts pieces part piece? ∧ fault = part.fault whole piece?

private theorem firstFault_cons_iff {part : Part} {parts : List Part} {pieces : List (List Char)}
    {fault : SimulationFault} :
    FirstFault s (part :: parts) (piece :: pieces) fault ↔
      (¬ part.Stated piece ∧ fault = part.fault s (some piece)) ∨
      (part.Stated piece ∧ FirstFault s parts pieces fault) := by
  constructor
  · rintro ⟨_, _, hfirst, rfl⟩
    cases hfirst with
    | unstated hn => exact .inl ⟨hn, rfl⟩
    | later hs hlater => exact .inr ⟨hs, _, _, hlater, rfl⟩
  · rintro (⟨hn, rfl⟩ | ⟨hs, _, _, hlater, rfl⟩)
    · exact ⟨_, _, .unstated hn, rfl⟩
    · exact ⟨_, _, .later hs hlater, rfl⟩

private theorem firstFault_nil_iff {part : Part} {parts : List Part} {fault : SimulationFault} :
    FirstFault s (part :: parts) [] fault ↔ fault = part.fault s none := by
  constructor
  · rintro ⟨_, _, hfirst, rfl⟩
    cases hfirst
    rfl
  · rintro rfl
    exact ⟨_, _, .missing, rfl⟩

private theorem not_firstFault {pieces : List (List Char)} {fault : SimulationFault} :
    ¬ FirstFault s [] pieces fault := by
  rintro ⟨_, _, hfirst, -⟩
  cases hfirst

private theorem parseFixed_eq_error_iff {fault : SimulationFault} :
    parseFixed s = .error fault ↔
      ∃ pieces, Cut 3 s.toList pieces ∧ FirstFault s Part.order pieces fault := by
  have hpieces {ps : List (List Char)} (hcut : Cut 3 s.toList ps) :
      (∃ pieces, Cut 3 s.toList pieces ∧ FirstFault s Part.order pieces fault) ↔
        FirstFault s Part.order ps fault :=
    ⟨fun ⟨_, hcut', h⟩ => hcut.unique hcut' ▸ h, fun h => ⟨ps, hcut, h⟩⟩
  rw [parseFixed_eq]
  simp only [bindExcept_eq_error_iff]
  rcases pieces_cases s with ⟨a, hcut, hp⟩ | ⟨a, b, hcut, hp⟩ | ⟨a, b, c, hcut, hp⟩ |
    ⟨a, b, c, r, hcut, hp⟩
  all_goals
    rw [hp, hpieces hcut]
    simp only [Part.order, firstFault_cons_iff, firstFault_nil_iff, not_firstFault,
      readCount_eq_ok_iff, readCount_eq_error_iff, readCount_none_ne_ok,
      readCount_none_eq_error_iff, readName_eq_ok_iff, readName_eq_error_iff, readName_none_ne_ok,
      readName_none_eq_error_iff, Part.Stated, Part.fault, Part.name, pure, Except.pure,
      reduceCtorEq, false_and, and_false, exists_false, or_false, exists_and_right, ne_eq, not_not]

/-! ### The word for a host that cannot be probed -/

private theorem sameLetters_unsupported_iff :
    Text.sameLetters s "unsupported" = true ↔ Text.lower s = "unsupported" := by
  have hsmall : Text.lower "unsupported" = "unsupported" := by decide +kernel
  rw [Text.sameLetters, beq_iff_eq, hsmall]

/-- No colon is in the word. -/
theorem lower_ne_of_colon (h : ':' ∈ s.toList) : Text.lower s ≠ "unsupported" := by
  intro he
  have hcolon : ':' ∈ (Text.lower s).toList := by
    rw [Text.toList_lower]
    exact List.mem_map.mpr ⟨':', h, rfl⟩
  rw [he] at hcolon
  exact absurd hcolon (by decide +kernel)

private theorem parse_of_lower_eq (h : Text.lower s = "unsupported") :
    parse s = .ok .unsupported := by
  rw [parse, if_pos (sameLetters_unsupported_iff.mpr h)]

private theorem parse_of_lower_ne (h : Text.lower s ≠ "unsupported") : parse s = parseFixed s := by
  rw [parse, if_neg (mt sameLetters_unsupported_iff.mp h)]

private theorem lower_ne_of_parse {result : Except SimulationFault Simulation}
    (h : parse s = result) (hne : result ≠ .ok .unsupported) : Text.lower s ≠ "unsupported" :=
  fun he => hne (h.symm.trans (parse_of_lower_eq he))

private theorem parse_eq_unsupported_iff :
    parse s = .ok .unsupported ↔ Text.lower s = "unsupported" := by
  refine ⟨fun h => ?_, parse_of_lower_eq⟩
  by_contra hne
  rw [parse_of_lower_ne hne, parseFixed_eq_ok_iff] at h
  obtain ⟨_, _, _, _, _, _, _, -, -, -, -, -, he⟩ := h
  cases he

private theorem parse_eq_error_iff {fault : SimulationFault} :
    parse s = .error fault ↔ Text.lower s ≠ "unsupported" ∧
      ∃ pieces, Cut 3 s.toList pieces ∧ FirstFault s Part.order pieces fault := by
  rw [← parseFixed_eq_error_iff]
  constructor
  · intro h
    have hne := lower_ne_of_parse h nofun
    exact ⟨hne, parse_of_lower_ne hne ▸ h⟩
  · rintro ⟨hne, h⟩
    rw [parse_of_lower_ne hne, h]

/-! ### Topologies as they are written -/

/-- The text with these pieces, with colons between them. -/
def joined (a b c r : String) : String := a ++ ":" ++ b ++ ":" ++ c ++ ":" ++ r

private theorem toList_joined (a b c r : String) :
    (joined a b c r).toList =
      a.toList ++ ':' :: (b.toList ++ ':' :: (c.toList ++ ':' :: r.toList)) := by
  simp [joined]

private theorem cut_joined {a b c : String} (ha : ':' ∉ a.toList) (hb : ':' ∉ b.toList)
    (hc : ':' ∉ c.toList) (r : String) :
    Cut 3 (joined a b c r).toList [a.toList, b.toList, c.toList, r.toList] := by
  rw [toList_joined]
  exact .colon ha (.colon hb (.colon hc .enough))

private theorem eq_joined_of_cut {a b c r : List Char} (h : Cut 3 s.toList [a, b, c, r]) :
    s = joined (String.ofList a) (String.ofList b) (String.ofList c) (String.ofList r) ∧
      ':' ∉ a ∧ ':' ∉ b ∧ ':' ∉ c := by
  rw [← String.toList_inj, toList_joined]
  simp only [String.toList_ofList]
  generalize s.toList = cs at h
  cases h with
  | colon ha h =>
    cases h with
    | colon hb h =>
      cases h with
      | colon hc h =>
        cases h
        exact ⟨rfl, ha, hb, hc⟩

private theorem colon_mem_joined (a b c r : String) : ':' ∈ (joined a b c r).toList := by
  rw [toList_joined]
  exact List.mem_append_right _ List.mem_cons_self

/-- A topology is read exactly from four pieces that state it. -/
theorem parse_eq_fixed_iff {threads cores sockets : Nat} {cpu : String} :
    parse s = .ok (.fixed threads cores sockets cpu) ↔
      ∃ a b c r : String, s = joined a b c r ∧
        ':' ∉ a.toList ∧ ':' ∉ b.toList ∧ ':' ∉ c.toList ∧
        StatesCount a.toList threads ∧ StatesCount b.toList cores ∧
        StatesCount c.toList sockets ∧ Text.trim r = cpu ∧ cpu ≠ "" := by
  constructor
  · intro h
    rw [parse_of_lower_ne (lower_ne_of_parse h nofun), parseFixed_eq_ok_iff] at h
    obtain ⟨a, b, c, r, threads', cores', sockets', hcut, ha, hb, hc, hr, he⟩ := h
    cases he
    obtain ⟨hs, hna, hnb, hnc⟩ := eq_joined_of_cut hcut
    refine ⟨String.ofList a, String.ofList b, String.ofList c, String.ofList r, hs, ?_⟩
    simp only [String.toList_ofList, Text.trim, true_and]
    exact ⟨hna, hnb, hnc, ha, hb, hc, by simpa using hr⟩
  · rintro ⟨a, b, c, r, rfl, hna, hnb, hnc, ha, hb, hc, rfl, hr⟩
    rw [parse_of_lower_ne (lower_ne_of_colon (colon_mem_joined a b c r)), parseFixed_eq_ok_iff]
    exact ⟨_, _, _, _, _, _, _, cut_joined hna hnb hnc r, ha, hb, hc, by simpa [Text.trim] using hr,
      rfl⟩

private theorem statesCount_repr {n : Nat} (h : n < 2 ^ 32) :
    StatesCount (Nat.repr n).toList n := by
  refine ⟨?_, h⟩
  rw [Text.trimChars_eq_self fun c hc => Text.isBlank_of_isDigit (Text.isDigit_of_mem_repr hc)]
  exact Text.writesNatural_repr n

private theorem colon_notMem_repr (n : Nat) : ':' ∉ (Nat.repr n).toList :=
  (Text.isNumeral_repr n).notMem rfl

/-- What is written with decimal digits and a name without blanks at its ends is read back. -/
theorem parse_joined_repr {threads cores sockets : Nat} {cpu : String} (ht : threads < 2 ^ 32)
    (hc : cores < 2 ^ 32) (hs : sockets < 2 ^ 32) (hne : cpu ≠ "") (htrim : Text.trim cpu = cpu) :
    parse (joined (Nat.repr threads) (Nat.repr cores) (Nat.repr sockets) cpu) =
      .ok (.fixed threads cores sockets cpu) :=
  parse_eq_fixed_iff.mpr ⟨_, _, _, cpu, rfl, colon_notMem_repr threads, colon_notMem_repr cores,
    colon_notMem_repr sockets, statesCount_repr ht, statesCount_repr hc, statesCount_repr hs,
    htrim, hne⟩

/-- A snapshot of a stated topology is taken exactly if its counts are in order and its name is
known. -/
theorem outcome_ofSimulation_iff {clock : Clock} {platform : Platform}
    {threads cores sockets call now : Nat} {cpu : String} {snapshot : Snapshot} :
    ((Probe.ofSimulation clock (.fixed threads cores sockets cpu) platform).respond call
        now).outcome = .ok snapshot ↔
      (1 ≤ sockets ∧ sockets ≤ cores ∧ cores ≤ threads ∧ CpuName.HoldsToken cpu) ∧
      snapshot = { threads, cores, sockets, cpu, description := cpu, startTime := clock now } := by
  have houtcome : ((Probe.ofSimulation clock (.fixed threads cores sockets cpu) platform).respond
      call now).outcome = Snapshot.checked
        { threads, cores, sockets, cpu, description := cpu, startTime := clock now } := rfl
  rw [houtcome, Snapshot.checked_eq_ok_iff, Snapshot.defect?_eq_none_iff]
  constructor
  · rintro ⟨⟨⟨h1, h2, h3⟩, hcpu, -⟩, he⟩
    exact ⟨⟨h1, h2, h3, hcpu⟩, he.symm⟩
  · rintro ⟨⟨h1, h2, h3, hcpu⟩, he⟩
    exact ⟨⟨⟨h1, h2, h3⟩, hcpu, hcpu⟩, he.symm⟩

/-- A text states that a host cannot be probed exactly if it is the word for it, in letters of any
case. It states a topology exactly if it is made of four pieces with colons between them, of which
only the last may hold colons, so that the first three are counts and the last is a name, each but
for the blanks around it. Any other text is refused, and the fault is that of the first part in
order for which there is no piece or whose piece does not state it; it names that part. So counts of
the 32-bit range and a name without blanks at its ends are read back as they were written, and a
snapshot of them is taken exactly if they are in order and the name is known. -/
theorem stated_by_grammar (s : String) :
    (parse s = .ok .unsupported ↔ Text.lower s = "unsupported") ∧
    (∀ threads cores sockets cpu, parse s = .ok (.fixed threads cores sockets cpu) ↔
      ∃ a b c r : String, s = a ++ ":" ++ b ++ ":" ++ c ++ ":" ++ r ∧
        ':' ∉ a.toList ∧ ':' ∉ b.toList ∧ ':' ∉ c.toList ∧
        StatesCount a.toList threads ∧ StatesCount b.toList cores ∧
        StatesCount c.toList sockets ∧ Text.trim r = cpu ∧ cpu ≠ "") ∧
    (∀ fault, parse s = .error fault ↔ Text.lower s ≠ "unsupported" ∧
      ∃ pieces part piece?, Cut 3 s.toList pieces ∧
        FirstUnstated Part.order pieces part piece? ∧ fault = part.fault s piece? ∧
        part.name.toList <:+: fault.message.toList) ∧
    (∀ threads cores sockets cpu, threads < 2 ^ 32 → cores < 2 ^ 32 → sockets < 2 ^ 32 →
      cpu ≠ "" → Text.trim cpu = cpu →
      parse (Nat.repr threads ++ ":" ++ Nat.repr cores ++ ":" ++ Nat.repr sockets ++ ":" ++ cpu) =
        .ok (.fixed threads cores sockets cpu) ∧
      ∀ clock platform call now snapshot,
        ((Probe.ofSimulation clock (.fixed threads cores sockets cpu) platform).respond call
            now).outcome = .ok snapshot ↔
          (1 ≤ sockets ∧ sockets ≤ cores ∧ cores ≤ threads ∧ CpuName.HoldsToken cpu) ∧
          snapshot = { threads, cores, sockets, cpu, description := cpu,
                       startTime := clock now }) := by
  refine ⟨parse_eq_unsupported_iff, fun threads cores sockets cpu => parse_eq_fixed_iff, ?_, ?_⟩
  · intro fault
    rw [parse_eq_error_iff]
    refine and_congr_right fun _ => ⟨?_, ?_⟩
    · rintro ⟨pieces, hcut, part, piece?, hfirst, rfl⟩
      exact ⟨pieces, part, piece?, hcut, hfirst, rfl, part.name_infix_message s piece?⟩
    · rintro ⟨pieces, part, piece?, hcut, hfirst, hfault, -⟩
      exact ⟨pieces, hcut, part, piece?, hfirst, hfault⟩
  · intro threads cores sockets cpu ht hc hs hne htrim
    exact ⟨parse_joined_repr ht hc hs hne htrim,
      fun clock platform call now snapshot => outcome_ofSimulation_iff⟩

end CpuCensus.Simulation
