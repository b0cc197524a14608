import CpuCensus.Proofs.JsonLiterals
import CpuCensus.Recording.Event

/-!
# Events told by their JSON text

Lists of events that are written alike agree in everything that is written: no text inside an event
can be taken for a part of the layout. A literal tells its value and where it ends, so a member
does, and so do the lines of an object and of an array.
-/

namespace CpuCensus.Json

/-! ### Literals -/

/-- A text that starts in this way tells what is written, and what comes after it, as long as
nothing follows that could belong to a number. -/
def Tells {α : Type} (write : α → List Char) : Prop :=
  ∀ {a b : α} {rest rest' : List Char}, EndsNumber rest → EndsNumber rest' →
    write a ++ rest = write b ++ rest' → a = b ∧ rest = rest'

private theorem tells_text : Tells fun s => (text s).toList := by
  intro a b rest rest' _ _ h
  simp only [toList_text, List.cons_append, List.append_assoc, List.cons.injEq, true_and,
    List.nil_append] at h
  have hscan := congrArg scanText h
  rw [scanText_escaped, scanText_escaped] at hscan
  simpa using hscan

private theorem tells_number : Tells fun n => (number n).toList := by
  intro a b rest rest' hr hr' h
  have hscan (n : Nat) {rest : List Char} (hr : EndsNumber rest) :
      scanDigits ((number n).toList ++ rest) = .ok ((number n).toList, rest) := by
    obtain ⟨c, cs, hcs, -⟩ := repr_eq_cons n
    exact scanDigits_append (fun _ => Text.isDigit_of_mem_repr) (by simp [number, hcs])
      fun c hc => (hr c hc).1
  have hsame := (hscan a hr).symm.trans ((congrArg scanDigits h).trans (hscan b hr'))
  simp only [Except.ok.injEq, Prod.mk.injEq, String.toList_inj] at hsame
  exact ⟨Nat.repr_inj.mp hsame.1, hsame.2⟩

/-- The value of a member: a number or a text. -/
inductive Value where
  | number (n : Nat)
  | text (s : String)

/-- The literal of the value. -/
def Value.literal : Value → String
  | .number n => Json.number n
  | .text s => Json.text s

private theorem number_append_ne_text (n : Nat) (s : String) (rest rest' : List Char) :
    (number n).toList ++ rest ≠ (text s).toList ++ rest' := by
  intro h
  obtain ⟨c, cs, hcs, hc⟩ := repr_eq_cons n
  rw [number, hcs, toList_text, List.cons_append, List.cons_append, List.cons.injEq] at h
  rw [h.1] at hc
  cases hc

private theorem tells_value : Tells fun v : Value => v.literal.toList := by
  intro a b rest rest' hr hr' h
  cases a with
  | number n =>
    cases b with
    | number m =>
      obtain ⟨rfl, hrest⟩ := tells_number hr hr' h
      exact ⟨rfl, hrest⟩
    | text s => exact absurd h (number_append_ne_text n s rest rest')
  | text s =>
    cases b with
    | number m => exact absurd h.symm (number_append_ne_text m s rest' rest)
    | text t =>
      obtain ⟨rfl, hrest⟩ := tells_text hr hr' h
      exact ⟨rfl, hrest⟩

/-- A member as it stands on its line. -/
def memberLine (member : String × Value) : List Char :=
  (text member.1).toList ++ ':' :: ' ' :: member.2.literal.toList

private theorem tells_memberLine : Tells memberLine := by
  rintro ⟨key, value⟩ ⟨key', value'⟩ rest rest' hr hr' h
  simp only [memberLine, List.append_assoc, List.cons_append] at h
  obtain ⟨rfl, hvalues⟩ :=
    tells_text (endsNumber_mark .colon rfl _) (endsNumber_mark .colon rfl _) h
  obtain ⟨rfl, hrest⟩ := tells_value hr hr' (by simpa using hvalues)
  exact ⟨rfl, hrest⟩

/-! ### Lines -/

/-- The lines after the first of an object or an array, each after the comma of the one before. -/
def laterLines (level : Nat) (lines : List (List Char)) : List Char :=
  lines.flatMap fun line => ',' :: '\n' :: ((indent level).toList ++ line)

/-- The lines of an object or an array, without what opens and closes it. -/
def linesText (level : Nat) : List (List Char) → List Char
  | [] => []
  | line :: lines => (indent level).toList ++ (line ++ laterLines level lines)

private theorem endsNumber_laterLines (level : Nat) (lines : List (List Char)) (rest : List Char) :
    EndsNumber (laterLines level lines ++ '\n' :: rest) := by
  cases lines with
  | nil => exact endsNumber_space rfl rest
  | cons line lines => exact endsNumber_mark .comma rfl _

section lines

variable {α : Type} {write : α → List Char} {level : Nat} {as bs : List α} {rest rest' : List Char}

private theorem Tells.laterLines (h : Tells write)
    (heq : laterLines level (as.map write) ++ '\n' :: rest =
      laterLines level (bs.map write) ++ '\n' :: rest') : as = bs ∧ rest = rest' := by
  -- By induction on the lines: a comma or the end of a line tells whether there is another one.
  induction as generalizing bs with
  | nil =>
    cases bs with
    | nil => simpa [Json.laterLines] using heq
    | cons b bs => simp [Json.laterLines] at heq
  | cons a as ih =>
    cases bs with
    | nil => simp [Json.laterLines] at heq
    | cons b bs =>
      simp only [Json.laterLines, List.map_cons, List.flatMap_cons, List.append_assoc,
        List.cons_append, List.cons.injEq, true_and, List.append_cancel_left_eq] at heq
      obtain ⟨rfl, hlater⟩ := h (endsNumber_laterLines level _ rest)
        (endsNumber_laterLines level _ rest') heq
      obtain ⟨rfl, hrest⟩ := ih hlater
      exact ⟨rfl, hrest⟩

private theorem toList_indent_succ (level : Nat) :
    (indent (level + 1)).toList = ' ' :: ' ' :: (indent level).toList := by
  simp [indent, Nat.mul_add, List.replicate_succ]

private theorem Tells.linesText (h : Tells write)
    (heq : linesText (level + 1) (as.map write) ++ '\n' :: rest =
      linesText (level + 1) (bs.map write) ++ '\n' :: rest') : as = bs ∧ rest = rest' := by
  cases as with
  | nil =>
    cases bs with
    | nil => simpa [Json.linesText] using heq
    -- A first line starts with a blank, and what closes an empty one with the end of a line.
    | cons b bs => simp [Json.linesText, toList_indent_succ] at heq
  | cons a as =>
    cases bs with
    | nil => simp [Json.linesText, toList_indent_succ] at heq
    | cons b bs =>
      simp only [Json.linesText, List.map_cons, List.append_assoc,
        List.append_cancel_left_eq] at heq
      obtain ⟨rfl, hlater⟩ := h (endsNumber_laterLines _ _ rest) (endsNumber_laterLines _ _ rest')
        heq
      obtain ⟨rfl, hrest⟩ := h.laterLines hlater
      exact ⟨rfl, hrest⟩

end lines

/-! ### Objects and arrays -/

private theorem toList_lines {α : Type} {level : Nat} {line : α → String} {chars : α → List Char}
    (h : ∀ a, (line a).toList = (indent level).toList ++ chars a) (as : List α) :
    (String.intercalate ",\n" (as.map line)).toList = linesText level (as.map chars) := by
  have hcomma : ",\n".toList = [',', '\n'] := rfl
  cases as with
  | nil => rfl
  | cons a as =>
    simp only [List.map_cons, toList_intercalate_cons, List.flatMap_map, h, hcomma, linesText,
      laterLines, List.append_assoc, List.cons_append, List.nil_append]

/-- A member with the literal of its value. -/
def written (member : String × Value) : Member := (member.1, member.2.literal)

private theorem toList_object (level : Nat) (members : List (String × Value)) :
    (object level (members.map written)).toList = '\x7b' :: '\n' ::
      (linesText (level + 1) (members.map memberLine) ++
        '\n' :: ((indent level).toList ++ ['\x7d'])) := by
  have hopen : "\x7b\n".toList = ['\x7b', '\n'] := rfl
  have hline (m : String × Value) :
      (indent (level + 1) ++ text (written m).1 ++ ": " ++ (written m).2).toList =
        (indent (level + 1)).toList ++ memberLine m := by
    simp [memberLine, written]
  simp only [object, List.map_map, Function.comp_def, String.toList_append, hopen]
  rw [toList_lines hline]
  simp

private theorem toList_array {α : Type} (level : Nat) (item : α → String) {as : List α}
    (h : as ≠ []) : (array level (as.map item)).toList = '[' :: '\n' ::
      (linesText (level + 1) (as.map fun a => (item a).toList) ++
        '\n' :: ((indent level).toList ++ [']'])) := by
  have hopen : "[\n".toList = ['[', '\n'] := rfl
  rw [array, if_neg (by simpa using h)]
  simp only [List.map_map, Function.comp_def, String.toList_append, hopen]
  rw [toList_lines fun a => String.toList_append]
  simp

private theorem tells_object (level : Nat) :
    Tells fun members : List (String × Value) => (object level (members.map written)).toList := by
  intro as bs rest rest' _ _ h
  simp only [toList_object, List.cons_append, List.append_assoc, List.cons.injEq, true_and] at h
  obtain ⟨rfl, hclose⟩ := tells_memberLine.linesText h
  exact ⟨rfl, by simpa using hclose⟩

/-- Arrays that are written alike have the same items, if each item is told by its text. -/
theorem array_inj {α : Type} {item : α → String} (h : Tells fun a => (item a).toList) {level : Nat}
    {as bs : List α} (heq : array level (as.map item) = array level (bs.map item)) : as = bs := by
  have hempty : (array level []).toList = ['[', ']'] := by simp [array]
  have hlist := congrArg String.toList heq
  by_cases ha : as = []
  · by_cases hb : bs = []
    · rw [ha, hb]
    · rw [ha, List.map_nil, hempty, toList_array level item hb] at hlist
      simp at hlist
  · by_cases hb : bs = []
    · rw [hb, List.map_nil, hempty, toList_array level item ha] at hlist
      simp at hlist
    · rw [toList_array level item ha, toList_array level item hb, List.cons.injEq,
        List.cons.injEq] at hlist
      exact (h.linesText hlist.2.2).1

end CpuCensus.Json

namespace CpuCensus

/-- The members of an event's JSON object with their values. -/
def Event.values (e : Event) : List (String × Json.Value) :=
  [("sequence", .number e.sequence), ("hwThreads", .number e.snapshot.threads),
    ("cores", .number e.snapshot.cores), ("sockets", .number e.snapshot.sockets),
    ("cpu", .text e.snapshot.cpu), ("description", .text e.snapshot.description),
    ("startTime", .text (e.snapshot.startTime.text .letter))]

private theorem EventView.json_eq_array (v : EventView) :
    v.json = Json.array 0 ((v.events.map Event.values).map fun values =>
      Json.object 1 (values.map Json.written)) := by
  rw [List.map_map]
  rfl

private theorem EventView.json_eq_iff (v w : EventView) :
    v.json = w.json ↔ v.events.map Event.values = w.events.map Event.values := by
  rw [json_eq_array, json_eq_array]
  constructor
  · exact Json.array_inj (Json.tells_object 1)
  · intro h
    rw [h]

/-- Two lists of events are written alike exactly if they have the same length and, place by place,
the same sequence, counts and texts and the same wording of the start time. -/
theorem EventView.json_tells_events (v w : EventView) :
    v.json = w.json ↔
      List.Forall₂ (fun a b : Event => a.sequence = b.sequence ∧
        a.snapshot.threads = b.snapshot.threads ∧ a.snapshot.cores = b.snapshot.cores ∧
        a.snapshot.sockets = b.snapshot.sockets ∧ a.snapshot.cpu = b.snapshot.cpu ∧
        a.snapshot.description = b.snapshot.description ∧
        a.snapshot.startTime.text .letter = b.snapshot.startTime.text .letter)
      v.events w.events := by
  rw [json_eq_iff, ← List.forall₂_eq_eq_eq, List.forall₂_map_left_iff, List.forall₂_map_right_iff]
  simp [Event.values]

end CpuCensus
