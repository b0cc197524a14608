import CpuCensus.Json.Writer
import CpuCensus.Snapshot
import CpuCensus.Text.Quoted

/-!
# Recorded events

An event is a snapshot with its place in the order of capture. Its values can be looked up by name
and checked, and a list of events can be verified as a whole.
-/

namespace CpuCensus

/-- A recorded snapshot; the sequence counts captures from zero. -/
structure Event where
  sequence : Nat
  snapshot : Snapshot
  deriving DecidableEq, Repr

/-- The value of a field. -/
inductive FieldValue where
  | unsigned (n : Nat)
  | text (s : String)
  | timestamp (t : Instant)
  deriving DecidableEq, Repr

/-- What kind of value a field holds. -/
inductive FieldKind where
  | unsigned
  | text
  | timestamp
  deriving DecidableEq, Repr

/-- The words for a kind of value. -/
def FieldKind.words : FieldKind → String
  | .unsigned => "an unsigned integer"
  | .text => "text"
  | .timestamp => "a timestamp"

namespace FieldValue

/-- The kind of the value. -/
def kind : FieldValue → FieldKind
  | .unsigned _ => .unsigned
  | .text _ => .text
  | .timestamp _ => .timestamp

/-- The value as messages show it. -/
def shown : FieldValue → String
  | .unsigned n => Nat.repr n
  | .text s => "\"" ++ s ++ "\""
  | .timestamp t => t.text .numeric

end FieldValue

/-- Why a list of events fails a check. -/
inductive FieldFault where
  | missing (event name : String)
  | wrongKind (name : String) (expected actual : FieldKind)
  | violated (name value reason : String)
  | noEvents (event : String)
  deriving DecidableEq, Repr

/-- The wording of the fault. -/
def FieldFault.message : FieldFault → String
  | .missing event name => s!"Missing field '{name}' in event {event}"
  | .wrongKind name expected actual =>
    "Field '" ++ name ++ "' is " ++ actual.words ++ ", expected " ++ expected.words
  | .violated name value reason => s!"Field '{name}' = {value} {reason}"
  | .noEvents event => s!"No events recorded for {event}"

namespace Event

/-- Look up a field by its name. -/
def field (e : Event) (name : String) : Except FieldFault FieldValue :=
  match name with
  | "hwThreads" => .ok (.unsigned e.snapshot.threads)
  | "cores" => .ok (.unsigned e.snapshot.cores)
  | "sockets" => .ok (.unsigned e.snapshot.sockets)
  | "cpu" => .ok (.text e.snapshot.cpu)
  | "description" => .ok (.text e.snapshot.description)
  | "startTime" => .ok (.timestamp e.snapshot.startTime)
  | _ => .error (.missing Snapshot.eventName name)

/-- Look up a field that holds a number. -/
def unsigned (e : Event) (name : String) : Except FieldFault Nat :=
  match e.field name with
  | .error fault => .error fault
  | .ok (.unsigned n) => .ok n
  | .ok value => .error (.wrongKind name .unsigned value.kind)

/-- Look up a field that holds a text. -/
def text (e : Event) (name : String) : Except FieldFault String :=
  match e.field name with
  | .error fault => .error fault
  | .ok (.text s) => .ok s
  | .ok value => .error (.wrongKind name .text value.kind)

/-- Check that a field holds a number of at least a minimum. -/
def atLeast (e : Event) (name : String) (least : Nat) : Except FieldFault Unit :=
  match e.unsigned name with
  | .error fault => .error fault
  | .ok n =>
    if least ≤ n then .ok ()
    else .error (.violated name (Nat.repr n) ("is less than " ++ Nat.repr least))

/-- Check that a field holds a text that contains one of the tokens. -/
def containsAny (e : Event) (name : String) (tokens : List String) : Except FieldFault Unit :=
  match e.text name with
  | .error fault => .error fault
  | .ok s =>
    if tokens.any (Text.contains s) then .ok ()
    else .error (.violated name ("\"" ++ s ++ "\"") ("contains none of " ++ Text.quotedList tokens))

/-- Check what every event must fulfil: at least one of each count, and known names. -/
def verify (e : Event) : Except FieldFault Unit := do
  e.atLeast "hwThreads" 1
  e.atLeast "cores" 1
  e.atLeast "sockets" 1
  e.containsAny "cpu" CpuName.knownTokens
  e.containsAny "description" CpuName.knownTokens

/-- The event as a JSON object one level in. -/
def json (e : Event) : String :=
  Json.object 1 (("sequence", Json.number e.sequence) :: e.snapshot.members)

end Event

/-- The events of a stopped recording. -/
structure EventView where
  recordingId : Nat
  events : List Event
  deriving DecidableEq, Repr

namespace EventView

/-- Check that there is an event. -/
def hasEvents (v : EventView) : Except FieldFault Unit :=
  if v.events.isEmpty then .error (.noEvents Snapshot.eventName) else .ok ()

/-- Check that there is an event and that every event fulfils what it must. -/
def verify (v : EventView) : Except FieldFault Unit := do
  v.hasEvents
  v.events.forM Event.verify

/-- The events as a JSON array. -/
def json (v : EventView) : String := Json.array 0 (v.events.map Event.json)

end EventView

end CpuCensus
