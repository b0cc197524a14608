import CpuCensus.Json.Writer
import CpuCensus.Time.Rfc3339
import CpuCensus.Topology.Name

/-!
# Snapshots

A snapshot tells how many hardware threads, cores and sockets a host has, what its processor is and
when this was read. Only a snapshot without defect is ever recorded.
-/

namespace CpuCensus

/-- What was read about the processors of a host at one instant. -/
structure Snapshot where
  threads : Nat
  cores : Nat
  sockets : Nat
  cpu : String
  description : String
  startTime : Instant
  deriving DecidableEq, Repr

namespace Snapshot

/-- The name of the event that a snapshot is recorded as. -/
def eventName : String := "cpu.information"

/-- The defect of a text that should name a processor. -/
def textDefect? (field value : String) : Option Defect :=
  if Text.isAllBlank value then some (.blank field)
  else if CpuName.isKnown value then none
  else some (.unknownCpu field value)

/-- The first defect of a snapshot: counts come before texts. -/
def defect? (s : Snapshot) : Option Defect :=
  if s.threads = 0 ∨ s.cores = 0 ∨ s.sockets = 0 then
    some (.zeroCount s.threads s.cores s.sockets)
  else if s.threads < s.cores then some (.excessCores s.cores s.threads)
  else if s.cores < s.sockets then some (.excessSockets s.sockets s.cores)
  else (textDefect? "cpu" s.cpu).or (textDefect? "description" s.description)

/-- Accept a snapshot without defect. -/
def checked (s : Snapshot) : Except ProbeFault Snapshot :=
  match s.defect? with
  | some defect => .error (.invalid defect)
  | none => .ok s

/-- The snapshot in lines of text. -/
def text (s : Snapshot) : String :=
  eventName ++ " \x7b\n" ++
    "  startTime = " ++ s.startTime.text .numeric ++ "\n" ++
    "  cpu = \"" ++ s.cpu ++ "\"\n" ++
    "  description = \"" ++ s.description ++ "\"\n" ++
    "  sockets = " ++ Nat.repr s.sockets ++ "\n" ++
    "  cores = " ++ Nat.repr s.cores ++ "\n" ++
    "  hwThreads = " ++ Nat.repr s.threads ++ "\n\x7d"

/-- The members of a snapshot's JSON object, in order. -/
def members (s : Snapshot) : List Json.Member :=
  [("hwThreads", Json.number s.threads), ("cores", Json.number s.cores),
    ("sockets", Json.number s.sockets), ("cpu", Json.text s.cpu),
    ("description", Json.text s.description), ("startTime", Json.text (s.startTime.text .letter))]

/-- The snapshot as a JSON object. -/
def json (s : Snapshot) : String := Json.object 0 s.members

end Snapshot

end CpuCensus
