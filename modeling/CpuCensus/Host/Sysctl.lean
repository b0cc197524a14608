import CpuCensus.Text.Blank
import CpuCensus.Text.Lossy
import CpuCensus.Text.Search
import CpuCensus.Topology.Counts

/-!
# Counts from named values

Some systems tell their counts as values that are asked for by name with the command `sysctl`.
-/

namespace CpuCensus.Sysctl

/-- What a command leaves behind. -/
structure CommandResult where
  succeeded : Bool
  output : ByteArray
  errors : ByteArray

/-- What the command answers when asked for a name, unless it cannot be run at all. -/
abbrev Command := String → Except ReadFault CommandResult

/-- Run the command for a name, which is one of its words and so cannot hold the character of
number zero. -/
def ask (command : Command) (name : String) : Except ReadFault CommandResult :=
  if Text.contains name "\x00" then .error .nulByte else command name

/-- Ask for the text of a value. -/
def textOf (command : Command) (name : String) : Except ProbeFault String :=
  match ask command name with
  | .error cause => .error (.unreadable "sysctl" cause)
  | .ok result =>
    if result.succeeded then .ok (Text.ofBytesLossy result.output)
    else .error (.undetermined "topology"
      ("sysctl -n " ++ name ++ " failed: " ++ Text.trim (Text.ofBytesLossy result.errors)))

/-- Ask for a value that is a count. -/
def count (command : Command) (name : String) : Except ProbeFault Nat := do
  let digits := Text.trim (← textOf command name)
  match Text.unsigned? Text.bound32 digits with
  | some n => return n
  | none => throw (.malformed name ("'" ++ digits ++ "' is not a count"))

/-- Ask for the counts of the host. -/
def counts (command : Command) : Except ProbeFault Counts := do
  let threads ← count command "hw.logicalcpu"
  let cores ← count command "hw.physicalcpu"
  let sockets ← count command "hw.packages"
  return { threads, cores, sockets }

end CpuCensus.Sysctl
