/-!
# Probe faults

Why no snapshot of the processors can be taken. Each fault carries its causes; the wording is in one
place, `ProbeFault.message`.
-/

namespace CpuCensus

/-- Why a file or directory cannot be read. -/
inductive ReadFault where
  | notFound
  | notDirectory
  | isDirectory
  | notUtf8
  /-- A command was given a word with the character of number zero in it. -/
  | nulByte
  /-- A fault that is known by its wording only. -/
  | stated (text : String)
  deriving DecidableEq, Repr

/-- The wording of the fault. -/
def ReadFault.message : ReadFault → String
  | .notFound => "No such file or directory (os error 2)"
  | .notDirectory => "Not a directory (os error 20)"
  | .isDirectory => "Is a directory (os error 21)"
  | .notUtf8 => "stream did not contain valid UTF-8"
  | .nulByte => "nul byte found in provided data"
  | .stated text => text

/-- Why the values of a snapshot contradict each other or say nothing. -/
inductive Defect where
  | zeroCount (threads cores sockets : Nat)
  | excessCores (cores threads : Nat)
  | excessSockets (sockets cores : Nat)
  | blank (field : String)
  | unknownCpu (field value : String)
  /-- A defect that is known by its wording only. -/
  | stated (text : String)
  deriving DecidableEq, Repr

/-- The wording of the defect. -/
def Defect.message : Defect → String
  | .zeroCount threads cores sockets =>
    s!"counts must be at least 1 (hwThreads={threads}, cores={cores}, sockets={sockets})"
  | .excessCores cores threads => s!"cores ({cores}) exceed hardware threads ({threads})"
  | .excessSockets sockets cores => s!"sockets ({sockets}) exceed cores ({cores})"
  | .blank field => s!"{field} is empty"
  | .unknownCpu field value => s!"{field} '{value}' names no known CPU vendor or architecture"
  | .stated text => text

/-- Why no snapshot can be taken. -/
inductive ProbeFault where
  /-- The operating system is one whose topology cannot be read. -/
  | unsupportedSystem (system : String)
  | unsupportedArchitecture (architecture : String)
  /-- The host does not tell a quantity. -/
  | undetermined (quantity reason : String)
  | unreadable (path : String) (cause : ReadFault)
  /-- A source can be read but does not hold what it should. -/
  | malformed (source reason : String)
  | invalid (defect : Defect)
  deriving DecidableEq, Repr

/-- The wording of the fault. -/
def ProbeFault.message : ProbeFault → String
  | .unsupportedSystem system => s!"Topology probing is not supported on {system}"
  | .unsupportedArchitecture architecture => s!"Unsupported CPU architecture: {architecture}"
  | .undetermined quantity reason => s!"Could not determine {quantity}: {reason}"
  | .unreadable path cause => "Failed to read " ++ path ++ ": " ++ cause.message
  | .malformed source reason => s!"Failed to parse {source}: {reason}"
  | .invalid defect => "Invalid CPU information: " ++ defect.message

end CpuCensus
