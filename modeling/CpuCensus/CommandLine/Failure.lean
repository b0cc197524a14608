import CpuCensus.Session

/-!
# Failures of a command

Why a command fails, with the wording and the exit code that the user gets.
-/

namespace CpuCensus

/-- Why a command fails. -/
inductive Failure where
  | probe (fault : ProbeFault)
  | verification (fault : FieldFault)
  | refused (refusal : Refusal)
  | settings (fault : SettingsFault)
  | output (reason : String)
  deriving DecidableEq, Repr

namespace Failure

/-- The failure that a fault of a session stands for. -/
def ofSession : SessionFault → Failure
  | .probe fault => .probe fault
  | .refused refusal => .refused refusal

/-- The wording of the failure. -/
def message : Failure → String
  | probe fault => "Probe failed: " ++ fault.message
  | verification fault => "Verification failed: " ++ fault.message
  | refused refusal => "Internal error: " ++ refusal.message
  | settings fault => "Configuration error: " ++ fault.message
  | output reason => "Output error: " ++ reason

/-- The exit code: 1 for events that break the contract, otherwise a code above 63 for the kind of
failure. -/
def exitCode : Failure → Nat
  | verification _ => 1
  | probe _ => 69
  | refused _ => 70
  | output _ => 74
  | settings _ => 78

end Failure

end CpuCensus
