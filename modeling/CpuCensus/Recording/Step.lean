import CpuCensus.Notice

/-!
# Steps

What an operation leaves behind, and why one fails.
-/

namespace CpuCensus

/-- Why an operation of a session fails. -/
inductive SessionFault where
  | refused (refusal : Refusal)
  | probe (fault : ProbeFault)
  deriving DecidableEq, Repr

/-- The wording of the fault: that of its cause. -/
def SessionFault.message : SessionFault → String
  | .refused refusal => refusal.message
  | .probe fault => fault.message

/-- What an operation leaves behind: its answer, the new state and the notices in order. -/
structure Step (σ α : Type) where
  answer : α
  state : σ
  notices : List Notice := []

end CpuCensus
