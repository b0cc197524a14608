/-!
# Phases of a recording

A recording is idle, then started, then stopped, and never goes back. An operation that does not
fit the phase is refused.
-/

namespace CpuCensus

/-- Where a recording stands. -/
inductive Phase where
  | idle
  | started
  | stopped
  deriving DecidableEq, Repr

/-- The word for a phase. -/
def Phase.word : Phase → String
  | .idle => "idle"
  | .started => "started"
  | .stopped => "stopped"

/-- What can be asked of a recording. -/
inductive Operation where
  | start
  | stop
  | sample
  | read
  deriving DecidableEq, Repr

/-- The word for an operation. -/
def Operation.word : Operation → String
  | .start => "start"
  | .stop => "stop"
  | .sample => "sample"
  | .read => "read"

/-- The phase in which an operation is accepted. -/
def Operation.needs : Operation → Phase
  | .start => .idle
  | .stop => .started
  | .sample => .started
  | .read => .stopped

/-- An operation that came in the wrong phase. -/
structure Refusal where
  operation : Operation
  phase : Phase
  deriving DecidableEq, Repr

/-- The wording of the refusal. -/
def Refusal.message (r : Refusal) : String :=
  "Cannot " ++ r.operation.word ++ " a recording that is " ++ r.phase.word

end CpuCensus
