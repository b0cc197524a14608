/-!
# Waiting

Nobody waits longer than thirty years at a time. A wait that is asked to be longer ends then.
-/

namespace CpuCensus

/-- The longest wait in milliseconds: thirty years of 365 days. -/
def longestWait : Nat := 30 * 365 * 24 * 60 * 60 * 1000

/-- How many milliseconds a wait takes that is asked to take so many. -/
def waitTime (ms : Nat) : Nat := min ms longestWait

/-- A wait takes time exactly when it is asked to. -/
@[simp] theorem waitTime_pos {ms : Nat} : 0 < waitTime ms ↔ 0 < ms := by
  simp only [waitTime, longestWait]
  omega

end CpuCensus
