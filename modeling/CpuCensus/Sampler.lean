import CpuCensus.Session
import CpuCensus.Time.Wait

/-!
# Periodic sampling

A sampler takes a snapshot each time its period has passed. It wakes at deadlines: a wake-up that
comes in time sets the next deadline one period later, one that comes too late skips the deadlines
that were missed. It ends when it is cancelled or finds the recording not started. Each time it is
polled it looks whether it was cancelled before it looks at its deadline.
-/

namespace CpuCensus

/-- How many milliseconds late a wake-up may come without deadlines being skipped. -/
def latenessTolerance : Nat := 5

/-- A sampler that waits for its next deadline. -/
structure Sampler where
  periodMs : Nat
  /-- When the sampler wakes next, in milliseconds of the run. -/
  deadline : Nat
  /-- How many snapshots it has taken. -/
  taken : Nat
  period_pos : 0 < periodMs

/-- How time passes. -/
inductive Passage where
  /-- Without a gap: whoever waits wakes at the deadline. -/
  | steady
  /-- At one stroke: whoever waits wakes at the end. -/
  | leap
  deriving DecidableEq, Repr

/-- When somebody wakes whose deadline lies in a time that passes up to `limit`. -/
def Passage.wakeTime (p : Passage) (deadline limit : Nat) : Nat :=
  match p with
  | .steady => deadline
  | .leap => limit

/-- Who goes on first at an instant that both a sampler and whoever is to end it have waited for. -/
inductive Resumption where
  | waiterFirst
  | samplerFirst
  deriving DecidableEq, Repr

/-- Whether a sampler that is polled at `now` has been cancelled by somebody who waits up to `endMs`
and does it then. -/
def Resumption.cancels (order : Resumption) (endMs now : Nat) : Bool :=
  match order with
  | .waiterFirst => endMs ≤ now
  | .samplerFirst => endMs < now

/-- What comes of a poll. -/
inductive Poll where
  | leave
  | wake
  | wait
  deriving DecidableEq, Repr

/-- What a sampler met on waking. -/
inductive Wake where
  | taken
  | failed
  | refused
  deriving DecidableEq, Repr

/-- The course of a sampler. -/
inductive SamplerTask where
  /-- Launched, but not yet given a turn. -/
  | launched (periodMs : Nat)
  | ticking (sampler : Sampler)
  | ended (taken : Nat)
  /-- Given no period to wait for, it could not begin. -/
  | broken

namespace Sampler

/-- The deadline after a wake-up at `now`. -/
def nextDeadline (s : Sampler) (now : Nat) : Nat :=
  if now ≤ s.deadline + latenessTolerance then s.deadline + s.periodMs
  else now + (s.periodMs - (now - s.deadline) % s.periodMs)

/-- The sampler after a wake-up at `now`: it waits for its next deadline. -/
def rearm (s : Sampler) (now : Nat) : Sampler := { s with deadline := s.nextDeadline now }

/-- How a sampler goes on from what it met on waking. -/
def resume (s : Sampler) : Wake → SamplerTask
  | .taken => .ticking { s with taken := s.taken + 1 }
  | .failed => .ticking s
  | .refused => .ended s.taken

/-- Every deadline lies after the one before it. -/
theorem deadline_lt_nextDeadline (s : Sampler) (now : Nat) : s.deadline < s.nextDeadline now := by
  have := s.period_pos
  unfold nextDeadline
  split <;> omega

/-- Take the snapshot that is due. -/
def wake (session : Session) (now : Nat) : Step Session Wake :=
  let step := session.sample now
  match step.answer with
  | .ok () => { answer := .taken, state := step.state, notices := step.notices }
  | .error (.probe fault) =>
    { answer := .failed, state := step.state, notices := step.notices ++ [.periodicFailed fault] }
  | .error (.refused refusal) =>
    { answer := .refused, state := step.state, notices := step.notices ++ [.samplerLeft refusal] }

/-- When the sampler wakes while time passes up to and including `limit`: once for every deadline
that is due. -/
def wakeTimes (s : Sampler) (passage : Passage) (limit : Nat) : List Nat :=
  if s.deadline ≤ limit then
    let now := passage.wakeTime s.deadline limit
    now :: wakeTimes (s.rearm now) passage limit
  else []
termination_by limit + 1 - s.deadline
decreasing_by
  have := s.deadline_lt_nextDeadline (passage.wakeTime s.deadline limit)
  simp only [rearm]
  omega

/-- Poll a sampler: it looks first whether it was cancelled, and only then at its deadline. -/
def poll (s : Sampler) (cancelled : Bool) (now : Nat) : Poll :=
  if cancelled then .leave
  else if s.deadline ≤ now then .wake
  else .wait

private theorem le_of_poll_eq_wake {s : Sampler} {order : Resumption} {endMs now : Nat}
    (h : s.poll (order.cancels endMs now) now = .wake) : now ≤ endMs := by
  cases hc : order.cancels endMs now with
  | true => simp [poll, hc] at h
  | false =>
    cases order with
    | waiterFirst => exact Nat.le_of_lt (Nat.not_le.mp (of_decide_eq_false hc))
    | samplerFirst => exact Nat.not_lt.mp (of_decide_eq_false hc)

/-- When the sampler wakes on a clock without gaps until it is cancelled at `endMs`: it is polled at
its deadlines, and wakes at each unless it finds itself cancelled. -/
def wakeTimesUntil (s : Sampler) (order : Resumption) (endMs : Nat) : List Nat :=
  if s.poll (order.cancels endMs s.deadline) s.deadline = .wake then
    s.deadline :: wakeTimesUntil (s.rearm s.deadline) order endMs
  else []
termination_by endMs + 1 - s.deadline
decreasing_by
  have := s.deadline_lt_nextDeadline s.deadline
  have := le_of_poll_eq_wake ‹_›
  simp only [rearm]
  omega

/-- Wake at each of these times, until the recording is found not started. -/
def attend (s : Sampler) (session : Session) : List Nat → Step Session SamplerTask
  | [] => { answer := .ticking s, state := session }
  | now :: times =>
    let step := wake session now
    match (s.rearm now).resume step.answer with
    | .ticking s =>
      let rest := s.attend step.state times
      { rest with notices := step.notices ++ rest.notices }
    | task => { answer := task, state := step.state, notices := step.notices }

end Sampler

namespace SamplerTask

/-- Give a launched sampler its first turn: it waits one period from now. A period counts as far as
anybody can wait for it. -/
def begin (t : SamplerTask) (now : Nat) : SamplerTask × List Notice :=
  match t with
  | .launched periodMs =>
    if h : 0 < periodMs then
      (.ticking
          { periodMs := waitTime periodMs
            deadline := now + waitTime periodMs
            taken := 0
            period_pos := waitTime_pos.mpr h },
        [.samplerStarted periodMs])
    else (.broken, [])
  | t => (t, [])

/-- When the sampler wakes while time passes up to and including `limit`. -/
def wakeTimes (t : SamplerTask) (passage : Passage) (limit : Nat) : List Nat :=
  match t with
  | .ticking sampler => sampler.wakeTimes passage limit
  | _ => []

/-- When the sampler wakes on a clock without gaps until it is cancelled at `endMs`. -/
def wakeTimesUntil (t : SamplerTask) (order : Resumption) (endMs : Nat) : List Nat :=
  match t with
  | .ticking sampler => sampler.wakeTimesUntil order endMs
  | _ => []

/-- Wake at each of these times. -/
def attend (t : SamplerTask) (session : Session) (times : List Nat) : Step Session SamplerTask :=
  match t with
  | .ticking sampler => sampler.attend session times
  | t => { answer := t, state := session }

/-- Let time pass up to and including `limit`. -/
def pass (t : SamplerTask) (session : Session) (passage : Passage) (limit : Nat) :
    Step Session SamplerTask :=
  t.attend session (t.wakeTimes passage limit)

/-- Cancel a sampler that has begun. -/
def cancel (t : SamplerTask) : SamplerTask × List Notice :=
  match t with
  | .ticking sampler => (.ended sampler.taken, [.samplerCancelled sampler.taken])
  | t => (t, [])

end SamplerTask

end CpuCensus
