import CpuCensus.Sampler

/-!
# Recorders

A recorder drives one session. With a period set it launches a sampler on start, and it cancels the
sampler before it stops the recording, so that nothing is captured afterwards.
-/

namespace CpuCensus

/-- A session, with the sampler that was launched for it. -/
structure Recorder where
  session : Session
  periodMs : Option Nat
  sampler : Option SamplerTask

namespace Recorder

/-- An idle recorder. -/
def new (id : Nat) (settings : Settings) (sensor : Sensor) : Recorder where
  session := { recording := Recording.new id settings, sensor }
  periodMs := settings.periodMs
  sampler := none

/-- The phase of the recording. -/
def phase (r : Recorder) : Phase := r.session.recording.phase

/-- Start the recording and launch the sampler, also when the first snapshot fails. Only a refused
start launches none. -/
def start (r : Recorder) (now : Nat) : Step Recorder (Except SessionFault Unit) :=
  let step := r.session.start now
  let started (initialSnapshot : Bool) : Step Recorder (Except SessionFault Unit) :=
    { answer := step.answer
      state := { r with
        session := step.state
        sampler := (r.periodMs.map SamplerTask.launched).or r.sampler }
      notices := step.notices ++
        [.recorderStarted r.session.recording.name r.periodMs initialSnapshot] }
  match step.answer with
  | .ok () => started true
  | .error (.probe _) => started false
  | .error (.refused _) =>
    { answer := step.answer, state := { r with session := step.state }, notices := step.notices }

/-- Give a launched sampler its first turn. -/
def settle (r : Recorder) (now : Nat) : Recorder × List Notice :=
  match r.sampler with
  | some task =>
    let (task, notices) := task.begin now
    ({ r with sampler := some task }, notices)
  | none => (r, [])

/-- Let the sampler wake at each of these times. -/
def attend (r : Recorder) (times : List Nat) : Recorder × List Notice :=
  match r.sampler with
  | some task =>
    let step := task.attend r.session times
    ({ r with session := step.state, sampler := some step.answer }, step.notices)
  | none => (r, [])

/-- Let time pass up to and including `limit`. -/
def pass (r : Recorder) (passage : Passage) (limit : Nat) : Recorder × List Notice :=
  match r.sampler with
  | some task => r.attend (task.wakeTimes passage limit)
  | none => (r, [])

/-- Cancel the sampler and wait for its end. -/
def endSampler (r : Recorder) (now : Nat) : Recorder × List Notice :=
  match r.sampler with
  | some task =>
    let (task, begun) := task.begin now
    let (task, cancelled) := task.cancel
    let broken := match task with
      | .broken => [.samplerBroken]
      | _ => []
    ({ r with sampler := none }, begun ++ cancelled ++ broken)
  | none => (r, [])

/-- Read the events of a stopped recording. -/
def read (r : Recorder) : Except Refusal EventView := r.session.recording.read

/-- End the sampler, stop the recording and read its events. -/
def stop (r : Recorder) (now : Nat) : Step Recorder (Except Refusal EventView) :=
  let (r, ended) := r.endSampler now
  let step := r.session.close
  { answer := step.answer
    state := { r with session := step.state }
    notices := ended ++ step.notices }

end Recorder

end CpuCensus
