import CpuCensus.Recording

/-!
# Sessions

A session is a recording together with the sensor that feeds it. A refused operation neither calls
the probe nor changes the recording; an accepted start or sample calls the probe once.
-/

namespace CpuCensus

/-- A recording and the sensor that feeds it. -/
structure Session where
  recording : Recording
  sensor : Sensor

namespace Session

/-- The step of a session whose ledger and sensor took this step. -/
def ofStep {α : Type} (step : Step (Ledger × Sensor) α) (tied : step.state.1.Tied) :
    Step Session α where
  answer := step.answer
  state := { recording := ⟨step.state.1, tied⟩, sensor := step.state.2 }
  notices := step.notices

/-- Start an idle recording and take the first snapshot. -/
def start (s : Session) (now : Nat) : Step Session (Except SessionFault Unit) :=
  ofStep (s.recording.toLedger.start s.sensor now) (s.recording.tied.start s.sensor now)

/-- Take one more snapshot. -/
def sample (s : Session) (now : Nat) : Step Session (Except SessionFault Unit) :=
  ofStep (s.recording.toLedger.sample s.sensor now) (s.recording.tied.sample s.sensor now)

/-- Stop the recording. -/
def stop (s : Session) : Step Session (Except Refusal Nat) where
  answer := s.recording.stop.1
  state := { s with recording := ⟨s.recording.stop.2.1, s.recording.tied.stop⟩ }
  notices := s.recording.stop.2.2

/-- Stop the recording and read its events before anybody else can reach it. -/
def close (s : Session) : Step Session (Except Refusal EventView) :=
  let step := s.stop
  match step.answer with
  | .error refusal => { answer := .error refusal, state := step.state, notices := step.notices }
  | .ok count =>
    { answer := step.state.recording.read
      state := step.state
      notices := step.notices ++ [.recorderStopped count step.state.recording.dropped] }

end Session

end CpuCensus
