import CpuCensus.Session

/-!
# What one operation of a session does

A recording is opened, takes in snapshots and is frozen; each operation of a session is one of these
or nothing. `start_cases`, `sample_cases` and `stop_cases` list what can happen, with the phase that
decides it. Only a start and a sample reach the probe, and only in their own phase.
-/

namespace CpuCensus

/-- The sensor after one more call of its probe. -/
def Sensor.asked (s : Sensor) : Sensor := { s with calls := s.calls + 1 }

namespace Recording

/-- Recordings with the same fields are the same. -/
theorem eq_of_toLedger {r r' : Recording} (h : r.toLedger = r'.toLedger) : r = r' := by
  cases r
  cases h
  rfl

/-- The recording with an empty buffer, ready to take in snapshots. -/
def opened (r : Recording) : Recording where
  toLedger := { r.toLedger with phase := .started, buffer := .empty, frozenEvents := none }
  tied := Ledger.tied_of_started rfl rfl

/-- The recording after it has taken in a snapshot; one that is not started takes in nothing. -/
def taking (r : Recording) (x : Snapshot) : Recording :=
  if h : r.phase = .started then { toLedger := (r.push x).1, tied := r.tied.push h x } else r

/-- The events of the recording under its id. -/
def view (r : Recording) : EventView := { recordingId := r.id, events := r.events }

/-- The recording with its events put beyond change. -/
def frozen (r : Recording) : Recording where
  toLedger := { r.toLedger with phase := .stopped, buffer := .empty, frozenEvents := some r.events }
  tied := Ledger.tied_of_stopped rfl rfl rfl

variable (r : Recording) (x : Snapshot)

@[simp] theorem phase_opened : r.opened.phase = .started := rfl
@[simp] theorem events_opened : r.opened.events = [] := rfl
@[simp] theorem capacity_opened : r.opened.capacity = r.capacity := rfl
@[simp] theorem nextSequence_opened : r.opened.nextSequence = r.nextSequence := rfl
@[simp] theorem dropped_opened : r.opened.dropped = r.dropped := rfl
@[simp] theorem id_opened : r.opened.id = r.id := rfl

@[simp] theorem phase_frozen : r.frozen.phase = .stopped := rfl
@[simp] theorem events_frozen : r.frozen.events = r.events := rfl
@[simp] theorem capacity_frozen : r.frozen.capacity = r.capacity := rfl
@[simp] theorem nextSequence_frozen : r.frozen.nextSequence = r.nextSequence := rfl
@[simp] theorem dropped_frozen : r.frozen.dropped = r.dropped := rfl
@[simp] theorem id_frozen : r.frozen.id = r.id := rfl

/-- To open an idle recording only its phase has to change. -/
theorem toLedger_opened {r : Recording} (h : r.phase = .idle) :
    r.opened.toLedger = { r.toLedger with phase := .started } := by
  have hb : r.buffer = .empty := r.tied.buffer_eq (by simp [h])
  have hf : r.frozenEvents = none := r.tied.frozenEvents_eq (by simp [h])
  simp only [opened, ← hb, ← hf]

/-- What taking in a snapshot leaves as it is. -/
theorem taking_keeps :
    (r.taking x).phase = r.phase ∧ (r.taking x).capacity = r.capacity ∧
    (r.taking x).id = r.id ∧ (r.taking x).name = r.name := by
  unfold taking Ledger.push
  split
  · simp only
    split <;> exact ⟨rfl, rfl, rfl, rfl⟩
  · exact ⟨rfl, rfl, rfl, rfl⟩

@[simp] theorem phase_taking : (r.taking x).phase = r.phase := (r.taking_keeps x).1
@[simp] theorem capacity_taking : (r.taking x).capacity = r.capacity := (r.taking_keeps x).2.1
@[simp] theorem id_taking : (r.taking x).id = r.id := (r.taking_keeps x).2.2.1

section started

variable {r} (h : r.phase = .started)
include h

private theorem toLedger_taking : (r.taking x).toLedger = (r.push x).1 := by
  rw [taking, dif_pos h]

/-- The events of a started recording are those in its buffer. -/
theorem events_eq_buffer : r.events = r.buffer.toList := by
  rw [Ledger.events, r.tied.frozenEvents_eq (by simp [h]), Option.getD_none]

private theorem size_eq_buffer : r.size = r.buffer.size := by
  rw [Ledger.size_eq_length_events, events_eq_buffer h, Queue.size_eq_length]

/-- A snapshot gets the next sequence and comes last; a full buffer loses its oldest event. -/
theorem events_taking :
    (r.taking x).events =
      (if r.events.length < r.capacity then r.events else r.events.tail) ++
        [{ sequence := r.nextSequence, snapshot := x }] := by
  have hs : (r.taking x).phase = .started := by rw [phase_taking, h]
  rw [events_eq_buffer hs, events_eq_buffer h, toLedger_taking x h]
  simp only [Ledger.push, Queue.size_eq_length]
  split <;> simp

theorem nextSequence_taking : (r.taking x).nextSequence = r.nextSequence + 1 := by
  rw [toLedger_taking x h, Ledger.push]
  split <;> rfl

theorem dropped_taking :
    (r.taking x).dropped = r.dropped + if r.events.length < r.capacity then 0 else 1 := by
  rw [toLedger_taking x h, events_eq_buffer h, Ledger.push, Queue.size_eq_length]
  split <;> rfl

/-- A started recording is frozen by a stop, which tells its size. -/
theorem stop_of_started :
    r.stop = (.ok r.size, r.frozen.toLedger, [.recordingStopped r.size r.dropped]) := by
  rw [Ledger.stop, if_pos h, size_eq_buffer h]
  simp only [frozen, events_eq_buffer h]

end started

variable {r}

/-- A start of an idle recording opens it, captures a snapshot and tells that first. -/
theorem start_of_idle (h : r.phase = .idle) (sensor : Sensor) (now : Nat) :
    r.start sensor now =
      { r.opened.capture sensor now with
        notices := .recordingStarted r.name :: (r.opened.capture sensor now).notices } := by
  rw [Ledger.start, if_pos h, toLedger_opened h]

/-- A read shows the events of a stopped recording. -/
theorem read_of_stopped (h : r.phase = .stopped) : r.read = .ok r.view := by
  obtain ⟨kept, hk⟩ := Option.isSome_iff_exists.mp (r.tied.frozen_iff.mpr h)
  rw [Ledger.read, hk, view, Ledger.events, hk]
  exact if_pos h

end Recording

namespace Session

/-- What the probe answers if it is called now. -/
def outcome (s : Session) (now : Nat) : Except ProbeFault Snapshot :=
  (s.sensor.probe.respond s.sensor.calls now).outcome

/-- A started recording takes in the snapshot that the probe brings; a fault leaves it as it is. -/
private theorem capture_cases (r : Recording) (hr : r.phase = .started) (sensor : Sensor)
    (now : Nat) :
    (∃ x, (sensor.probe.respond sensor.calls now).outcome = .ok x ∧
      (r.capture sensor now).answer = .ok () ∧
      (r.capture sensor now).state = ((r.taking x).toLedger, sensor.asked)) ∨
    (∃ fault, (sensor.probe.respond sensor.calls now).outcome = .error fault ∧
      (r.capture sensor now).answer = .error (.probe fault) ∧
      (r.capture sensor now).state = (r.toLedger, sensor.asked)) := by
  cases ho : (sensor.probe.respond sensor.calls now).outcome with
  | ok x =>
    refine .inl ⟨x, rfl, ?_⟩
    rw [Recording.toLedger_taking x hr]
    simp only [Ledger.capture, Sensor.ask, ho, Sensor.asked, and_self]
  | error fault =>
    refine .inr ⟨fault, rfl, ?_⟩
    simp only [Ledger.capture, Sensor.ask, ho, Sensor.asked, and_self]

/-- A step of the ledger is a step of the session whose recording has the fields it leads to. -/
theorem state_ofStep {α : Type} {step : Step (Ledger × Sensor) α} {tied : step.state.1.Tied}
    {r : Recording} {sensor : Sensor} (h : step.state = (r.toLedger, sensor)) :
    (ofStep step tied).state = ⟨r, sensor⟩ := by
  have hr : (ofStep step tied).state.recording = r :=
    Recording.eq_of_toLedger (congrArg Prod.fst h)
  have hs : (ofStep step tied).state.sensor = sensor := congrArg Prod.snd h
  rw [← hr, ← hs]

/-- A start opens an idle recording, whatever the probe answers; any other recording refuses it. -/
theorem start_cases (s : Session) (now : Nat) :
    (s.recording.phase ≠ .idle ∧
      (s.start now).answer = .error (.refused (s.recording.refuse .start)) ∧
      (s.start now).state = s) ∨
    (s.recording.phase = .idle ∧ ∃ x, s.outcome now = .ok x ∧ (s.start now).answer = .ok () ∧
      (s.start now).state = ⟨s.recording.opened.taking x, s.sensor.asked⟩) ∨
    (s.recording.phase = .idle ∧ ∃ fault, s.outcome now = .error fault ∧
      (s.start now).answer = .error (.probe fault) ∧
      (s.start now).state = ⟨s.recording.opened, s.sensor.asked⟩) := by
  by_cases h : s.recording.phase = .idle
  · have hs := Recording.start_of_idle h s.sensor now
    rcases capture_cases s.recording.opened rfl s.sensor now with ⟨x, ho, ha, hc⟩ |
      ⟨fault, ho, ha, hc⟩
    · refine .inr (.inl ⟨h, x, ho, ?_, state_ofStep ?_⟩)
      · exact (congrArg Step.answer hs).trans ha
      · rw [hs, hc]
    · refine .inr (.inr ⟨h, fault, ho, ?_, state_ofStep ?_⟩)
      · exact (congrArg Step.answer hs).trans ha
      · rw [hs, hc]
  · have hs := Ledger.start_of_not_idle s.sensor now h
    refine .inl ⟨h, ?_, state_ofStep ?_⟩
    · exact congrArg Step.answer hs
    · rw [hs]

/-- An idle recording is started by a start, and the first snapshot counts if there is one. -/
theorem start_of_idle {s : Session} (h : s.recording.phase = .idle) (now : Nat) :
    (s.start now).state.recording.phase = .started ∧
    (s.start now).state.recording.nextSequence =
      s.recording.nextSequence + (s.start now).answer.isOk.toNat := by
  rcases s.start_cases now with ⟨hp, -⟩ | ⟨-, x, -, ha, hs⟩ | ⟨-, fault, -, ha, hs⟩
  · exact absurd h hp
  · rw [ha, hs]
    refine ⟨by simp, ?_⟩
    rw [Recording.nextSequence_taking x s.recording.phase_opened]
    rfl
  · rw [ha, hs]
    exact ⟨rfl, rfl⟩

/-- A sample goes into a started recording if the probe brings one; any other recording refuses. -/
theorem sample_cases (s : Session) (now : Nat) :
    (s.recording.phase ≠ .started ∧
      (s.sample now).answer = .error (.refused (s.recording.refuse .sample)) ∧
      (s.sample now).state = s) ∨
    (s.recording.phase = .started ∧ ∃ x, s.outcome now = .ok x ∧ (s.sample now).answer = .ok () ∧
      (s.sample now).state = ⟨s.recording.taking x, s.sensor.asked⟩) ∨
    (s.recording.phase = .started ∧ ∃ fault, s.outcome now = .error fault ∧
      (s.sample now).answer = .error (.probe fault) ∧
      (s.sample now).state = ⟨s.recording, s.sensor.asked⟩) := by
  by_cases h : s.recording.phase = .started
  · have hs := Ledger.sample_of_started s.sensor now h
    rcases capture_cases s.recording h s.sensor now with ⟨x, ho, ha, hc⟩ | ⟨fault, ho, ha, hc⟩
    · refine .inr (.inl ⟨h, x, ho, ?_, state_ofStep ?_⟩)
      · exact (congrArg Step.answer hs).trans ha
      · rw [hs, hc]
    · refine .inr (.inr ⟨h, fault, ho, ?_, state_ofStep ?_⟩)
      · exact (congrArg Step.answer hs).trans ha
      · rw [hs, hc]
  · have hs := Ledger.sample_of_not_started s.sensor now h
    refine .inl ⟨h, ?_, state_ofStep ?_⟩
    · exact congrArg Step.answer hs
    · rw [hs]

/-- A session stops as its ledger does. -/
private theorem stop_eq {s : Session} {answer : Except Refusal Nat} {r : Recording}
    {notices : List Notice} (h : s.recording.stop = (answer, r.toLedger, notices)) :
    s.stop = { answer, state := { s with recording := r }, notices } := by
  have hr : s.stop.state.recording = r := Recording.eq_of_toLedger (congrArg (·.2.1) h)
  have hs : s.stop =
      { answer := s.recording.stop.1
        state := { s with recording := s.stop.state.recording }
        notices := s.recording.stop.2.2 } := rfl
  rw [hs, hr, h]

theorem stop_of_started {s : Session} (h : s.recording.phase = .started) :
    s.stop =
      { answer := .ok s.recording.size
        state := { s with recording := s.recording.frozen }
        notices := [.recordingStopped s.recording.size s.recording.dropped] } :=
  stop_eq (Recording.stop_of_started h)

theorem stop_of_not_started {s : Session} (h : s.recording.phase ≠ .started) :
    s.stop = { answer := .error (s.recording.refuse .stop), state := s } :=
  stop_eq (Ledger.stop_of_not_started h)

/-- A stop freezes a started recording and tells its size; any other recording refuses it. -/
theorem stop_cases (s : Session) :
    (s.recording.phase ≠ .started ∧ s.stop.answer = .error (s.recording.refuse .stop) ∧
      s.stop.state = s) ∨
    (s.recording.phase = .started ∧ s.stop.answer = .ok s.recording.size ∧
      s.stop.state = { s with recording := s.recording.frozen }) := by
  by_cases h : s.recording.phase = .started
  · exact .inr ⟨h, by rw [stop_of_started h], by rw [stop_of_started h]⟩
  · exact .inl ⟨h, by rw [stop_of_not_started h], by rw [stop_of_not_started h]⟩

/-- Closing a session stops it. -/
theorem close_state (s : Session) : s.close.state = s.stop.state := by
  unfold close
  simp only
  split <;> rfl

/-- Closing a started session freezes its recording and shows the events. -/
theorem close_of_started {s : Session} (h : s.recording.phase = .started) :
    s.close.answer = .ok { recordingId := s.recording.id, events := s.recording.events } ∧
    s.close.state = { s with recording := s.recording.frozen } := by
  rw [close, stop_of_started h]
  exact ⟨Recording.read_of_stopped (Recording.phase_frozen _), rfl⟩

/-- A session that is not started refuses to be closed. -/
theorem close_of_not_started {s : Session} (h : s.recording.phase ≠ .started) :
    s.close.answer = .error (s.recording.refuse .stop) ∧ s.close.state = s := by
  rw [close, stop_of_not_started h]
  exact ⟨rfl, rfl⟩

/-- Closing a session touches neither its sensor nor its events, and leads to no idle phase. -/
theorem close_keeps (s : Session) :
    s.close.state.sensor = s.sensor ∧ s.close.state.recording.events = s.recording.events ∧
    (s.recording.phase ≠ .idle → s.close.state.recording.phase ≠ .idle) := by
  by_cases h : s.recording.phase = .started
  · rw [(close_of_started h).2]
    exact ⟨rfl, rfl, fun _ => nofun⟩
  · rw [(close_of_not_started h).2]
    exact ⟨rfl, rfl, id⟩

end Session

end CpuCensus
