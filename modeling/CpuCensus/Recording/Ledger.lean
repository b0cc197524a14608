import CpuCensus.Probe.Sensor
import CpuCensus.Recording.Event
import CpuCensus.Recording.Queue
import CpuCensus.Recording.Step
import CpuCensus.Settings

/-!
# Ledgers

The fields of a recording, and what its operations do with them. Every operation looks at the phase
first and is refused in any phase but its own; it changes the phase, the buffer and the frozen
events one by one. Nothing in the type keeps these three in step. `Tied` says how they belong
together, and each operation keeps it, whether it is carried out or refused.
-/

namespace CpuCensus

/-- The fields of a recording. -/
structure Ledger where
  id : Nat
  name : String
  phase : Phase
  /-- How many events are kept. -/
  capacity : Nat
  /-- The sequence of the next event. -/
  nextSequence : Nat
  /-- How many events have been dropped to make room. -/
  dropped : Nat
  /-- The events that were captured and not dropped, as long as they are not frozen. -/
  buffer : Queue Event
  /-- The events that a stop has put beyond change. -/
  frozenEvents : Option (List Event)

namespace Ledger

/-- An idle recording; it keeps at least one event whatever the settings say. -/
def new (id : Nat) (settings : Settings) : Ledger where
  id
  name := settings.effectiveName
  phase := .idle
  capacity := max 1 settings.effectiveMaxRecords
  nextSequence := 0
  dropped := 0
  buffer := .empty
  frozenEvents := none

/-- The events that are held, oldest first. -/
def events (l : Ledger) : List Event := l.frozenEvents.getD l.buffer.toList

/-- How many events are held. -/
def size (l : Ledger) : Nat :=
  match l.frozenEvents with
  | some events => events.length
  | none => l.buffer.size

/-- Refuse an operation. -/
def refuse (l : Ledger) (operation : Operation) : Refusal := { operation, phase := l.phase }

/-- Add a snapshot to the buffer; a full buffer loses its oldest event, which is told the first
time. -/
def push (l : Ledger) (snapshot : Snapshot) : Ledger × List Notice :=
  let event : Event := { sequence := l.nextSequence, snapshot }
  if l.buffer.size < l.capacity then
    ({ l with buffer := l.buffer.push event, nextSequence := l.nextSequence + 1 }, [])
  else
    ({ l with
        buffer := l.buffer.pop.push event
        nextSequence := l.nextSequence + 1
        dropped := l.dropped + 1 },
      if l.dropped = 0 then [.bufferFull l.capacity] else [])

/-- Call the probe and record what it brings; a fault is told and changes nothing. -/
def capture (l : Ledger) (sensor : Sensor) (now : Nat) :
    Step (Ledger × Sensor) (Except SessionFault Unit) :=
  let (reading, sensor) := sensor.ask now
  match reading.outcome with
  | .ok snapshot =>
    let (l, notices) := l.push snapshot
    { answer := .ok (), state := (l, sensor), notices := reading.notices ++ notices }
  | .error fault =>
    { answer := .error (.probe fault)
      state := (l, sensor)
      notices := reading.notices ++ [.snapshotFailed fault] }

/-- Start an idle recording and take the first snapshot. The recording is started even if the
snapshot fails. -/
def start (l : Ledger) (sensor : Sensor) (now : Nat) :
    Step (Ledger × Sensor) (Except SessionFault Unit) :=
  if l.phase = .idle then
    let step := ({ l with phase := .started } : Ledger).capture sensor now
    { step with notices := .recordingStarted l.name :: step.notices }
  else { answer := .error (.refused (l.refuse .start)), state := (l, sensor) }

/-- Take one more snapshot. -/
def sample (l : Ledger) (sensor : Sensor) (now : Nat) :
    Step (Ledger × Sensor) (Except SessionFault Unit) :=
  if l.phase = .started then l.capture sensor now
  else { answer := .error (.refused (l.refuse .sample)), state := (l, sensor) }

/-- Stop a started recording: its buffer is emptied and what it held is frozen. The answer is how
many events these are. -/
def stop (l : Ledger) : Except Refusal Nat × Ledger × List Notice :=
  if l.phase = .started then
    (.ok l.buffer.size,
      { l with phase := .stopped, buffer := .empty, frozenEvents := some l.buffer.toList },
      [.recordingStopped l.buffer.size l.dropped])
  else (.error (l.refuse .stop), l, [])

/-- Read the frozen events of a stopped recording. -/
def read (l : Ledger) : Except Refusal EventView :=
  match l.frozenEvents with
  | some events =>
    if l.phase = .stopped then .ok { recordingId := l.id, events } else .error (l.refuse .read)
  | none => .error (l.refuse .read)

/-- The size is the number of events in view. -/
@[simp] theorem size_eq_length_events (l : Ledger) : l.size = l.events.length := by
  unfold size events
  split <;> simp [*]

/-! ### Operations in and out of their phase -/

section phase

variable {l : Ledger} (sensor : Sensor) (now : Nat)

/-- What is not idle refuses a start. -/
theorem start_of_not_idle (h : l.phase ≠ .idle) :
    l.start sensor now =
      { answer := .error (.refused (l.refuse .start)), state := (l, sensor) } := if_neg h

theorem sample_of_started (h : l.phase = .started) :
    l.sample sensor now = l.capture sensor now := if_pos h

/-- What is not started refuses a sample. -/
theorem sample_of_not_started (h : l.phase ≠ .started) :
    l.sample sensor now =
      { answer := .error (.refused (l.refuse .sample)), state := (l, sensor) } := if_neg h

/-- What is not started refuses a stop. -/
theorem stop_of_not_started (h : l.phase ≠ .started) :
    l.stop = (.error (l.refuse .stop), l, []) := if_neg h

/-- What is not stopped refuses a read, whatever is frozen. -/
theorem read_of_not_stopped (h : l.phase ≠ .stopped) : l.read = .error (l.refuse .read) := by
  unfold read
  split
  · rw [if_neg h]
  · rfl

end phase

/-! ### The tie between phase, buffer and frozen events -/

/-- Events are frozen exactly once the recording is stopped, and only a started recording has
events in its buffer. -/
structure Tied (l : Ledger) : Prop where
  frozen_iff : l.frozenEvents.isSome = true ↔ l.phase = .stopped
  buffer_eq : l.phase ≠ .started → l.buffer = .empty

theorem tied_new (id : Nat) (settings : Settings) : (new id settings).Tied where
  frozen_iff := by simp [new]
  buffer_eq := fun _ => rfl

variable {l : Ledger}

theorem Tied.frozenEvents_eq (h : l.Tied) (hp : l.phase ≠ .stopped) : l.frozenEvents = none := by
  rw [← Option.not_isSome_iff_eq_none, h.frozen_iff]
  exact hp

theorem tied_of_started (hp : l.phase = .started) (hf : l.frozenEvents = none) : l.Tied where
  frozen_iff := by simp [hp, hf]
  buffer_eq := fun hn => absurd hp hn

theorem tied_of_stopped {events : List Event} (hp : l.phase = .stopped)
    (hf : l.frozenEvents = some events) (hb : l.buffer = .empty) : l.Tied where
  frozen_iff := by simp [hp, hf]
  buffer_eq := fun _ => hb

/-- A started recording is pushed into without a word about frozen events. -/
theorem Tied.push (h : l.Tied) (hp : l.phase = .started) (x : Snapshot) : (l.push x).1.Tied := by
  have hf := h.frozenEvents_eq (by simp [hp])
  unfold Ledger.push
  split
  · exact tied_of_started hp hf
  · exact tied_of_started hp hf

theorem Tied.capture (h : l.Tied) (hp : l.phase = .started) (sensor : Sensor) (now : Nat) :
    (l.capture sensor now).state.1.Tied := by
  unfold Ledger.capture
  simp only
  split
  · exact h.push hp _
  · exact h

theorem Tied.start (h : l.Tied) (sensor : Sensor) (now : Nat) :
    (l.start sensor now).state.1.Tied := by
  unfold Ledger.start
  split
  · next hp =>
    have hstarted : ({ l with phase := .started } : Ledger).Tied :=
      tied_of_started rfl (h.frozenEvents_eq (by simp [hp]))
    exact hstarted.capture rfl sensor now
  · exact h

theorem Tied.sample (h : l.Tied) (sensor : Sensor) (now : Nat) :
    (l.sample sensor now).state.1.Tied := by
  unfold Ledger.sample
  split
  · next hp => exact h.capture hp sensor now
  · exact h

/-- The buffer is emptied by the same stop that freezes its events and ends the phase. -/
theorem Tied.stop (h : l.Tied) : l.stop.2.1.Tied := by
  unfold Ledger.stop
  split
  · exact tied_of_stopped rfl rfl rfl
  · exact h

end Ledger

end CpuCensus
