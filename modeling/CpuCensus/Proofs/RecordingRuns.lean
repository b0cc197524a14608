import CpuCensus.Proofs.SessionSteps
import Mathlib

/-!
# Runs of a recording

A recording serves requests one after the other; each brings a sensor of its own, so every sequence
of probe answers occurs. `Keeps` ties the three counters and the buffer of a recording to the
snapshots that were captured, and every request preserves it. The main statements say what a
recording holds after any requests, and that a request is carried out once or not at all.
-/

namespace CpuCensus

/-! ### What a recording keeps -/

/-- The events that hold these snapshots, numbered from zero. -/
def numbered (records : List Snapshot) : List Event :=
  records.mapIdx fun i x => { sequence := i, snapshot := x }

@[simp] theorem length_numbered (records : List Snapshot) :
    (numbered records).length = records.length := by
  simp [numbered]

private theorem numbered_concat (records : List Snapshot) (x : Snapshot) :
    numbered (records ++ [x]) =
      numbered records ++ [{ sequence := records.length, snapshot := x }] := by
  simp [numbered, List.mapIdx_append]

theorem mem_of_mem_numbered {records : List Snapshot} {e : Event} (h : e ∈ numbered records) :
    e.snapshot ∈ records := by
  obtain ⟨i, hi, rfl⟩ := List.mem_mapIdx.mp h
  exact List.getElem_mem hi

namespace Recording

/-- The recording has captured these snapshots and keeps the latest of them that fit. -/
structure Keeps (r : Recording) (records : List Snapshot) : Prop where
  capacity_pos : 0 < r.capacity
  nextSequence_eq : r.nextSequence = records.length
  dropped_eq : r.dropped = records.length - r.capacity
  events_eq : r.events = (numbered records).drop (records.length - r.capacity)
  of_idle : r.phase = .idle → records = []

variable {r : Recording} {records : List Snapshot}

theorem keeps_new (id : Nat) (settings : Settings) : (Recording.new id settings).Keeps [] where
  capacity_pos := Nat.lt_of_lt_of_le Nat.one_pos (Nat.le_max_left 1 _)
  nextSequence_eq := rfl
  dropped_eq := (Nat.zero_sub _).symm
  events_eq := by simp [new, Ledger.new, Ledger.events, numbered]
  of_idle := fun _ => rfl

theorem Keeps.length_events (h : r.Keeps records) :
    r.events.length = min records.length r.capacity := by
  rw [h.events_eq, List.length_drop, length_numbered]
  omega

/-- An idle recording has captured nothing, and an opened one has not yet either. -/
theorem Keeps.opened (h : r.Keeps records) (hi : r.phase = .idle) : r.opened.Keeps records := by
  have hr := h.of_idle hi
  subst hr
  exact
    { capacity_pos := h.capacity_pos
      nextSequence_eq := h.nextSequence_eq
      dropped_eq := h.dropped_eq
      events_eq := by simp [numbered]
      of_idle := fun _ => rfl }

theorem Keeps.frozen (h : r.Keeps records) : r.frozen.Keeps records where
  capacity_pos := h.capacity_pos
  nextSequence_eq := h.nextSequence_eq
  dropped_eq := h.dropped_eq
  events_eq := h.events_eq
  of_idle := by simp

/-- A started recording that takes in a snapshot has captured it last. -/
theorem Keeps.taking (h : r.Keeps records) (hs : r.phase = .started) (x : Snapshot) :
    (r.taking x).Keeps (records ++ [x]) where
  capacity_pos := by
    rw [capacity_taking]
    exact h.capacity_pos
  nextSequence_eq := by
    rw [nextSequence_taking x hs, h.nextSequence_eq, List.length_append, List.length_singleton]
  dropped_eq := by
    have hc := h.capacity_pos
    rw [dropped_taking x hs, h.dropped_eq, h.length_events, capacity_taking, List.length_append,
      List.length_singleton]
    split <;> omega
  events_eq := by
    have hc := h.capacity_pos
    rw [events_taking x hs, h.length_events, capacity_taking, numbered_concat, h.events_eq,
      h.nextSequence_eq, List.length_append, List.length_singleton]
    split
    · next hlt =>
      -- Below capacity nothing is dropped, before and after.
      have h0 : records.length - r.capacity = 0 := by omega
      have h1 : records.length + 1 - r.capacity = 0 := by omega
      rw [h0, h1, List.drop_zero, List.drop_zero]
    · next hlt =>
      -- At capacity the drop grows by one and stays within the older events.
      have h1 : records.length + 1 - r.capacity = records.length - r.capacity + 1 := by omega
      rw [h1, List.tail_drop, List.drop_append_of_le_length]
      rw [length_numbered]
      omega
  of_idle := by simp [hs]

end Recording

/-! ### Serving requests -/

/-- What an operation gives back when it is carried out. -/
inductive Reply where
  | done
  | kept (count : Nat)
  | view (events : EventView)
  deriving DecidableEq

namespace Operation

/-- The operation takes a snapshot when it is carried out. -/
def probes : Operation → Bool
  | .start | .sample => true
  | .stop | .read => false

/-- The recording as the operation's snapshot finds it. -/
def ready : Operation → Recording → Recording
  | .start, r => r.opened
  | _, r => r

@[simp] theorem capacity_ready (operation : Operation) (r : Recording) :
    (operation.ready r).capacity = r.capacity := by
  cases operation <;> rfl

@[simp] theorem id_ready (operation : Operation) (r : Recording) :
    (operation.ready r).id = r.id := by
  cases operation <;> rfl

/-- A snapshot is taken of a started recording, which was idle or started before. -/
theorem phase_ready {operation : Operation} {r : Recording} (h : r.phase = operation.needs)
    (hq : operation.probes) :
    (operation.ready r).phase = .started ∧ (r.phase = .idle ∨ r.phase = .started) := by
  cases operation with
  | start => exact ⟨rfl, .inl h⟩
  | sample => exact ⟨h, .inr h⟩
  | stop => cases hq
  | read => cases hq

private theorem keeps_ready {operation : Operation} {r : Recording} {records : List Snapshot}
    (h : r.Keeps records) (hp : r.phase = operation.needs) (hq : operation.probes) :
    (operation.ready r).Keeps records := by
  cases operation with
  | start => exact h.opened hp
  | sample => exact h
  | stop => cases hq
  | read => cases hq

end Operation

namespace Session

/-- Ask an operation of a session. -/
def serve (s : Session) (operation : Operation) (now : Nat) :
    Step Session (Except SessionFault Reply) :=
  match operation with
  | .start =>
    let step := s.start now
    { answer := step.answer.map fun _ => .done, state := step.state, notices := step.notices }
  | .sample =>
    let step := s.sample now
    { answer := step.answer.map fun _ => .done, state := step.state, notices := step.notices }
  | .stop =>
    let step := s.stop
    { answer := (step.answer.map Reply.kept).mapError .refused
      state := step.state
      notices := step.notices }
  | .read => { answer := (s.recording.read.map Reply.view).mapError .refused, state := s }

/-- An operation in its own phase is carried out; in any other it is refused. -/
theorem serve_cases (s : Session) (operation : Operation) (now : Nat) :
    (s.recording.phase ≠ operation.needs ∧
      (s.serve operation now).answer = .error (.refused (s.recording.refuse operation)) ∧
      (s.serve operation now).state = s) ∨
    (s.recording.phase = operation.needs ∧ operation.probes ∧ ∃ x, s.outcome now = .ok x ∧
      (s.serve operation now).answer = .ok .done ∧
      (s.serve operation now).state =
        ⟨(operation.ready s.recording).taking x, s.sensor.asked⟩) ∨
    (s.recording.phase = operation.needs ∧ operation.probes ∧
      ∃ fault, s.outcome now = .error fault ∧
      (s.serve operation now).answer = .error (.probe fault) ∧
      (s.serve operation now).state = ⟨operation.ready s.recording, s.sensor.asked⟩) ∨
    (s.recording.phase = operation.needs ∧ operation = .stop ∧
      (s.serve operation now).answer = .ok (.kept s.recording.size) ∧
      (s.serve operation now).state = { s with recording := s.recording.frozen }) ∨
    (s.recording.phase = operation.needs ∧ operation = .read ∧
      (s.serve operation now).answer =
        .ok (.view { recordingId := s.recording.id, events := s.recording.events }) ∧
      (s.serve operation now).state = s) := by
  cases operation with
  | start =>
    rcases s.start_cases now with ⟨hp, ha, hs⟩ | ⟨hp, x, ho, ha, hs⟩ | ⟨hp, fault, ho, ha, hs⟩
    · exact .inl ⟨hp, by rw [serve, ha]; rfl, hs⟩
    · exact .inr (.inl ⟨hp, rfl, x, ho, by rw [serve, ha]; rfl, hs⟩)
    · exact .inr (.inr (.inl ⟨hp, rfl, fault, ho, by rw [serve, ha]; rfl, hs⟩))
  | sample =>
    rcases s.sample_cases now with ⟨hp, ha, hs⟩ | ⟨hp, x, ho, ha, hs⟩ | ⟨hp, fault, ho, ha, hs⟩
    · exact .inl ⟨hp, by rw [serve, ha]; rfl, hs⟩
    · exact .inr (.inl ⟨hp, rfl, x, ho, by rw [serve, ha]; rfl, hs⟩)
    · exact .inr (.inr (.inl ⟨hp, rfl, fault, ho, by rw [serve, ha]; rfl, hs⟩))
  | stop =>
    rcases s.stop_cases with ⟨hp, ha, hs⟩ | ⟨hp, ha, hs⟩
    · exact .inl ⟨hp, by rw [serve, ha]; rfl, hs⟩
    · exact .inr (.inr (.inr (.inl ⟨hp, rfl, by rw [serve, ha]; rfl, hs⟩)))
  | read =>
    by_cases hp : s.recording.phase = .stopped
    · refine .inr (.inr (.inr (.inr ⟨hp, rfl, ?_, rfl⟩)))
      rw [serve, Recording.read_of_stopped hp]
      rfl
    · refine .inl ⟨hp, ?_, rfl⟩
      rw [serve, Ledger.read_of_not_stopped hp]
      rfl

variable {s : Session} {operation : Operation}

/-- Exactly an operation out of its phase is refused, and the refusal names it and the phase. -/
theorem serve_refused_iff (now : Nat) (refusal : Refusal) :
    (s.serve operation now).answer = .error (.refused refusal) ↔
      s.recording.phase ≠ operation.needs ∧ refusal = s.recording.refuse operation := by
  rcases s.serve_cases operation now with ⟨hp, ha, -⟩ | ⟨hp, -, x, -, ha, -⟩ |
    ⟨hp, -, fault, -, ha, -⟩ | ⟨hp, -, ha, -⟩ | ⟨hp, -, ha, -⟩ <;>
  simp [ha, hp, eq_comm]

/-- An operation out of its phase touches neither the recording nor the sensor. -/
theorem serve_out_of_phase (h : s.recording.phase ≠ operation.needs) (now : Nat) :
    (s.serve operation now).state = s := by
  rcases s.serve_cases operation now with ⟨-, -, hs⟩ | ⟨hp, -⟩ | ⟨hp, -⟩ | ⟨hp, -⟩ | ⟨hp, -⟩
  · exact hs
  all_goals exact absurd hp h

/-- A start or sample in its phase calls the probe once and takes in what it brings. -/
theorem serve_in_phase (h : s.recording.phase = operation.needs) (hq : operation.probes)
    (now : Nat) :
    (s.serve operation now).state.sensor = s.sensor.asked ∧
    (∀ x, s.outcome now = .ok x → (s.serve operation now).answer = .ok .done) ∧
    (∀ fault, s.outcome now = .error fault →
      (s.serve operation now).answer = .error (.probe fault) ∧
      (s.serve operation now).state.recording = operation.ready s.recording) := by
  rcases s.serve_cases operation now with ⟨hp, -⟩ | ⟨-, -, x, ho, ha, hs⟩ |
    ⟨-, -, fault, ho, ha, hs⟩ | ⟨-, rfl, -⟩ | ⟨-, rfl, -⟩
  · exact absurd h hp
  · simp [ho, ha, hs]
  · simp [ho, ha, hs]
  · cases hq
  · cases hq

end Session

/-- An operation that is asked of a recording at some time, with the sensor that it may use. -/
structure Recording.Request where
  operation : Operation
  sensor : Sensor
  now : Nat

/-- A request at its turn: the recording as it was found, with the sensor that the request
brought. -/
structure Served where
  session : Session
  operation : Operation
  now : Nat

namespace Served

/-- What came of the request. -/
def step (t : Served) : Step Session (Except SessionFault Reply) :=
  t.session.serve t.operation t.now

/-- The recording as the request left it. -/
def recording (t : Served) : Recording := t.step.state.recording

/-- The request was not refused. -/
def accepted (t : Served) : Bool :=
  match t.step.answer with
  | .error (.refused _) => false
  | _ => true

/-- The snapshot that the probe brought, if the request was accepted and called it. -/
def captured? (t : Served) : Option Snapshot :=
  if t.accepted && t.operation.probes then (t.session.outcome t.now).toOption else none

/-- How often the request called the probe. -/
def calls (t : Served) : Nat := t.step.state.sensor.calls - t.session.sensor.calls

end Served

namespace Recording

/-- A request that comes to a recording. -/
def meet (r : Recording) (q : Request) : Served :=
  { session := { recording := r, sensor := q.sensor }, operation := q.operation, now := q.now }

/-- The requests of a run, each at its turn. -/
def history (r : Recording) : List Request → List Served
  | [] => []
  | q :: requests => r.meet q :: (r.meet q).recording.history requests

/-- The recording after a run. -/
def after (r : Recording) : List Request → Recording
  | [] => r
  | q :: requests => (r.meet q).recording.after requests

/-- The phases that a recording goes through in a run, from the first to the last. -/
def visited (r : Recording) (requests : List Request) : List Phase :=
  r.phase :: (r.history requests).map fun t => t.recording.phase

end Recording

/-! ### What one request does -/

namespace Served

variable (t : Served)

/-- A request is accepted exactly in the phase that its operation needs. -/
theorem accepted_iff : t.accepted = true ↔ t.session.recording.phase = t.operation.needs := by
  rcases t.session.serve_cases t.operation t.now with ⟨hp, ha, -⟩ | ⟨hp, -, x, -, ha, -⟩ |
    ⟨hp, -, fault, -, ha, -⟩ | ⟨hp, -, ha, -⟩ | ⟨hp, -, ha, -⟩ <;>
  simp [accepted, step, ha, hp]

theorem captured?_of_refused (h : t.session.recording.phase ≠ t.operation.needs) :
    t.captured? = none := by
  have ha : ¬ t.accepted = true := fun ha => h (t.accepted_iff.mp ha)
  simp [captured?, ha]

theorem captured?_of_accepted (h : t.session.recording.phase = t.operation.needs)
    (hp : t.operation.probes) : t.captured? = (t.session.outcome t.now).toOption := by
  simp [captured?, t.accepted_iff.mpr h, hp]

private theorem captured?_of_not_probes (hp : t.operation.probes = false) : t.captured? = none := by
  simp [captured?, hp]

/-- An accepted start or sample calls the probe once, and nothing else calls it. -/
theorem calls_eq : t.calls = if t.accepted && t.operation.probes then 1 else 0 := by
  have hi := t.accepted_iff
  rcases t.session.serve_cases t.operation t.now with ⟨hp, -, hs⟩ | ⟨hp, hq, x, -, -, hs⟩ |
    ⟨hp, hq, fault, -, -, hs⟩ | ⟨-, ho, -, hs⟩ | ⟨-, ho, -, hs⟩
  · simp [calls, step, hs, hi, hp]
  · simp [calls, step, hs, hi, hp, hq, Sensor.asked]
  · simp [calls, step, hs, hi, hp, hq, Sensor.asked]
  · have hq : t.operation.probes = false := by rw [ho]; rfl
    simp [calls, step, hs, hq]
  · have hq : t.operation.probes = false := by rw [ho]; rfl
    simp [calls, step, hs, hq]

/-- No request changes how many events are kept, or under which id. -/
theorem capacity_id_recording :
    t.recording.capacity = t.session.recording.capacity ∧
    t.recording.id = t.session.recording.id := by
  rcases t.session.serve_cases t.operation t.now with ⟨-, -, hs⟩ | ⟨-, -, x, -, -, hs⟩ |
    ⟨-, -, fault, -, -, hs⟩ | ⟨-, -, -, hs⟩ | ⟨-, -, -, hs⟩ <;>
  simp [recording, step, hs]

/-- A request adds the snapshot that it captured to those that the recording keeps track of. -/
theorem keeps_recording {records : List Snapshot} (h : t.session.recording.Keeps records) :
    t.recording.Keeps (records ++ t.captured?.toList) := by
  rcases t.session.serve_cases t.operation t.now with ⟨hp, -, hs⟩ | ⟨hp, hq, x, ho, -, hs⟩ |
    ⟨hp, hq, fault, ho, -, hs⟩ | ⟨-, ho, -, hs⟩ | ⟨-, ho, -, hs⟩
  · rw [t.captured?_of_refused hp, recording, step, hs]
    simpa using h
  · rw [t.captured?_of_accepted hp hq, ho, recording, step, hs]
    exact (Operation.keeps_ready h hp hq).taking (Operation.phase_ready hp hq).1 x
  · rw [t.captured?_of_accepted hp hq, ho, recording, step, hs]
    simpa [Except.toOption] using Operation.keeps_ready h hp hq
  · rw [t.captured?_of_not_probes (by rw [ho]; rfl), recording, step, hs]
    simpa using h.frozen
  · rw [t.captured?_of_not_probes (by rw [ho]; rfl), recording, step, hs]
    simpa using h

/-- A request leaves the phase as it is or leads to the phase after it. -/
theorem phase_recording :
    t.recording.phase = t.session.recording.phase ∨
    (t.session.recording.phase = .idle ∧ t.recording.phase = .started) ∨
    (t.session.recording.phase = .started ∧ t.recording.phase = .stopped) := by
  rcases t.session.serve_cases t.operation t.now with ⟨-, -, hs⟩ | ⟨hp, hq, x, -, -, hs⟩ |
    ⟨hp, hq, fault, -, -, hs⟩ | ⟨hp, ho, -, hs⟩ | ⟨-, -, -, hs⟩
  · exact .inl (by rw [recording, step, hs])
  · obtain ⟨hr, hf⟩ := Operation.phase_ready hp hq
    rw [recording, step, hs, Recording.phase_taking, hr]
    rcases hf with hf | hf <;> simp [hf]
  · obtain ⟨hr, hf⟩ := Operation.phase_ready hp hq
    rw [recording, step, hs, hr]
    rcases hf with hf | hf <;> simp [hf]
  · rw [ho] at hp
    exact .inr (.inr ⟨hp, by rw [recording, step, hs]; rfl⟩)
  · exact .inl (by rw [recording, step, hs])

end Served

/-! ### What a run does -/

namespace Recording

variable (r : Recording) (requests : List Request)

theorem capacity_id_after :
    (r.after requests).capacity = r.capacity ∧ (r.after requests).id = r.id := by
  induction requests generalizing r with
  | nil => exact ⟨rfl, rfl⟩
  | cons q requests ih =>
    obtain ⟨hc, hi⟩ := (r.meet q).capacity_id_recording
    obtain ⟨hc', hi'⟩ := ih (r.meet q).recording
    exact ⟨hc'.trans hc, hi'.trans hi⟩

/-- After a run a recording keeps track of all that the run has captured. -/
theorem keeps_after {records : List Snapshot} (h : r.Keeps records) :
    (r.after requests).Keeps (records ++ (r.history requests).filterMap Served.captured?) := by
  induction requests generalizing r records with
  | nil => simpa [after, history] using h
  | cons q requests ih =>
    have hq := (r.meet q).keeps_recording h
    have hr := ih (r.meet q).recording hq
    rw [after, history, List.filterMap_cons]
    cases hc : (r.meet q).captured? with
    | none => simpa [hc] using hr
    | some x => simpa [hc] using hr

/-- The calls of the probe in a run are those of its accepted starts and samples. -/
theorem calls_history :
    ((r.history requests).map Served.calls).sum =
      (r.history requests).countP fun t => t.accepted && t.operation.probes := by
  induction requests generalizing r with
  | nil => rfl
  | cons q requests ih =>
    rw [history, List.map_cons, List.sum_cons, ih, Served.calls_eq, List.countP_cons, Nat.add_comm]

end Recording

/-- The phases from this one to the last, in order. -/
def Phase.onward : Phase → List Phase
  | .idle => [.idle, .started, .stopped]
  | .started => [.started, .stopped]
  | .stopped => [.stopped]

/-- The phases of a run, each counted once, are the first of those that lie ahead. -/
theorem Recording.visited_in_order (r : Recording) (requests : List Recording.Request) :
    (r.visited requests).destutter (· ≠ ·) <+: r.phase.onward := by
  induction requests generalizing r with
  | nil => cases hp : r.phase <;> simp [visited, history, hp, Phase.onward]
  | cons q requests ih =>
    have hv : r.visited (q :: requests) = r.phase :: (r.meet q).recording.visited requests := rfl
    have hi := ih (r.meet q).recording
    rw [hv, visited, List.destutter_cons_cons]
    rw [visited, List.destutter_cons'] at hi
    have hn : (r.meet q).recording.phase = r.phase ∨
        (r.phase = .idle ∧ (r.meet q).recording.phase = .started) ∨
        (r.phase = .started ∧ (r.meet q).recording.phase = .stopped) := (r.meet q).phase_recording
    rcases hn with he | ⟨hp, hn⟩ | ⟨hp, hn⟩
    · rw [he] at hi ⊢
      simpa using hi
    · rw [hn] at hi ⊢
      rw [hp]
      simpa [Phase.onward] using hi
    · rw [hn] at hi ⊢
      rw [hp]
      simpa [Phase.onward] using hi

/-! ### Main statements -/

namespace Recording

/-- After any requests a fresh recording holds the latest captured snapshots that fit, each with its
place among all that were captured, and has dropped the others. A stop tells how many it holds and
keeps them, and a read shows them once it is stopped. -/
theorem holds_latest_captured (id : Nat) (settings : Settings) (requests : List Request) :
    let r := (Recording.new id settings).after requests
    let records := ((Recording.new id settings).history requests).filterMap Served.captured?
    let kept := min records.length (max 1 settings.effectiveMaxRecords)
    r.events = (numbered records).drop (records.length - kept) ∧
    r.dropped = records.length - kept ∧
    r.size = kept ∧
    r.stop.1 = (if r.phase = .started then .ok kept else .error (r.refuse .stop)) ∧
    r.stop.2.1.events = r.events ∧
    r.read = (if r.phase = .stopped then .ok { recordingId := id, events := r.events }
      else .error (r.refuse .read)) := by
  intro r records kept
  have hk : r.Keeps records := keeps_after _ requests (keeps_new id settings)
  obtain ⟨hc, hi⟩ : r.capacity = max 1 settings.effectiveMaxRecords ∧ r.id = id :=
    capacity_id_after _ requests
  have hd : records.length - r.capacity = records.length - kept := by
    rw [hc]
    omega
  have hn : r.size = kept := by rw [Ledger.size_eq_length_events, hk.length_events, hc]
  refine ⟨hd ▸ hk.events_eq, hd ▸ hk.dropped_eq, hn, ?_, ?_, ?_⟩
  · split
    · next hp => rw [stop_of_started hp, hn]
    · next hp => rw [Ledger.stop_of_not_started hp]
  · by_cases hp : r.phase = .started
    · rw [stop_of_started hp, events_frozen]
    · rw [Ledger.stop_of_not_started hp]
  · split
    · next hp => rw [read_of_stopped hp, view, hi]
    · next hp => rw [Ledger.read_of_not_stopped hp]

/-- Whatever a fresh recording has served before, an operation that comes in another phase than its
own is refused, with both named, and touches neither the recording nor the sensor. A start or sample
in its own phase calls the probe once; a fault of the probe is handed on and nothing is changed, but
that a start has opened the recording. So a run goes through the phases in order, and its calls of
the probe are its accepted starts and samples. -/
theorem refused_or_carried_out_once (id : Nat) (settings : Settings) (requests : List Request) :
    let r := (Recording.new id settings).after requests
    let history := (Recording.new id settings).history requests
    (∀ (sensor : Sensor) (operation : Operation) (now : Nat),
      let s : Session := { recording := r, sensor }
      let step := s.serve operation now
      (∀ refusal, step.answer = .error (.refused refusal) ↔
        r.phase ≠ operation.needs ∧ refusal = { operation, phase := r.phase }) ∧
      (r.phase ≠ operation.needs → step.state = s) ∧
      (r.phase = operation.needs → operation.probes →
        step.state.sensor = { sensor with calls := sensor.calls + 1 } ∧
        (∀ x, s.outcome now = .ok x → step.answer = .ok .done) ∧
        ∀ fault, s.outcome now = .error fault →
          step.answer = .error (.probe fault) ∧
          step.state.recording.toLedger =
            if operation = .start then { r.toLedger with phase := .started } else r.toLedger)) ∧
    ((Recording.new id settings).visited requests).destutter (· ≠ ·) <+:
      [.idle, .started, .stopped] ∧
    (history.map Served.calls).sum = history.countP fun t => t.accepted && t.operation.probes := by
  intro r history
  refine ⟨?_, visited_in_order _ requests, calls_history _ requests⟩
  intro sensor operation now s step
  refine ⟨Session.serve_refused_iff now, fun hp => Session.serve_out_of_phase hp now, ?_⟩
  intro hp hq
  obtain ⟨hs, hok, herror⟩ := Session.serve_in_phase (s := s) hp hq now
  refine ⟨hs, hok, ?_⟩
  intro fault hf
  obtain ⟨ha, hr⟩ := herror fault hf
  refine ⟨ha, (congrArg Recording.toLedger hr).trans ?_⟩
  cases operation with
  | start => exact toLedger_opened hp
  | sample => rfl
  | stop => cases hq
  | read => cases hq

end Recording

end CpuCensus
