import CpuCensus.Proofs.RecordingRuns

/-!
# Notices of a recording

A probe may report something on its own while it is called; all else that a request reports is the
recording's, and `own` singles it out. What the log of a recording holds of one kind is told by the
recording as it stands, so each step is a balance: what the state tells afterwards is what it told
before and what the request has added.
-/

namespace CpuCensus

/-- The probe that gives the same answers and reports nothing on its own. -/
def Probe.silent (p : Probe) : Probe where
  respond call now := { outcome := (p.respond call now).outcome }

namespace Served

/-- The same request, made with a probe that reports nothing on its own. -/
def silent (t : Served) : Served :=
  { t with session := { t.session with
      sensor := { t.session.sensor with probe := t.session.sensor.probe.silent } } }

/-- What the recording reports of the request, without what the probe reports on its own. -/
def own (t : Served) : List Notice := t.silent.step.notices

/-- What the probe reports on its own, if the request calls it. -/
def reports (t : Served) : List Notice :=
  if t.accepted && t.operation.probes then
    (t.session.sensor.probe.respond t.session.sensor.calls t.now).notices
  else []

/-- The fault that the probe answered with, if the request was accepted and called it. -/
def failed? (t : Served) : Option ProbeFault :=
  if t.accepted && t.operation.probes then
    match t.session.outcome t.now with
    | .error fault => some fault
    | .ok _ => none
  else none

end Served

/-! ### What one request reports -/

namespace Recording

variable (r : Recording) (x : Snapshot)

@[simp] theorem name_frozen : r.frozen.name = r.name := rfl

@[simp] theorem name_taking : (r.taking x).name = r.name := (r.taking_keeps x).2.2.2

/-- What is reported when a snapshot is taken in: the first loss of an event. -/
def lossNotice : List Notice :=
  if r.events.length < r.capacity then []
  else if r.dropped = 0 then [.bufferFull r.capacity] else []

private theorem notices_push {r : Recording} (h : r.phase = .started) :
    (r.push x).2 = r.lossNotice := by
  rw [lossNotice, events_eq_buffer h, Ledger.push, Queue.size_eq_length]
  split <;> rfl

end Recording

/-- What is reported before the snapshot of an operation is taken. -/
def Operation.opening (operation : Operation) (r : Recording) : List Notice :=
  if operation = .start then [.recordingStarted r.name] else []

namespace Session

variable {s : Session}

/-- What the probe reports on its own if it is called now. -/
def probeNotices (s : Session) (now : Nat) : List Notice :=
  (s.sensor.probe.respond s.sensor.calls now).notices

/-- What is reported after the snapshot of a request has been asked for. -/
def closing (r : Recording) : Except ProbeFault Snapshot → List Notice
  | .ok _ => r.lossNotice
  | .error fault => [.snapshotFailed fault]

private theorem notices_capture {r : Recording} (h : r.phase = .started) (sensor : Sensor)
    (now : Nat) : (r.capture sensor now).notices =
      (sensor.probe.respond sensor.calls now).notices ++
        closing r (sensor.probe.respond sensor.calls now).outcome := by
  unfold Ledger.capture
  simp only [Sensor.ask]
  split
  · next x ho => rw [ho, closing, Recording.notices_push x h]
  · next fault ho => rw [ho, closing]

/-- A start or sample in its phase reports on the opening, on the probe and on the snapshot. -/
theorem notices_of_probes {operation : Operation} (h : s.recording.phase = operation.needs)
    (hq : operation.probes) (now : Nat) :
    (s.serve operation now).notices =
      operation.opening s.recording ++
        (s.probeNotices now ++ closing (operation.ready s.recording) (s.outcome now)) := by
  cases operation with
  | start =>
    have hs := congrArg Step.notices (Recording.start_of_idle h s.sensor now)
    rw [notices_capture s.recording.phase_opened] at hs
    exact hs
  | sample =>
    have hs := congrArg Step.notices (Ledger.sample_of_started s.sensor now h)
    rw [notices_capture h] at hs
    exact hs
  | stop => cases hq
  | read => cases hq

private theorem notices_stop (h : s.recording.phase = .started) (now : Nat) :
    (s.serve .stop now).notices = [.recordingStopped s.recording.size s.recording.dropped] := by
  simp only [serve, stop, Recording.stop_of_started h]

private theorem notices_of_refused {operation : Operation} (h : s.recording.phase ≠ operation.needs)
    (now : Nat) : (s.serve operation now).notices = [] := by
  cases operation with
  | start => exact congrArg Step.notices (Ledger.start_of_not_idle s.sensor now h)
  | sample => exact congrArg Step.notices (Ledger.sample_of_not_started s.sensor now h)
  | stop => simp only [serve, stop, Ledger.stop_of_not_started h]
  | read => rfl

end Session

namespace Served

variable (t : Served)

private theorem own_of_probes (h : t.session.recording.phase = t.operation.needs)
    (hq : t.operation.probes) :
    t.own = t.operation.opening t.session.recording ++
      Session.closing (t.operation.ready t.session.recording) (t.session.outcome t.now) :=
  Session.notices_of_probes (s := t.silent.session) h hq t.now

/-- What a request reports is what the recording reports, with the probe's own reports put in at one
place. -/
theorem notices_eq_own_with_reports :
    ∃ lead tail, t.own = lead ++ tail ∧ t.step.notices = lead ++ t.reports ++ tail := by
  by_cases h : t.session.recording.phase = t.operation.needs
  · by_cases hq : t.operation.probes = true
    · refine ⟨_, _, t.own_of_probes h hq, ?_⟩
      have hr : t.reports = t.session.probeNotices t.now := by
        simp [reports, t.accepted_iff.mpr h, hq, Session.probeNotices]
      rw [step, Session.notices_of_probes h hq, hr, List.append_assoc]
    · have hr : t.reports = [] := by simp [reports, hq]
      refine ⟨[], t.own, rfl, ?_⟩
      rw [hr, own, step, step]
      cases ho : t.operation with
      | start | sample => simp [ho, Operation.probes] at hq
      | stop | read => simp [silent, ho, Session.serve, Session.stop]
  · have ha : ¬ t.accepted = true := fun ha => h (t.accepted_iff.mp ha)
    refine ⟨[], [], Session.notices_of_refused (s := t.silent.session) h t.now, ?_⟩
    rw [step, Session.notices_of_refused h]
    simp [reports, ha]

/-- What a request reports, together with what it does. -/
theorem own_cases :
    (t.own = [] ∧ t.recording = t.session.recording ∧ t.failed? = none) ∨
    (t.session.recording.phase = t.operation.needs ∧ t.operation.probes ∧
      ∃ x, t.own = t.operation.opening t.session.recording ++
          (t.operation.ready t.session.recording).lossNotice ∧
        t.recording = (t.operation.ready t.session.recording).taking x ∧ t.failed? = none) ∨
    (t.session.recording.phase = t.operation.needs ∧ t.operation.probes ∧
      ∃ fault, t.own = t.operation.opening t.session.recording ++ [.snapshotFailed fault] ∧
        t.recording = t.operation.ready t.session.recording ∧ t.failed? = some fault) ∨
    (t.session.recording.phase = .started ∧
      t.own = [.recordingStopped t.session.recording.size t.session.recording.dropped] ∧
      t.recording = t.session.recording.frozen ∧ t.failed? = none) := by
  have hi := t.accepted_iff
  rcases t.session.serve_cases t.operation t.now with ⟨hp, -, hs⟩ | ⟨hp, hq, x, ho, -, hs⟩ |
    ⟨hp, hq, fault, ho, -, hs⟩ | ⟨hp, ho, -, hs⟩ | ⟨hp, ho, -, hs⟩
  · refine .inl ⟨Session.notices_of_refused (s := t.silent.session) hp t.now, ?_, ?_⟩
    · rw [recording, step, hs]
    · simp [failed?, hi, hp]
  · refine .inr (.inl ⟨hp, hq, x, ?_, ?_, ?_⟩)
    · rw [t.own_of_probes hp hq, ho, Session.closing]
    · rw [recording, step, hs]
    · simp [failed?, ho]
  · refine .inr (.inr (.inl ⟨hp, hq, fault, ?_, ?_, ?_⟩))
    · rw [t.own_of_probes hp hq, ho, Session.closing]
    · rw [recording, step, hs]
    · simp [failed?, hi, hp, hq, ho]
  · rw [ho] at hp
    refine .inr (.inr (.inr ⟨hp, ?_, ?_, ?_⟩))
    · have hown : t.own = (t.silent.session.serve .stop t.now).notices := by
        rw [own, step, ← ho]
        rfl
      rw [hown]
      exact Session.notices_stop (s := t.silent.session) hp t.now
    · rw [recording, step, hs]
    · simp [failed?, ho, Operation.probes]
  · refine .inl ⟨?_, ?_, ?_⟩
    · have hown : t.own = (t.silent.session.serve .read t.now).notices := by
        rw [own, step, ← ho]
        rfl
      rw [hown]
      rfl
    · rw [recording, step, hs]
    · simp [failed?, ho, Operation.probes]

end Served

/-! ### What the state tells of the log -/

namespace Recording

/-- The log's warnings of lost events, as the recording tells them: one, once an event is lost. -/
def lossTold (r : Recording) : List Notice :=
  if 0 < r.dropped then [.bufferFull r.capacity] else []

/-- The log's lines on the turns of phase, as the recording tells them. -/
def turnsTold (r : Recording) : List Notice :=
  match r.phase with
  | .idle => []
  | .started => [.recordingStarted r.name]
  | .stopped => [.recordingStarted r.name, .recordingStopped r.size r.dropped]

end Recording

namespace Notice

/-- The notice warns that events get lost. -/
def isLoss (n : Notice) : Bool := n.message == "Recording buffer full, dropping oldest records"

/-- The notice warns that no snapshot could be taken. -/
def isFailure (n : Notice) : Bool := n.message == "CPU information snapshot failed"

/-- The notice tells that a recording was started or stopped. -/
def isTurn (n : Notice) : Bool :=
  n.message == "Recording started" || n.message == "Recording stopped"

end Notice

@[simp] theorem Operation.name_ready (operation : Operation) (r : Recording) :
    (operation.ready r).name = r.name := by
  cases operation <;> rfl

@[simp] theorem Operation.dropped_ready (operation : Operation) (r : Recording) :
    (operation.ready r).dropped = r.dropped := by
  cases operation <;> rfl

namespace Recording

variable (r : Recording)

/-- The notice of a loss is of one kind. -/
theorem filter_lossNotice (kind : Notice → Bool) :
    r.lossNotice.filter kind = bif kind (.bufferFull r.capacity) then r.lossNotice else [] := by
  unfold lossNotice
  repeat' split
  all_goals cases h : kind (.bufferFull r.capacity) <;> simp [h]

/-- The notice of an opening is of one kind. -/
theorem filter_opening (operation : Operation) (kind : Notice → Bool) :
    (operation.opening r).filter kind =
      bif kind (.recordingStarted r.name) then operation.opening r else [] := by
  unfold Operation.opening
  split <;> cases h : kind (.recordingStarted r.name) <;> simp [h]

private theorem lossTold_frozen : r.frozen.lossTold = r.lossTold := rfl

private theorem lossTold_ready (operation : Operation) :
    (operation.ready r).lossTold = r.lossTold := by
  simp only [lossTold, Operation.dropped_ready, Operation.capacity_ready]

private theorem turnsTold_frozen :
    r.frozen.turnsTold = [.recordingStarted r.name, .recordingStopped r.size r.dropped] := by
  simp only [turnsTold, phase_frozen, name_frozen, dropped_frozen,
    Ledger.size_eq_length_events, events_frozen]

section started

variable {r} (h : r.phase = .started)
include h

/-- The loss of events is told with the first. -/
theorem lossTold_taking (x : Snapshot) : (r.taking x).lossTold = r.lossTold ++ r.lossNotice := by
  rw [lossTold, lossTold, lossNotice, capacity_taking, dropped_taking x h]
  by_cases hroom : r.events.length < r.capacity
  · simp [hroom]
  · by_cases hfirst : r.dropped = 0
    · simp [hroom, hfirst]
    · simp [hroom, hfirst, Nat.pos_of_ne_zero hfirst]

private theorem turnsTold_of_started : r.turnsTold = [.recordingStarted r.name] := by
  simp only [turnsTold, h]

private theorem turnsTold_taking (x : Snapshot) : (r.taking x).turnsTold = r.turnsTold := by
  rw [turnsTold_of_started h, turnsTold_of_started (by rw [phase_taking, h]), name_taking]

end started

/-- The opening of a start or sample tells the turn that it makes, if any. -/
theorem turnsTold_ready {r : Recording} {operation : Operation} (h : r.phase = operation.needs)
    (hq : operation.probes) :
    (operation.ready r).turnsTold = r.turnsTold ++ operation.opening r := by
  cases operation with
  | start =>
    change r.opened.turnsTold = _
    rw [turnsTold_of_started r.phase_opened, turnsTold, h]
    rfl
  | sample =>
    exact (List.append_nil _).symm
  | stop => cases hq
  | read => cases hq

end Recording

namespace Served

variable (t : Served)

private theorem name_recording : t.recording.name = t.session.recording.name := by
  rcases t.own_cases with ⟨-, hr, -⟩ | ⟨-, -, x, -, hr, -⟩ | ⟨-, -, fault, -, hr, -⟩ |
    ⟨-, -, hr, -⟩ <;>
  simp [hr]

private theorem lossTold_recording :
    t.recording.lossTold = t.session.recording.lossTold ++ t.own.filter Notice.isLoss := by
  rcases t.own_cases with ⟨ho, hr, -⟩ | ⟨hp, hq, x, ho, hr, -⟩ | ⟨-, -, fault, ho, hr, -⟩ |
    ⟨-, ho, hr, -⟩
  · rw [ho, hr, List.filter_nil, List.append_nil]
  · rw [ho, hr, List.filter_append, Recording.filter_opening, Recording.filter_lossNotice,
      Recording.lossTold_taking (Operation.phase_ready hp hq).1, Recording.lossTold_ready]
    rfl
  · rw [ho, hr, List.filter_append, Recording.filter_opening, Recording.lossTold_ready]
    exact (List.append_nil _).symm
  · rw [ho, hr, Recording.lossTold_frozen]
    exact (List.append_nil _).symm

private theorem filter_isFailure_own :
    t.own.filter Notice.isFailure = t.failed?.toList.map .snapshotFailed := by
  rcases t.own_cases with ⟨ho, -, hf⟩ | ⟨-, -, x, ho, -, hf⟩ | ⟨-, -, fault, ho, -, hf⟩ |
    ⟨-, ho, -, hf⟩
  · rw [ho, hf]
    rfl
  · rw [ho, hf, List.filter_append, Recording.filter_opening, Recording.filter_lossNotice]
    rfl
  · rw [ho, hf, List.filter_append, Recording.filter_opening]
    rfl
  · rw [ho, hf]
    rfl

private theorem turnsTold_recording :
    t.recording.turnsTold = t.session.recording.turnsTold ++ t.own.filter Notice.isTurn := by
  rcases t.own_cases with ⟨ho, hr, -⟩ | ⟨hp, hq, x, ho, hr, -⟩ | ⟨hp, hq, fault, ho, hr, -⟩ |
    ⟨hp, ho, hr, -⟩
  · rw [ho, hr, List.filter_nil, List.append_nil]
  · rw [ho, hr, List.filter_append, Recording.filter_opening, Recording.filter_lossNotice,
      Recording.turnsTold_taking (Operation.phase_ready hp hq).1, Recording.turnsTold_ready hp hq]
    exact congrArg _ (List.append_nil _).symm
  · rw [ho, hr, List.filter_append, Recording.filter_opening, Recording.turnsTold_ready hp hq]
    exact congrArg _ (List.append_nil _).symm
  · rw [ho, hr, Recording.turnsTold_frozen, Recording.turnsTold_of_started hp]
    rfl

/-- The loss of events is reported by the request that makes the first drop. -/
theorem bufferFull_mem_own_iff (capacity : Nat) :
    .bufferFull capacity ∈ t.own ↔
      capacity = t.session.recording.capacity ∧ t.session.recording.dropped = 0 ∧
        0 < t.recording.dropped := by
  have hmem : .bufferFull capacity ∈ t.own ↔ .bufferFull capacity ∈ t.own.filter Notice.isLoss := by
    simp [List.mem_filter, Notice.isLoss, Notice.message]
  have hbalance := t.lossTold_recording
  rw [Recording.lossTold, Recording.lossTold, t.capacity_id_recording.1] at hbalance
  rw [hmem]
  by_cases hfirst : t.session.recording.dropped = 0
  · rw [hfirst, if_neg (Nat.lt_irrefl 0), List.nil_append] at hbalance
    rw [← hbalance, hfirst]
    split
    · next hpos => simp [hpos]
    · next hnone => simp [hnone]
  · -- The warning has been given before, and the recording tells of one at most.
    rw [if_pos (Nat.pos_of_ne_zero hfirst)] at hbalance
    have hnone : t.own.filter Notice.isLoss = [] := by
      split at hbalance
      · simpa using hbalance
      · cases hbalance
    simp [hnone, hfirst]

end Served

/-! ### What the log of a run holds -/

namespace Recording

variable (r : Recording) (requests : List Request)

/-- What the state tells of the log grows along a run as it does with each request. -/
theorem told_after {told : Recording → List Notice} {kind : Notice → Bool}
    (h : ∀ t : Served, told t.recording = told t.session.recording ++ t.own.filter kind) :
    told (r.after requests) =
      told r ++ ((r.history requests).flatMap Served.own).filter kind := by
  induction requests generalizing r with
  | nil => exact (List.append_nil _).symm
  | cons q requests ih =>
    have hq : told (r.meet q).recording = told r ++ (r.meet q).own.filter kind := h (r.meet q)
    rw [after, history, ih, hq, List.flatMap_cons, List.filter_append, List.append_assoc]

private theorem failures_history :
    ((r.history requests).flatMap Served.own).filter Notice.isFailure =
      ((r.history requests).filterMap Served.failed?).map .snapshotFailed := by
  induction requests generalizing r with
  | nil => rfl
  | cons q requests ih =>
    rw [history, List.flatMap_cons, List.filter_append, ih, Served.filter_isFailure_own,
      List.filterMap_cons]
    cases (r.meet q).failed? <;> rfl

private theorem history_capacity {t : Served} (h : t ∈ r.history requests) :
    t.session.recording.capacity = r.capacity := by
  induction requests generalizing r with
  | nil => cases h
  | cons q requests ih =>
    rcases List.mem_cons.mp h with rfl | h
    · rfl
    · exact (ih _ h).trans (r.meet q).capacity_id_recording.1

private theorem name_after : (r.after requests).name = r.name := by
  induction requests generalizing r with
  | nil => rfl
  | cons q requests ih => exact (ih _).trans (r.meet q).name_recording

/-- The log of a recording, apart from what probes report on their own. The loss of events is warned
of once, by the request that makes the first drop and with the capacity, and not at all if nothing
was dropped. Every failed call of a probe is warned of once, with its fault, and nothing else is.
The start and the stop are told once each, in this order and not before they happen, the stop with
the numbers of events that were kept and dropped in the end. -/
theorem logged_in_step_with_state (id : Nat) (settings : Settings) (requests : List Request) :
    let new := Recording.new id settings
    let history := new.history requests
    let log := history.flatMap Served.own
    let r := new.after requests
    let capacity := max 1 settings.effectiveMaxRecords
    (∀ t ∈ history, ∃ lead tail,
      t.own = lead ++ tail ∧ t.step.notices = lead ++ t.reports ++ tail) ∧
    (log.filter fun n => n.message == "Recording buffer full, dropping oldest records") =
      (if 0 < r.dropped then [.bufferFull capacity] else []) ∧
    (∀ t ∈ history, .bufferFull capacity ∈ t.own ↔
      t.session.recording.dropped = 0 ∧ 0 < t.recording.dropped) ∧
    (∀ t ∈ history, (t.own.filter fun n => n.message == "CPU information snapshot failed") =
      t.failed?.toList.map .snapshotFailed) ∧
    (log.filter fun n => n.message == "CPU information snapshot failed") =
      (history.filterMap Served.failed?).map .snapshotFailed ∧
    (log.filter fun n => n.message == "Recording started" || n.message == "Recording stopped") =
      match r.phase with
      | .idle => []
      | .started => [.recordingStarted settings.effectiveName]
      | .stopped =>
        [.recordingStarted settings.effectiveName, .recordingStopped r.size r.dropped] := by
  intro new history log r capacity
  have hcapacity : r.capacity = capacity := (capacity_id_after new requests).1
  have hname : r.name = settings.effectiveName := name_after new requests
  have hloss := told_after new requests Served.lossTold_recording
  have hturns := told_after new requests Served.turnsTold_recording
  refine ⟨fun t _ => t.notices_eq_own_with_reports, ?_, ?_, fun t _ => t.filter_isFailure_own,
    failures_history new requests, ?_⟩
  · rw [← hcapacity]
    exact hloss.symm
  · intro t ht
    have hc : capacity = t.session.recording.capacity := (history_capacity new requests ht).symm
    simp only [t.bufferFull_mem_own_iff, hc, true_and]
  · rw [← hname]
    exact hturns.symm

end Recording

end CpuCensus
