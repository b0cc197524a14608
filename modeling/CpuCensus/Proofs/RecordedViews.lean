import CpuCensus.Proofs.RecordingRuns

/-!
# Views of a stopped recording

The phase, the buffer and the frozen events of a recording are fields of their own, and a ledger may
well be stopped with nothing frozen: it then refuses a read as stopped, and only then
(`Ledger.read_refused_as_stopped_iff`). No run leads there, since every operation, carried out or
refused, keeps the fields tied (`Ledger.Tied.serve`).

A `Stage` holds only what belongs together. The tied ledgers are those that show a stage
(`Ledger.tied_iff_shows`), and every operation answers as it does on the stage and leads to a ledger
that shows the next one (`Ledger.Shows.serve`). On stages the rest is seen at once: the last one
alone can be read, and nothing leads out of it. So all views that the reads of a run bring are the
same, and a view that somebody holds goes on showing what the recording holds.
-/

namespace CpuCensus

/-! ### Stages -/

/-- What a recording holds in each phase. -/
inductive Stage where
  | idle
  | started (buffer : Queue Event)
  | stopped (events : List Event)

namespace Stage

/-- The phase of a recording in this stage. -/
def phase : Stage → Phase
  | idle => .idle
  | started _ => .started
  | stopped _ => .stopped

/-- The buffer of a recording in this stage. -/
def buffer : Stage → Queue Event
  | started buffer => buffer
  | _ => .empty

/-- The frozen events of a recording in this stage. -/
def frozenEvents : Stage → Option (List Event)
  | stopped events => some events
  | _ => none

/-- What comes of a snapshot that is asked for with this buffer. -/
def probed (capacity sequence : Nat) (buffer : Queue Event) :
    Except ProbeFault Snapshot → Except SessionFault Reply × Stage
  | .ok snapshot =>
    let room := if buffer.size < capacity then buffer else buffer.pop
    (.ok .done, .started (room.push { sequence, snapshot }))
  | .error fault => (.error (.probe fault), .started buffer)

/-- The answer of an operation and the stage that it leads to, if the probe answers so. -/
def serve (id capacity sequence : Nat) (outcome : Except ProbeFault Snapshot) :
    Operation → Stage → Except SessionFault Reply × Stage
  | .start, idle => probed capacity sequence .empty outcome
  | .sample, started buffer => probed capacity sequence buffer outcome
  | .stop, started buffer => (.ok (.kept buffer.size), .stopped buffer.toList)
  | .read, stopped events => (.ok (.view { recordingId := id, events }), .stopped events)
  | operation, stage => (.error (.refused { operation, phase := stage.phase }), stage)

variable {id capacity sequence : Nat} {outcome : Except ProbeFault Snapshot}

/-- An operation out of its phase is refused and leaves the stage as it is. -/
theorem serve_out_of_phase {operation : Operation} {stage : Stage}
    (h : stage.phase ≠ operation.needs) :
    serve id capacity sequence outcome operation stage =
      (.error (.refused { operation, phase := stage.phase }), stage) := by
  cases operation <;> cases stage <;> first | rfl | exact absurd rfl h

/-- An operation in its phase finds the stage that goes with it. -/
theorem cases_of_phase_eq_needs {operation : Operation} {stage : Stage}
    (h : stage.phase = operation.needs) :
    (operation = .start ∧ stage = .idle) ∨
    (operation = .sample ∧ ∃ buffer, stage = .started buffer) ∨
    (operation = .stop ∧ ∃ buffer, stage = .started buffer) ∨
    (operation = .read ∧ ∃ events, stage = .stopped events) := by
  cases operation <;> cases stage <;> cases h <;> simp

/-- Nothing leads out of the last stage. -/
theorem serve_stopped (operation : Operation) (events : List Event) :
    (serve id capacity sequence outcome operation (.stopped events)).2 = .stopped events := by
  cases operation <;> rfl

/-- A view is brought in the last stage only, and shows what is frozen. -/
theorem eq_stopped_of_view {operation : Operation} {stage : Stage} {view : EventView}
    (h : (serve id capacity sequence outcome operation stage).1 = .ok (.view view)) :
    stage = .stopped view.events ∧ view.recordingId = id := by
  have hprobed (buffer : Queue Event) :
      (probed capacity sequence buffer outcome).1 ≠ .ok (.view view) := by
    cases outcome <;> simp [probed]
  cases operation <;> cases stage <;> try cases h
  · exact absurd h (hprobed _)
  · exact absurd h (hprobed _)
  · exact ⟨rfl, rfl⟩

end Stage

/-! ### Ledgers that show a stage -/

namespace Ledger

/-- The fields are those of the stage. -/
structure Shows (l : Ledger) (stage : Stage) : Prop where
  phase_eq : l.phase = stage.phase
  buffer_eq : l.buffer = stage.buffer
  frozen_eq : l.frozenEvents = stage.frozenEvents

variable {l : Ledger} {stage : Stage}

theorem Shows.tied (h : l.Shows stage) : l.Tied := by
  obtain ⟨hp, hb, hf⟩ := h
  cases stage with
  | idle => exact { frozen_iff := by simp [hp, hf, Stage.phase, Stage.frozenEvents]
                    buffer_eq := fun _ => hb }
  | started buffer => exact tied_of_started hp hf
  | stopped events => exact tied_of_stopped hp hf hb

/-- The tie holds of exactly those ledgers that show a stage. -/
theorem tied_iff_shows : l.Tied ↔ ∃ stage, l.Shows stage := by
  refine ⟨fun h => ?_, fun ⟨stage, h⟩ => h.tied⟩
  cases hp : l.phase with
  | idle =>
    exact ⟨.idle, hp, h.buffer_eq (by simp [hp]), h.frozenEvents_eq (by simp [hp])⟩
  | started => exact ⟨.started l.buffer, hp, rfl, h.frozenEvents_eq (by simp [hp])⟩
  | stopped =>
    obtain ⟨events, hf⟩ := Option.isSome_iff_exists.mp (h.frozen_iff.mpr hp)
    exact ⟨.stopped events, hp, h.buffer_eq (by simp [hp]), hf⟩

/-! ### What one request does to a ledger -/

/-- Ask an operation of a ledger. -/
def serve (l : Ledger) (q : Recording.Request) :
    Step (Ledger × Sensor) (Except SessionFault Reply) :=
  match q.operation with
  | .start =>
    let step := l.start q.sensor q.now
    { answer := step.answer.map fun _ => .done, state := step.state, notices := step.notices }
  | .sample =>
    let step := l.sample q.sensor q.now
    { answer := step.answer.map fun _ => .done, state := step.state, notices := step.notices }
  | .stop =>
    { answer := (l.stop.1.map Reply.kept).mapError .refused
      state := (l.stop.2.1, q.sensor)
      notices := l.stop.2.2 }
  | .read => { answer := (l.read.map Reply.view).mapError .refused, state := (l, q.sensor) }

/-- Every request keeps the tie, whether it is carried out or refused. -/
theorem Tied.serve (h : l.Tied) (q : Recording.Request) : (l.serve q).state.1.Tied := by
  obtain ⟨operation, sensor, now⟩ := q
  cases operation with
  | start => exact h.start sensor now
  | sample => exact h.sample sensor now
  | stop => exact h.stop
  | read => exact h

/-- An operation out of its phase is refused and leaves the ledger as it is, tied or not. -/
theorem serve_out_of_phase {q : Recording.Request} (h : l.phase ≠ q.operation.needs) :
    (l.serve q).answer = .error (.refused { operation := q.operation, phase := l.phase }) ∧
    (l.serve q).state.1 = l := by
  obtain ⟨operation, sensor, now⟩ := q
  cases operation with
  | start =>
    simp only [serve, start_of_not_idle sensor now h, and_true]
    rfl
  | sample =>
    simp only [serve, sample_of_not_started sensor now h, and_true]
    rfl
  | stop =>
    simp only [serve, stop_of_not_started h, and_true]
    rfl
  | read =>
    simp only [serve, read_of_not_stopped h, and_true]
    rfl

/-- The answer that a request gets from the stage that a ledger shows, and the next stage. -/
def expected (l : Ledger) (q : Recording.Request) (stage : Stage) :
    Except SessionFault Reply × Stage :=
  stage.serve l.id l.capacity l.nextSequence
    (q.sensor.probe.respond q.sensor.calls q.now).outcome q.operation

private theorem Shows.read_eq (h : l.Shows stage) :
    l.read = match stage with
      | .stopped events => .ok { recordingId := l.id, events }
      | stage => .error { operation := .read, phase := stage.phase } := by
  obtain ⟨hp, -, hf⟩ := h
  unfold read refuse
  rw [hf, hp]
  cases stage <;> rfl

theorem Shows.capture {buffer : Queue Event} (h : l.Shows (.started buffer)) (sensor : Sensor)
    (now : Nat) :
    let probed := Stage.probed l.capacity l.nextSequence buffer
      (sensor.probe.respond sensor.calls now).outcome
    ((l.capture sensor now).answer.map fun _ => .done) = probed.1 ∧
    (l.capture sensor now).state.1.Shows probed.2 := by
  obtain ⟨hp, hb, hf⟩ := h
  have hb : l.buffer = buffer := hb
  cases ho : (sensor.probe.respond sensor.calls now).outcome with
  | error fault =>
    simp only [Ledger.capture, Sensor.ask, ho, Stage.probed]
    exact ⟨rfl, hp, hb, hf⟩
  | ok x =>
    simp only [Ledger.capture, Sensor.ask, ho, Stage.probed, push, hb]
    refine ⟨rfl, ?_⟩
    split
    · exact ⟨hp, rfl, hf⟩
    · exact ⟨hp, rfl, hf⟩

/-- An operation answers as it does on the stage and leads to a ledger that shows the next one. -/
theorem Shows.serve (h : l.Shows stage) (q : Recording.Request) :
    (l.serve q).answer = (l.expected q stage).1 ∧
    (l.serve q).state.1.Shows (l.expected q stage).2 := by
  by_cases hq : l.phase = q.operation.needs
  · obtain ⟨operation, sensor, now⟩ := q
    rcases Stage.cases_of_phase_eq_needs (h.phase_eq.symm.trans hq) with ⟨rfl, rfl⟩ |
      ⟨rfl, buffer, rfl⟩ | ⟨rfl, buffer, rfl⟩ | ⟨rfl, events, rfl⟩
    · have hs : l.start sensor now = _ := if_pos hq
      have hopened : ({ l with phase := .started } : Ledger).Shows (.started .empty) :=
        ⟨rfl, h.buffer_eq, h.frozen_eq⟩
      simp only [Ledger.serve, hs]
      exact hopened.capture sensor now
    · simp only [Ledger.serve, sample_of_started sensor now hq]
      exact h.capture sensor now
    · have hs : l.stop = _ := if_pos hq
      have hb : l.buffer = buffer := h.buffer_eq
      simp only [Ledger.serve, hs, hb]
      exact ⟨rfl, rfl, rfl, rfl⟩
    · simp only [Ledger.serve, h.read_eq]
      exact ⟨rfl, h⟩
  · obtain ⟨ha, hs⟩ := serve_out_of_phase hq
    rw [ha, hs, expected, Stage.serve_out_of_phase (h.phase_eq ▸ hq), h.phase_eq]
    exact ⟨rfl, h⟩

private theorem id_capture (l : Ledger) (sensor : Sensor) (now : Nat) :
    (l.capture sensor now).state.1.id = l.id := by
  unfold capture push
  simp only
  split
  · split <;> rfl
  · rfl

/-- No request changes the id of a recording. -/
theorem id_serve (l : Ledger) (q : Recording.Request) : (l.serve q).state.1.id = l.id := by
  by_cases hq : l.phase = q.operation.needs
  · obtain ⟨operation, sensor, now⟩ := q
    cases operation with
    | start =>
      have hs : l.start sensor now = _ := if_pos hq
      simp only [serve, hs]
      exact id_capture _ sensor now
    | sample =>
      simp only [serve, sample_of_started sensor now hq]
      exact id_capture l sensor now
    | stop =>
      have hs : l.stop = _ := if_pos hq
      simp only [serve, hs]
    | read => rfl
  · rw [(serve_out_of_phase hq).2]

/-! ### Runs of a ledger -/

/-- The ledger after a run. -/
def after (l : Ledger) : List Recording.Request → Ledger
  | [] => l
  | q :: requests => (l.serve q).state.1.after requests

/-- What the requests of a run were answered, in order. -/
def answers (l : Ledger) : List Recording.Request → List (Except SessionFault Reply)
  | [] => []
  | q :: requests => (l.serve q).answer :: (l.serve q).state.1.answers requests

variable {requests : List Recording.Request}

private theorem after_append (l : Ledger) (before between : List Recording.Request) :
    l.after (before ++ between) = (l.after before).after between := by
  induction before generalizing l with
  | nil => rfl
  | cons q before ih => exact ih (l.serve q).state.1

private theorem answers_append (l : Ledger) (before between : List Recording.Request) :
    l.answers (before ++ between) = l.answers before ++ (l.after before).answers between := by
  induction before generalizing l with
  | nil => rfl
  | cons q before ih => exact congrArg ((l.serve q).answer :: ·) (ih (l.serve q).state.1)

private theorem id_after (l : Ledger) (requests : List Recording.Request) :
    (l.after requests).id = l.id := by
  induction requests generalizing l with
  | nil => rfl
  | cons q requests ih => exact (ih (l.serve q).state.1).trans (l.id_serve q)

/-- The tie holds throughout every run. -/
theorem Tied.after (h : l.Tied) (requests : List Recording.Request) : (l.after requests).Tied := by
  induction requests generalizing l with
  | nil => exact h
  | cons q requests ih => exact ih (h.serve q)

/-- No request changes a stopped ledger's events. -/
theorem Shows.after_of_stopped {events : List Event} (h : l.Shows (.stopped events))
    (requests : List Recording.Request) : (l.after requests).Shows (.stopped events) := by
  induction requests generalizing l with
  | nil => exact h
  | cons q requests ih =>
    have hq := (h.serve q).2
    rw [expected, Stage.serve_stopped] at hq
    exact ih hq

end Ledger

/-- The views among some answers, in order. -/
def viewsOf (answers : List (Except SessionFault Reply)) : List EventView :=
  answers.filterMap fun
    | .ok (.view view) => some view
    | _ => none

private theorem mem_viewsOf {answers : List (Except SessionFault Reply)} {view : EventView} :
    view ∈ viewsOf answers ↔ .ok (.view view) ∈ answers := by
  rw [viewsOf, List.mem_filterMap]
  constructor
  · rintro ⟨answer, hm, h⟩
    split at h
    · cases h
      exact hm
    · cases h
  · intro h
    exact ⟨_, h, rfl⟩

namespace Ledger

variable {l : Ledger} {requests : List Recording.Request}

/-- Every view that a run has brought shows the ledger as the run leaves it. -/
theorem Tied.shows_of_view (h : l.Tied) {view : EventView}
    (hv : view ∈ viewsOf (l.answers requests)) :
    (l.after requests).Shows (.stopped view.events) ∧ view.recordingId = l.id := by
  rw [mem_viewsOf] at hv
  induction requests generalizing l with
  | nil => cases hv
  | cons q requests ih =>
    obtain ⟨stage, hs⟩ := tied_iff_shows.mp h
    have ha := (hs.serve q).1
    rcases List.mem_cons.mp hv with hv | hv
    · -- The read found the last stage, which is still shown after it and later on.
      obtain ⟨rfl, hid⟩ := Stage.eq_stopped_of_view (ha.symm.trans hv.symm)
      exact ⟨hs.after_of_stopped (q :: requests), hid⟩
    · obtain ⟨hlater, hid⟩ := ih (h.serve q) hv
      exact ⟨hlater, hid.trans (l.id_serve q)⟩

/-! ### Reads -/

theorem Shows.events_eq {events : List Event} (h : l.Shows (.stopped events)) :
    l.events = events := by
  rw [Ledger.events, h.frozen_eq]
  rfl

/-- A read of a tied ledger succeeds exactly if it is stopped, and shows what is frozen. -/
theorem Tied.read_eq_ok_iff (h : l.Tied) {view : EventView} :
    l.read = .ok view ↔ l.Shows (.stopped view.events) ∧ view.recordingId = l.id := by
  constructor
  · intro hr
    obtain ⟨stage, hs⟩ := tied_iff_shows.mp h
    rw [hs.read_eq] at hr
    cases stage with
    | idle => cases hr
    | started buffer => cases hr
    | stopped events =>
      cases hr
      exact ⟨hs, rfl⟩
  · rintro ⟨hs, hid⟩
    rw [hs.read_eq, ← hid]

private theorem Tied.read_isOk_iff (h : l.Tied) :
    (∃ view, l.read = .ok view) ↔ l.phase = .stopped := by
  constructor
  · rintro ⟨view, hr⟩
    exact (h.read_eq_ok_iff.mp hr).1.phase_eq
  · intro hp
    obtain ⟨events, hf⟩ := Option.isSome_iff_exists.mp (h.frozen_iff.mpr hp)
    have hs : l.Shows (.stopped events) := ⟨hp, h.buffer_eq (by simp [hp]), hf⟩
    exact ⟨{ recordingId := l.id, events }, h.read_eq_ok_iff.mpr ⟨hs, rfl⟩⟩

/-- A read of a tied ledger is refused exactly as long as it is not stopped. -/
theorem Tied.read_eq_error_iff (h : l.Tied) {refusal : Refusal} :
    l.read = .error refusal ↔
      l.phase ≠ .stopped ∧ refusal = { operation := .read, phase := l.phase } := by
  obtain ⟨stage, hs⟩ := tied_iff_shows.mp h
  rw [hs.read_eq, hs.phase_eq]
  cases stage <;> simp [Stage.phase, eq_comm]

/-- A read is refused as one of a stopped recording exactly if nothing was frozen by the stop. -/
theorem read_refused_as_stopped_iff (l : Ledger) :
    (∃ refusal, l.read = .error refusal ∧
      refusal.message = "Cannot read a recording that is stopped") ↔
    l.phase = .stopped ∧ l.frozenEvents = none := by
  have hm (phase : Phase) :
      ({ operation := .read, phase } : Refusal).message =
        "Cannot read a recording that is stopped" ↔ phase = .stopped := by
    cases phase <;> decide
  unfold read refuse
  cases l.frozenEvents with
  | none => simp [hm]
  | some events => by_cases hp : l.phase = .stopped <;> simp [hp, hm]

/-- A tied ledger never refuses a read as one of a stopped recording. -/
theorem Tied.message_read_ne (h : l.Tied) {refusal : Refusal} (hr : l.read = .error refusal) :
    refusal.message ≠ "Cannot read a recording that is stopped" := by
  intro hm
  obtain ⟨hp, hf⟩ := l.read_refused_as_stopped_iff.mp ⟨refusal, hr, hm⟩
  have hsome := h.frozen_iff.mpr hp
  rw [hf] at hsome
  cases hsome

/-- What could be read once can be read ever after. -/
theorem Tied.read_after (h : l.Tied) {view : EventView} (hr : l.read = .ok view)
    (requests : List Recording.Request) : (l.after requests).read = .ok view := by
  obtain ⟨hs, hid⟩ := h.read_eq_ok_iff.mp hr
  exact (h.after requests).read_eq_ok_iff.mpr
    ⟨hs.after_of_stopped requests, hid.trans (l.id_after requests).symm⟩

end Ledger

namespace Recording

/-- A recording meets a request as its ledger does. -/
theorem meet_eq_serve (r : Recording) (q : Request) :
    (r.meet q).step.answer = (r.toLedger.serve q).answer ∧
    (r.meet q).recording.toLedger = (r.toLedger.serve q).state.1 := by
  obtain ⟨operation, sensor, now⟩ := q
  cases operation <;> exact ⟨rfl, rfl⟩

/-- A recording runs as its ledger does. -/
theorem run_eq_ledger (r : Recording) (requests : List Request) :
    (r.history requests).map (fun t => t.step.answer) = r.toLedger.answers requests ∧
    (r.after requests).toLedger = r.toLedger.after requests := by
  induction requests generalizing r with
  | nil => exact ⟨rfl, rfl⟩
  | cons q requests ih =>
    obtain ⟨ha, hs⟩ := r.meet_eq_serve q
    obtain ⟨hanswers, hafter⟩ := ih (r.meet q).recording
    rw [hs] at hanswers hafter
    refine ⟨?_, hafter⟩
    rw [history, List.map_cons, ha, hanswers, Ledger.answers]

end Recording

/-! ### Main statement -/

/-- A fresh recording answers and changes as its plain fields do. Whatever it has been asked before,
its phase, buffer and frozen events belong together. So a read succeeds exactly if it is stopped and
is refused otherwise, with the phase it is in, and no refusal of a read ever says it is stopped.
Whatever is asked of it in between, two reads that succeed bring the same view, under the id of the
recording. The views that were held before are still held afterwards, and show what the recording
then holds. -/
theorem Ledger.views_agree (id : Nat) (settings : Settings)
    (before between : List Recording.Request) :
    let new := Ledger.new id settings
    let l := new.after before
    let later := new.after (before ++ between)
    (((Recording.new id settings).history before).map (fun t => t.step.answer) =
        new.answers before ∧
      ((Recording.new id settings).after before).toLedger = l) ∧
    ((l.frozenEvents.isSome = true ↔ l.phase = .stopped) ∧
      (l.phase ≠ .started → l.buffer = .empty)) ∧
    ((∃ view, l.read = .ok view) ↔ l.phase = .stopped) ∧
    (∀ refusal, l.read = .error refusal ↔
      l.phase ≠ .stopped ∧ refusal = { operation := .read, phase := l.phase }) ∧
    (∀ refusal, l.read = .error refusal →
      refusal.message ≠ "Cannot read a recording that is stopped") ∧
    (∀ view view', l.read = .ok view → later.read = .ok view' →
      view.recordingId = view'.recordingId ∧ view.events = view'.events) ∧
    (∀ view, l.read = .ok view → later.read = .ok view) ∧
    viewsOf (new.answers before) <+: viewsOf (new.answers (before ++ between)) ∧
    ∀ view ∈ viewsOf (new.answers (before ++ between)),
      view.recordingId = id ∧ view.events = later.events := by
  intro new l later
  have hnew : new.Tied := tied_new id settings
  have hl : l.Tied := hnew.after before
  have hlater : later = l.after between := new.after_append before between
  have hkeeps : ∀ view, l.read = .ok view → later.read = .ok view := by
    intro view hr
    rw [hlater]
    exact hl.read_after hr between
  refine ⟨(Recording.new id settings).run_eq_ledger before, ⟨hl.frozen_iff, hl.buffer_eq⟩,
    hl.read_isOk_iff, fun refusal => hl.read_eq_error_iff, fun refusal => hl.message_read_ne, ?_,
    hkeeps, ?_, ?_⟩
  · intro view view' hr hr'
    have he : view = view' := Except.ok.inj ((hkeeps view hr).symm.trans hr')
    exact ⟨congrArg _ he, congrArg _ he⟩
  · rw [answers_append, viewsOf, viewsOf, List.filterMap_append]
    exact List.prefix_append _ _
  · intro view hview
    obtain ⟨hs, hid⟩ := hnew.shows_of_view hview
    exact ⟨hid, hs.events_eq.symm⟩

end CpuCensus
