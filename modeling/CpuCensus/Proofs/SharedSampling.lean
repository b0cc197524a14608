import CpuCensus.Proofs.SamplerTurns

/-!
# A sampler among other holders of its recording

A sampler shares its recording with others, who start, sample, stop and read it and tell the sampler
to end, whenever they like. Whoever reaches for the recording holds it until the step is done, so a
run is a list of moments, each of them one step of the sampler or of somebody else.

`Moment.ownTurn` says once what a turn of the sampler does: it is quiet, it handles a tick of a
started recording, or it is the last one. What holds in every run is drawn from that.
-/

namespace CpuCensus

/-! ### Visits of others -/

/-- What somebody else asks of the recording. Without a sensor of their own they use that of the
sampler. -/
structure Visit where
  operation : Operation
  own : Option Sensor
  now : Nat

namespace Session

/-- A visit at its turn. -/
def meet (s : Session) (v : Visit) : Served where
  session := { s with sensor := v.own.getD s.sensor }
  operation := v.operation
  now := v.now

/-- The session after a visit; visitors take the sensor that they brought with them. -/
def afterVisit (s : Session) (v : Visit) : Session where
  recording := (s.meet v).recording
  sensor := if v.own.isSome then s.sensor else (s.meet v).step.state.sensor

end Session

/-! ### Runs -/

namespace Worker

/-- The count that the sampler gives back, once it has ended. -/
def returned? (w : Worker) : Option Nat :=
  match w.task with
  | .ended taken => some taken
  | _ => none

private theorem returned?_eq_some_iff {w : Worker} {taken : Nat} :
    w.returned? = some taken ↔ w.task = .ended taken := by
  unfold returned?
  split <;> simp_all

end Worker

/-- A sampler and the session that it shares: the recording, and the sensor that it calls. -/
structure Shared where
  session : Session
  worker : Worker

/-- A step of the sampler or of somebody else. -/
inductive Happening where
  /-- The sampler has a turn. -/
  | turn (turn : Turn)
  /-- The sampler is told to end. -/
  | tell
  | visit (visit : Visit)

/-- A step that was made, with what it found and what it left. -/
structure Moment where
  before : Shared
  happening : Happening
  after : Shared

namespace Shared

/-- A fresh recording, and a sampler that was launched for it. -/
def new (id : Nat) (settings : Settings) (sensor : Sensor) (periodMs : Nat) : Shared where
  session := { recording := Recording.new id settings, sensor }
  worker := { task := .launched periodMs }

/-- Make a step, if it can be made. -/
def step (s : Shared) : Happening → Option Shared
  | .turn turn =>
    (s.worker.turn s.session turn).map fun next => { session := next.2, worker := next.1 }
  | .tell => some { s with worker := s.worker.cancel }
  | .visit visit => some { s with session := s.session.afterVisit visit }

/-- Make these steps one after the other, if they can be made. -/
def run (s : Shared) : List Happening → Option Shared
  | [] => some s
  | happening :: rest => (s.step happening).bind fun next => next.run rest

/-- These moments, one after the other, lead from one state to the other. -/
inductive Runs : Shared → List Moment → Shared → Prop where
  | nil (s : Shared) : Runs s [] s
  | cons {s next s' : Shared} {happening : Happening} {moments : List Moment} :
      s.step happening = some next → Runs next moments s' →
      Runs s (⟨s, happening, next⟩ :: moments) s'

end Shared

namespace Moment

/-- The sampler had a turn. -/
def own (m : Moment) : Bool :=
  match m.happening with
  | .turn _ => true
  | .tell | .visit _ => false

/-- The sampler handled a tick: it held the recording, to take a snapshot. -/
def handlesTick (m : Moment) : Bool :=
  match m.happening with
  | .turn (.snapshot _) => true
  | _ => false

/-- The sampler saw that it was told to end. -/
def seesEnd (m : Moment) : Bool :=
  match m.happening with
  | .turn .leave => true
  | _ => false

/-- The recording was started. -/
def started (m : Moment) : Bool := m.before.session.recording.phase = .started

/-- The sampler saw that it was told to end, or handled a tick of a recording that was not
started. -/
def exits (m : Moment) : Bool := m.seesEnd || (m.handlesTick && !m.started)

/-- What was asked of the recording. -/
def request? (m : Moment) : Option Served :=
  match m.happening with
  | .turn (.snapshot now) => some { session := m.before.session, operation := .sample, now }
  | .visit visit => some (m.before.session.meet visit)
  | _ => none

/-- The snapshot that was captured, by the sampler or by somebody else. -/
def captured? (m : Moment) : Option Snapshot := m.request?.bind Served.captured?

/-- How often the probe of the sampler was called. -/
def calls (m : Moment) : Nat := m.after.session.sensor.calls - m.before.session.sensor.calls

/-- The moment is a step that can be made. -/
def Real (m : Moment) : Prop := m.before.step m.happening = some m.after

/-- The sampler did not end, and it lives on if it was given a period. -/
structure GoesOn (m : Moment) : Prop where
  not_ended : ∀ taken, m.after.worker.task ≠ .ended taken
  sound : m.before.worker.Sound → m.after.worker.Sound ∧ m.after.worker.live = true

/-- What a turn of the sampler can be. -/
inductive OwnTurn (m : Moment) : Prop where
  /-- It does not reach for the recording. -/
  | quiet (noTick : m.handlesTick = false) (noEnd : m.seesEnd = false)
      (noRequest : m.request? = none)
      (session_eq : m.after.session = m.before.session)
      (taken_eq : m.after.worker.taken = m.before.worker.taken)
      (goesOn : m.GoesOn)
  /-- It handles a tick of a started recording. -/
  | tick (handles : m.handlesTick = true) (noEnd : m.seesEnd = false)
      (phase : m.before.session.recording.phase = .started)
      (phase_after : m.after.session.recording.phase = .started)
      (sensor_eq : m.after.session.sensor = m.before.session.sensor.asked)
      (taken_eq : m.after.worker.taken = m.before.worker.taken + m.captured?.toList.length)
      (keeps : ∀ records, m.before.session.recording.Keeps records →
        m.after.session.recording.Keeps (records ++ m.captured?.toList))
      (goesOn : m.GoesOn)
  /-- It is the last one. -/
  | last (exits : m.exits = true)
      (told : m.seesEnd = true → m.before.worker.cancelled = true)
      (uncaptured : m.captured? = none)
      (session_eq : m.after.session = m.before.session)
      (ended : m.after.worker.task = .ended m.before.worker.taken)

variable {m : Moment}

/-! ### What one moment does -/

/-- A turn of the sampler that was made. -/
theorem turn_of_real {turn : Turn} (h : m.Real) (ht : m.happening = .turn turn) :
    m.before.worker.turn m.before.session turn = some (m.after.worker, m.after.session) := by
  rw [Real, ht] at h
  obtain ⟨⟨worker, session⟩, hturn, he⟩ := Option.map_eq_some_iff.mp h
  rw [hturn, ← he]

private theorem goesOn_of_ticking {sampler : Sampler} (h : m.after.worker.task = .ticking sampler) :
    m.GoesOn where
  not_ended taken he := by cases h.symm.trans he
  sound _ := by
    refine ⟨?_, ?_⟩
    · intro periodMs he
      cases h.symm.trans he
    · rw [Worker.live, h]

/-- A sampler that begins goes on if it was given a period, and breaks otherwise. It has taken
nothing yet. -/
theorem goesOn_of_begin {periodMs now : Nat} (ht : m.before.worker.task = .launched periodMs)
    (h : m.after.worker.task = ((SamplerTask.launched periodMs).begin now).1) :
    m.GoesOn ∧ m.after.worker.taken = 0 := by
  by_cases hp : 0 < periodMs
  · rw [SamplerTask.begin, dif_pos hp] at h
    exact ⟨goesOn_of_ticking h, by rw [Worker.taken, h]⟩
  · rw [SamplerTask.begin, dif_neg hp] at h
    refine ⟨⟨?_, ?_⟩, by rw [Worker.taken, h]⟩
    · intro taken he
      cases h.symm.trans he
    · intro hsound
      exact absurd (hsound periodMs ht) hp

/-- The sampler is refused by a recording that is not started and ends; otherwise it calls its probe
once, counts what it captures and goes on, whether the probe fails or not. -/
theorem ownTurn_of_snapshot {now : Nat} {sampler : Sampler}
    (hh : m.happening = .turn (.snapshot now)) (ht : m.before.worker.task = .ticking sampler)
    (hw : m.after.worker.task = sampler.resume (Sampler.wake m.before.session now).answer)
    (hs : m.after.session = (Sampler.wake m.before.session now).state) : m.OwnTurn := by
  let request : Served := { session := m.before.session, operation := .sample, now }
  have hrequest : m.captured? = request.captured? := by rw [captured?, request?, hh]; rfl
  have hticks : m.handlesTick = true := by rw [handlesTick, hh]
  have hend : m.seesEnd = false := by rw [seesEnd, hh]
  have htaken : m.before.worker.taken = sampler.taken := by rw [Worker.taken, ht]
  have hkeeps records (hk : m.before.session.recording.Keeps records) :
      m.after.session.recording.Keeps (records ++ m.captured?.toList) := by
    rw [hs, Sampler.wake_state, hrequest]
    exact request.keeps_recording hk
  rcases Sampler.wake_cases m.before.session now with ⟨hp, ha, he⟩ | ⟨hp, x, ho, ha, he⟩ |
    ⟨hp, fault, ho, ha, he⟩
  · rw [ha] at hw
    refine .last ?_ ?_ ?_ (hs.trans he) ?_
    · simp [exits, hticks, started, hp]
    · simp [hend]
    · rw [hrequest, request.captured?_of_refused hp]
    · rw [hw, htaken]
      rfl
  · rw [ha] at hw
    have hcaptured := request.captured?_of_accepted hp rfl
    refine .tick hticks hend hp ?_ ?_ ?_ hkeeps (goesOn_of_ticking hw)
    · rw [hs, he, Recording.phase_taking, hp]
    · rw [hs, he]
    · rw [hrequest, hcaptured, ho, htaken, Worker.taken, hw]
      rfl
  · rw [ha] at hw
    have hcaptured := request.captured?_of_accepted hp rfl
    refine .tick hticks hend hp ?_ ?_ ?_ hkeeps (goesOn_of_ticking hw)
    · rw [hs, he, hp]
    · rw [hs, he]
    · rw [hrequest, hcaptured, ho, htaken, Worker.taken, hw]
      rfl

/-- Every turn of the sampler is quiet, handles a tick of a started recording or is the last one. -/
theorem ownTurn (h : m.Real) (ho : m.own = true) : m.OwnTurn := by
  cases hh : m.happening with
  | tell => simp [own, hh] at ho
  | visit visit => simp [own, hh] at ho
  | turn turn =>
    have hturn := turn_of_real h hh
    rcases Worker.turn_cases hturn with ⟨periodMs, now, rfl, ht, hw, hs⟩ |
      ⟨sampler, sampler', hn, ht, ht', hk, -, -, hs⟩ | ⟨sampler, now, rfl, ht, -, hw, hs⟩ |
      ⟨sampler, rfl, ht, -, hc, hw, hs⟩
    · have hbegun : m.after.worker.task = ((SamplerTask.launched periodMs).begin now).1 := by
        rw [hw]
      obtain ⟨hon, hnone⟩ := goesOn_of_begin ht hbegun
      refine .quiet ?_ ?_ ?_ hs ?_ hon
      · rw [handlesTick, hh]
      · rw [seesEnd, hh]
      · rw [request?, hh]
      · rw [hnone, Worker.taken, ht]
    · have htaken : m.after.worker.taken = m.before.worker.taken := by
        rw [Worker.taken, Worker.taken, ht, ht']
        exact hk
      have hquiet (hticks : m.handlesTick = false) (hend : m.seesEnd = false)
          (hrequest : m.request? = none) : m.OwnTurn :=
        .quiet hticks hend hrequest hs htaken (goesOn_of_ticking ht')
      rw [handlesTick, seesEnd, request?, hh] at hquiet
      cases turn with
      | begin now => exact hquiet rfl rfl rfl
      | look => exact hquiet rfl rfl rfl
      | rest => exact hquiet rfl rfl rfl
      | wake now => exact hquiet rfl rfl rfl
      | snapshot now => exact absurd rfl (hn.2 now)
      | leave => exact absurd rfl hn.1
    · exact ownTurn_of_snapshot hh ht (by rw [hw]) hs
    · refine .last ?_ (fun _ => hc) ?_ hs ?_
      · simp [exits, seesEnd, hh]
      · simp [captured?, request?, hh]
      · rw [hw, Worker.taken, ht]

/-- Nobody else ends the sampler; they only tell it to. -/
theorem task_of_others (h : m.Real) (ho : m.own = false) :
    m.after.worker.task = m.before.worker.task ∧ m.exits = false := by
  cases hh : m.happening with
  | turn turn => simp [own, hh] at ho
  | tell =>
    rw [Real, hh] at h
    refine ⟨?_, by simp [exits, seesEnd, handlesTick, hh]⟩
    rw [← Option.some.inj h]
    rfl
  | visit visit =>
    rw [Real, hh] at h
    refine ⟨?_, by simp [exits, seesEnd, handlesTick, hh]⟩
    rw [← Option.some.inj h]

private theorem own_of_exits (h : m.exits = true) : m.own = true := by
  cases hh : m.happening with
  | turn turn => rw [own, hh]
  | tell => simp [exits, seesEnd, handlesTick, hh] at h
  | visit visit => simp [exits, seesEnd, handlesTick, hh] at h

/-- Only a sampler that has not ended has turns. -/
theorem live_of_own (h : m.Real) (ho : m.own = true) : m.before.worker.live = true := by
  cases hh : m.happening with
  | turn turn => exact Worker.live_of_turn (turn_of_real h hh)
  | tell => simp [own, hh] at ho
  | visit visit => simp [own, hh] at ho

private theorem phase_of_own (h : m.Real) (ho : m.own = true) :
    m.after.session.recording.phase = m.before.session.recording.phase := by
  cases ownTurn h ho with
  | quiet _ _ _ session_eq => rw [session_eq]
  | tick _ _ phase phase_after => rw [phase, phase_after]
  | last _ _ _ session_eq => rw [session_eq]

private theorem handlesTick_of_seesEnd (h : m.seesEnd = true) : m.handlesTick = false := by
  unfold seesEnd at h
  split at h
  · next hh => rw [handlesTick, hh]
  · cases h

/-- The probe is called once for a tick of a started recording and for nothing else. -/
theorem calls_of_own (h : m.Real) (ho : m.own = true) :
    m.calls = if m.handlesTick && m.started then 1 else 0 := by
  cases ownTurn h ho with
  | quiet noTick _ _ session_eq => simp [calls, session_eq, noTick]
  | tick handles _ phase _ sensor_eq =>
    simp [calls, sensor_eq, Sensor.asked, handles, started, phase]
  | last exits _ _ session_eq =>
    have hnone : (m.handlesTick && m.started) = false := by
      rcases Bool.or_eq_true_iff.mp exits with he | he
      · rw [handlesTick_of_seesEnd he, Bool.false_and]
      · rw [Bool.and_eq_true, Bool.not_eq_true'] at he
        rw [he.2, Bool.and_false]
    simp [calls, session_eq, hnone]

/-- The sampler counts what it captures itself. -/
theorem taken_after (h : m.Real) :
    m.after.worker.taken =
      m.before.worker.taken + if m.own then m.captured?.toList.length else 0 := by
  cases ho : m.own with
  | true =>
    cases ownTurn h ho with
    | quiet _ _ noRequest _ taken_eq => simp [taken_eq, captured?, noRequest]
    | tick _ _ _ _ _ taken_eq => simpa using taken_eq
    | last _ _ uncaptured _ ended => simp [uncaptured, Worker.taken, ended]
  | false => simp [Worker.taken, (task_of_others h ho).1]

/-- Whoever captures a snapshot, the recording keeps track of it. -/
theorem keeps_after {records : List Snapshot} (h : m.Real)
    (hk : m.before.session.recording.Keeps records) :
    m.after.session.recording.Keeps (records ++ m.captured?.toList) := by
  cases ho : m.own with
  | true =>
    cases ownTurn h ho with
    | quiet _ _ noRequest session_eq => simpa [captured?, noRequest, session_eq] using hk
    | tick _ _ _ _ _ _ keeps => exact keeps records hk
    | last _ _ uncaptured session_eq => simpa [uncaptured, session_eq] using hk
  | false =>
    cases hh : m.happening with
    | turn turn => simp [own, hh] at ho
    | tell =>
      rw [Real, hh] at h
      rw [captured?, request?, hh, ← Option.some.inj h]
      simpa using hk
    | visit visit =>
      rw [Real, hh] at h
      rw [captured?, request?, hh, ← Option.some.inj h]
      exact (m.before.session.meet visit).keeps_recording hk

/-- The sampler ends exactly at an exit, and gives back what it has taken. -/
theorem ended_after (h : m.Real) :
    (∃ taken, m.after.worker.task = .ended taken) ↔
      (∃ taken, m.before.worker.task = .ended taken) ∨ m.exits = true := by
  cases ho : m.own with
  | true =>
    have hlive := live_of_own h ho
    have hrunning : ¬ ∃ taken, m.before.worker.task = .ended taken := by
      rintro ⟨taken, he⟩
      simp [Worker.live, he] at hlive
    cases ownTurn h ho with
    | quiet noTick noEnd _ _ _ goesOn =>
      have hn : m.exits = false := by simp [exits, noTick, noEnd]
      simp [hrunning, hn, goesOn.not_ended]
    | tick _ noEnd phase _ _ _ _ goesOn =>
      have hn : m.exits = false := by simp [exits, noEnd, started, phase]
      simp [hrunning, hn, goesOn.not_ended]
    | last exits _ _ _ ended => simp [exits, ended]
  | false =>
    obtain ⟨htask, hn⟩ := task_of_others h ho
    simp [htask, hn]

/-- An exit is the last turn; it leaves the session as it is. -/
theorem last_of_exits (h : m.Real) (he : m.exits = true) :
    (m.seesEnd = true → m.before.worker.cancelled = true) ∧
    m.after.session = m.before.session ∧ m.after.worker.task = .ended m.before.worker.taken := by
  cases ownTurn h (own_of_exits he) with
  | quiet noTick noEnd => simp [exits, noTick, noEnd] at he
  | tick _ noEnd phase => simp [exits, noEnd, started, phase] at he
  | last _ told _ session_eq ended => exact ⟨told, session_eq, ended⟩

/-- Short of an exit nothing ends a sampler that was given a period. -/
theorem live_after (h : m.Real) (hn : m.exits = false) (hs : m.before.worker.Sound)
    (hl : m.before.worker.live = true) :
    m.after.worker.Sound ∧ m.after.worker.live = true := by
  cases ho : m.own with
  | true =>
    cases ownTurn h ho with
    | quiet _ _ _ _ _ goesOn => exact goesOn.sound hs
    | tick _ _ _ _ _ _ _ goesOn => exact goesOn.sound hs
    | last exits => cases hn.symm.trans exits
  | false =>
    have htask := (task_of_others h ho).1
    rw [Worker.Sound, Worker.live, htask]
    exact ⟨hs, hl⟩

end Moment

/-! ### What a run does -/

namespace Shared

variable {s s' : Shared} {moments : List Moment}

private theorem Runs.real (h : s.Runs moments s') : ∀ m ∈ moments, m.Real := by
  induction h with
  | nil => simp
  | cons hstep _ ih =>
    intro m hm
    rcases List.mem_cons.mp hm with rfl | hm
    · exact hstep
    · exact ih m hm

/-- Steps that can be made are the moments of a run. -/
theorem runs_of_run {happenings : List Happening} (h : s.run happenings = some s') :
    ∃ moments, s.Runs moments s' ∧ moments.map Moment.happening = happenings := by
  induction happenings generalizing s with
  | nil =>
    cases h
    exact ⟨[], .nil _, rfl⟩
  | cons happening rest ih =>
    obtain ⟨next, hstep, hrest⟩ := Option.bind_eq_some_iff.mp h
    obtain ⟨moments, hruns, hmap⟩ := ih hrest
    exact ⟨_, .cons hstep hruns, by rw [List.map_cons, hmap]⟩

/-- A run up to a moment, the moment, and the run from there on. -/
theorem Runs.split {earlier later : List Moment} {m : Moment}
    (h : s.Runs (earlier ++ m :: later) s') :
    s.Runs earlier m.before ∧ m.Real ∧ m.after.Runs later s' := by
  induction earlier generalizing s with
  | nil =>
    cases h with
    | cons hstep hrest => exact ⟨.nil s, hstep, hrest⟩
  | cons first earlier ih =>
    cases h with
    | cons hstep hrest =>
      obtain ⟨hbefore, hm, hafter⟩ := ih hrest
      exact ⟨.cons hstep hbefore, hm, hafter⟩

theorem Runs.append {next : Shared} {later : List Moment} (h : s.Runs moments next)
    (h' : next.Runs later s') : s.Runs (moments ++ later) s' := by
  induction h with
  | nil => exact h'
  | cons hstep _ ih => exact .cons hstep (ih h')

/-- The sampler has counted what it captured in its own turns. -/
theorem Runs.taken_eq (h : s.Runs moments s') :
    s'.worker.taken = s.worker.taken +
      ((moments.filter Moment.own).filterMap Moment.captured?).length := by
  induction h with
  | nil => rfl
  | @cons s next s' happening moments hstep _ ih =>
    have hfirst := Moment.taken_after (m := ⟨s, happening, next⟩) hstep
    rw [ih, hfirst, List.filter_cons, Nat.add_assoc]
    cases Moment.own ⟨s, happening, next⟩ with
    | false => simp
    | true =>
      rw [if_pos rfl, if_pos rfl, List.filterMap_cons]
      cases Moment.captured? ⟨s, happening, next⟩ with
      | none => simp
      | some x => simp [Nat.add_comm]

/-- The recording keeps track of what all have captured. -/
theorem Runs.keeps {records : List Snapshot} (h : s.Runs moments s')
    (hk : s.session.recording.Keeps records) :
    s'.session.recording.Keeps (records ++ moments.filterMap Moment.captured?) := by
  induction h generalizing records with
  | nil => simpa using hk
  | @cons s next s' happening moments hstep _ ih =>
    have hfirst := Moment.keeps_after (m := ⟨s, happening, next⟩) hstep hk
    have hrest := ih hfirst
    rw [List.append_assoc] at hrest
    rw [List.filterMap_cons]
    cases hc : Moment.captured? ⟨s, happening, next⟩ with
    | none => simpa [hc] using hrest
    | some x => simpa [hc] using hrest

/-- The sampler has ended exactly if there was an exit. -/
theorem Runs.ended_iff (h : s.Runs moments s') :
    (∃ taken, s'.worker.task = .ended taken) ↔
      (∃ taken, s.worker.task = .ended taken) ∨ ∃ m ∈ moments, m.exits = true := by
  induction h with
  | nil => simp
  | @cons s next s' happening moments hstep _ ih =>
    have hfirst := Moment.ended_after (m := ⟨s, happening, next⟩) hstep
    rw [ih, hfirst, List.exists_mem_cons_iff, or_assoc]

theorem Runs.live (h : s.Runs moments s') (hn : ∀ m ∈ moments, m.exits = false)
    (hs : s.worker.Sound) (hl : s.worker.live = true) : s'.worker.live = true := by
  induction h with
  | nil => exact hl
  | @cons s next s' happening moments hstep _ ih =>
    obtain ⟨hfirst, hrest⟩ := List.forall_mem_cons.mp hn
    obtain ⟨hs', hl'⟩ := Moment.live_after (m := ⟨s, happening, next⟩) hstep hfirst hs hl
    exact ih hrest hs' hl'

/-- A sampler that has ended has no more turns. -/
theorem Runs.own_eq_false (h : s.Runs moments s') {taken : Nat}
    (he : s.worker.task = .ended taken) : ∀ m ∈ moments, m.own = false := by
  intro m hm
  obtain ⟨earlier, later, rfl⟩ := List.append_of_mem hm
  obtain ⟨hbefore, hreal, -⟩ := h.split
  obtain ⟨taken', he'⟩ := hbefore.ended_iff.mpr (.inl ⟨taken, he⟩)
  by_contra ho
  have hlive := Moment.live_of_own hreal (by simpa using ho)
  simp [Worker.live, he'] at hlive

/-- There is one exit at most: no exit comes before it, and no turn of the sampler after it. -/
theorem Runs.first_exit {earlier later : List Moment} {m : Moment}
    (h : s.Runs (earlier ++ m :: later) s') (he : m.exits = true) :
    (∀ m' ∈ earlier, m'.exits = false) ∧ ∀ m' ∈ later, m'.own = false := by
  obtain ⟨hbefore, hreal, hafter⟩ := h.split
  constructor
  · intro m' hm'
    by_contra hexit
    obtain ⟨taken, hended⟩ := hbefore.ended_iff.mpr (.inr ⟨m', hm', by simpa using hexit⟩)
    have hlive := Moment.live_of_own hreal (Moment.own_of_exits he)
    simp [Worker.live, hended] at hlive
  · exact hafter.own_eq_false (Moment.last_of_exits hreal he).2.2

end Shared

/-! ### Timed samplers among others -/

/-- A sampler that runs on a clock, and the session that it shares. -/
structure TimedSampler where
  session : Session
  task : SamplerTask

/-- What is done with a timed sampler and its session. -/
inductive TimedSampler.Act where
  /-- A launched sampler gets its first turn. -/
  | begin (now : Nat)
  | pass (passage : Passage) (limit : Nat)
  | cancel (now : Nat)
  | visit (visit : Visit)

/-- The sampler and the session after an act. -/
def TimedSampler.act (t : TimedSampler) : Act → TimedSampler
  | .begin now => { t with task := (t.task.begin now).1 }
  | .pass passage limit =>
    let step := t.task.pass t.session passage limit
    { session := step.state, task := step.answer }
  | .cancel now => { t with task := (t.task.begin now).1.cancel.1 }
  | .visit visit => { t with session := t.session.afterVisit visit }

/-- The sampler and the session after these acts. -/
def TimedSampler.run (t : TimedSampler) : List Act → TimedSampler
  | [] => t
  | a :: acts => (t.act a).run acts

/-- Neither a turn nor time moves a sampler that has ended. -/
theorem TimedSampler.act_of_not_live {t : TimedSampler}
    (h : ({ task := t.task, cancelled := true } : Worker).live = false) :
    (∀ now, t.act (.begin now) = t) ∧ ∀ passage limit, t.act (.pass passage limit) = t := by
  obtain ⟨session, task⟩ := t
  cases task with
  | launched periodMs => cases h
  | ticking sampler => cases h
  | ended taken => exact ⟨fun _ => rfl, fun _ _ => rfl⟩
  | broken => exact ⟨fun _ => rfl, fun _ _ => rfl⟩

namespace Shared

variable {s s' : Shared}

/-- Some moments lead from one state to the other. -/
def Reaches (s s' : Shared) : Prop := ∃ moments, s.Runs moments s'

theorem reaches_refl (s : Shared) : s.Reaches s := ⟨[], .nil s⟩

private theorem reaches_of_step (happening : Happening) (h : s.step happening = some s') :
    s.Reaches s' :=
  ⟨_, .cons h (.nil s')⟩

theorem Reaches.trans {next : Shared} (h : s.Reaches next) (h' : next.Reaches s') :
    s.Reaches s' := by
  obtain ⟨moments, hr⟩ := h
  obtain ⟨later, hr'⟩ := h'
  exact ⟨moments ++ later, hr.append hr'⟩

/-- What the turns of the sampler lead to can be reached. -/
theorem reaches_of_leads {before after : Worker × Session} (h : Worker.Leads before after) :
    Reaches ⟨before.2, before.1⟩ ⟨after.2, after.1⟩ := by
  induction h with
  | refl => exact reaches_refl _
  | tail _ ht ih =>
    obtain ⟨turn, ht⟩ := ht
    exact ih.trans (reaches_of_step (.turn turn) (by rw [step, ht]; rfl))

/-- The sampler is the timed one between two acts; if it was told to end it has ended. -/
def Shows (s : Shared) (t : TimedSampler) : Prop :=
  ∃ cancelled, s = ⟨t.session, { task := t.task, cancelled }⟩ ∧
    (cancelled = true → s.worker.live = false)

theorem shows_new (id : Nat) (settings : Settings) (sensor : Sensor) (periodMs : Nat) :
    (Shared.new id settings sensor periodMs).Shows
      ⟨{ recording := Recording.new id settings, sensor }, .launched periodMs⟩ :=
  ⟨false, rfl, nofun⟩

/-- Every act is some moments. -/
theorem Shows.act {t : TimedSampler} (h : s.Shows t) (a : TimedSampler.Act) :
    ∃ s', s.Reaches s' ∧ s'.Shows (t.act a) := by
  obtain ⟨cancelled, rfl, hended⟩ := h
  have hstay (ha : t.act a = t) : ∃ s', Reaches ⟨t.session, { task := t.task, cancelled }⟩ s' ∧
      s'.Shows (t.act a) := by
    rw [ha]
    exact ⟨_, reaches_refl _, cancelled, rfl, hended⟩
  cases a with
  | begin now =>
    cases cancelled with
    | true => exact hstay ((TimedSampler.act_of_not_live (hended rfl)).1 now)
    | false =>
      exact ⟨_, reaches_of_leads (Worker.leads_begin t.task false t.session now), false, rfl, nofun⟩
  | pass passage limit =>
    cases cancelled with
    | true => exact hstay ((TimedSampler.act_of_not_live (hended rfl)).2 passage limit)
    | false =>
      exact ⟨_, reaches_of_leads (Worker.leads_pass t.task t.session passage limit), false, rfl,
        nofun⟩
  | cancel now =>
    have htell : Reaches ⟨t.session, { task := t.task, cancelled }⟩
        ⟨t.session, { task := t.task, cancelled := true }⟩ :=
      reaches_of_step .tell rfl
    exact ⟨_, htell.trans (reaches_of_leads (Worker.leads_ended t.task t.session now)), true, rfl,
      fun _ => Worker.live_of_cancel t.task now true⟩
  | visit visit =>
    exact ⟨_, reaches_of_step (.visit visit) rfl, cancelled, rfl, hended⟩

theorem Shows.run {t : TimedSampler} (h : s.Shows t) (acts : List TimedSampler.Act) :
    ∃ s', s.Reaches s' ∧ s'.Shows (t.run acts) := by
  induction acts generalizing s t with
  | nil => exact ⟨s, reaches_refl s, h⟩
  | cons a acts ih =>
    obtain ⟨next, hr, hn⟩ := h.act a
    obtain ⟨s', hr', hs⟩ := ih hn
    exact ⟨s', hr.trans hr', hs⟩

/-! ### Main statement -/

/-- However a sampler's turns and the steps of others follow each other: the sampler never changes
the phase of the recording. What it has taken is what it captured itself, among all the snapshots
that the recording keeps track of. It calls its probe once for every tick that it handles while the
recording is started, and never otherwise. It gives back its count exactly if there was an exit: it
saw that it was told to end, or handled a tick of a recording that was not started, which leaves the
session as it was. No exit comes before that one and no turn after it; short of an exit a sampler
with a period goes on, however often the probe fails. The runs of a sampler on a clock are among
these. -/
theorem sampler_counts_until_first_exit (id : Nat) (settings : Settings) (sensor : Sensor)
    (periodMs : Nat) :
    (∀ (moments : List Moment) (s : Shared),
      (Shared.new id settings sensor periodMs).Runs moments s →
      (∀ m ∈ moments, m.own = true →
        m.after.session.recording.phase = m.before.session.recording.phase ∧
        m.calls = if m.handlesTick && m.started then 1 else 0) ∧
      s.worker.taken = ((moments.filter Moment.own).filterMap Moment.captured?).length ∧
      s.session.recording.Keeps (moments.filterMap Moment.captured?) ∧
      (∀ taken, s.worker.returned? = some taken →
        taken = ((moments.filter Moment.own).filterMap Moment.captured?).length) ∧
      ((∃ taken, s.worker.returned? = some taken) ↔ ∃ m ∈ moments, m.exits = true) ∧
      (∀ (earlier later : List Moment) (m : Moment), moments = earlier ++ m :: later →
        m.exits = true →
        (m.seesEnd = true → m.before.worker.cancelled = true) ∧
        m.after.session = m.before.session ∧
        m.after.worker.returned? = some m.before.worker.taken ∧
        (∀ m' ∈ earlier, m'.exits = false) ∧ ∀ m' ∈ later, m'.own = false) ∧
      (0 < periodMs → (∀ m ∈ moments, m.exits = false) → s.worker.live = true)) ∧
    ∀ acts, ∃ moments s, (Shared.new id settings sensor periodMs).Runs moments s ∧
      s.Shows (TimedSampler.run
        ⟨{ recording := Recording.new id settings, sensor }, .launched periodMs⟩ acts) := by
  simp only [Worker.returned?_eq_some_iff]
  constructor
  · intro moments s h
    have hreal := h.real
    have htaken : s.worker.taken =
        ((moments.filter Moment.own).filterMap Moment.captured?).length := by
      rw [h.taken_eq]
      exact Nat.zero_add _
    refine ⟨?_, htaken, ?_, ?_, ?_, ?_, ?_⟩
    · intro m hm ho
      exact ⟨Moment.phase_of_own (hreal m hm) ho, Moment.calls_of_own (hreal m hm) ho⟩
    · exact h.keeps (Recording.keeps_new id settings)
    · intro taken he
      rw [← htaken, Worker.taken, he]
    · rw [h.ended_iff]
      refine or_iff_right ?_
      rintro ⟨taken, he⟩
      cases he
    · rintro earlier later m rfl he
      obtain ⟨htold, hsession, hended⟩ := Moment.last_of_exits h.split.2.1 he
      exact ⟨htold, hsession, hended, h.first_exit he⟩
    · intro hp hn
      refine h.live hn ?_ rfl
      intro ms hms
      cases hms
      exact hp
  · intro acts
    obtain ⟨s, ⟨moments, hr⟩, hs⟩ := (shows_new id settings sensor periodMs).run acts
    exact ⟨moments, s, hr, hs⟩

/-- A sensor whose second call fails. -/
def falteringSensor : Sensor where
  probe.respond call now :=
    { outcome := if call = 1 then .error (.malformed "topology" "no processors listed")
        else .ok
          { threads := 2, cores := 1, sockets := 1, cpu := "Intel", description := "Intel"
            startTime := { seconds := now, nanos := call } } }

/-- Others start, sample and stop the recording of a sampler that ticks three times. -/
def threeTicks : List Happening :=
  [.visit ⟨.start, none, 0⟩, .turn (.begin 0), .turn .look, .turn (.wake 10), .turn (.snapshot 10),
    .turn .look, .turn (.wake 20), .turn (.snapshot 20),
    .visit ⟨.sample, some falteringSensor, 25⟩, .visit ⟨.stop, none, 26⟩, .turn .look,
    .turn (.wake 30), .turn (.snapshot 30)]

/-- The first tick fails, the second brings a snapshot, and the third finds the recording
stopped. -/
theorem third_tick_is_exit :
    ∃ moments s, (Shared.new 7 {} falteringSensor 10).Runs moments s ∧
      moments.map Moment.happening = threeTicks ∧ s.worker.returned? = some 1 ∧
      (∃ m ∈ moments, m.exits = true) ∧
      ((moments.filter Moment.own).filterMap Moment.captured?).length = 1 ∧
      s.session.recording.Keeps (moments.filterMap Moment.captured?) := by
  have hone : ((Shared.new 7 {} falteringSensor 10).run threeTicks).bind (·.worker.returned?) =
      some 1 := by decide +kernel
  obtain ⟨s, hrun, hended⟩ := Option.bind_eq_some_iff.mp hone
  obtain ⟨moments, hruns, hmap⟩ := runs_of_run hrun
  obtain ⟨-, -, hkeeps, hcount, hexit, -⟩ :=
    (sampler_counts_until_first_exit 7 {} falteringSensor 10).1 moments s hruns
  exact ⟨moments, s, hruns, hmap, hended, hexit.mp ⟨1, hended⟩, (hcount 1 hended).symm, hkeeps⟩

end Shared

end CpuCensus
