import CpuCensus.Proofs.SamplerTurns

/-!
# Timed recorders as interleavings

The recorder that runs on a clock starts, lets time pass, stops and reads, and its sampler wakes for
every deadline that is due. Each of these acts is a list of moves of the recorder and its sampler
side by side, with the same session, the same sampler and the same answers. So what holds of every
interleaving holds of every timed run.
-/

namespace CpuCensus

/-! ### Reaching a world -/

namespace World

/-- Some moves lead from one world to the other. -/
def Reaches (w w' : World) : Prop := ∃ moves, w.run moves = some w'

variable {w w' w'' : World}

theorem reaches_refl (w : World) : w.Reaches w := ⟨[], rfl⟩

private theorem reaches_of_move {m : Move} (h : w.move m = some w') : w.Reaches w' :=
  ⟨[m], by simp [run, h]⟩

private theorem run_append (w : World) (moves rest : List Move) :
    w.run (moves ++ rest) = (w.run moves).bind fun w => w.run rest := by
  induction moves generalizing w with
  | nil => rfl
  | cons m moves ih =>
    rw [List.cons_append, run, run, Option.bind_assoc]
    congr
    funext next
    exact ih next

theorem Reaches.trans (h : w.Reaches w') (h' : w'.Reaches w'') : w.Reaches w'' := by
  obtain ⟨moves, hm⟩ := h
  obtain ⟨rest, hr⟩ := h'
  exact ⟨moves ++ rest, by rw [run_append, hm]; exact hr⟩

/-- The world after a turn of the sampler of this number. -/
def put (w : World) (i : Nat) (worker : Worker) (session : Session) : World :=
  { w with workers := w.workers.set i worker, session }

variable {i : Nat} {worker worker' : Worker} {session session' : Session}

private theorem put_put (w : World) (i : Nat) (worker : Worker) (session : Session) :
    (w.put i worker session).put i worker' session' = w.put i worker' session' := by
  simp [put]

private theorem put_self (h : w.workers[i]? = some worker) : w.put i worker w.session = w := by
  obtain ⟨hi, he⟩ := List.getElem?_eq_some_iff.mp h
  simp [put, ← he]

private theorem getElem?_put (h : w.workers[i]? = some worker) :
    (w.put i worker' session').workers[i]? = some worker' := by
  have hi : i < w.workers.length := (List.getElem?_eq_some_iff.mp h).1
  simp [put, hi]

/-- What the turns of a sampler lead to can be reached. -/
theorem reaches_of_leads {after : Worker × Session} (h : w.workers[i]? = some worker)
    (hl : Worker.Leads (worker, w.session) after) : w.Reaches (w.put i after.1 after.2) := by
  induction hl with
  | refl =>
    rw [put_self h]
    exact reaches_refl w
  | @tail before after _ ht ih =>
    obtain ⟨turn, ht⟩ := ht
    have hi : (w.put i before.1 before.2).workers[i]? = some before.1 := getElem?_put h
    have hmove : (w.put i before.1 before.2).move (.work i turn) =
        some ((w.put i before.1 before.2).put i after.1 after.2) := by
      simp only [move, hi]
      simp [put, ht]
    rw [put_put] at hmove
    exact ih.trans (reaches_of_move hmove)

end World

/-! ### Acts of a timed recorder -/

namespace Recorder

/-- A start answers as the session does, and launches the sampler unless it is refused. -/
theorem start_eq (r : Recorder) (now : Nat) :
    (r.start now).answer = (r.session.start now).answer ∧
    (r.start now).state = { r with
      session := (r.session.start now).state
      sampler := if r.phase = .idle then (r.periodMs.map SamplerTask.launched).or r.sampler
        else r.sampler } := by
  rcases r.session.start_cases now with ⟨hp, ha, -⟩ | ⟨hp, x, -, ha, -⟩ | ⟨hp, fault, -, ha, -⟩ <;>
  simp [start, ha, phase, hp]

/-- A stop leaves no sampler and closes the session. -/
theorem stop_eq (r : Recorder) (now : Nat) :
    (r.stop now).answer = r.session.close.answer ∧
    (r.stop now).state = { r with session := r.session.close.state, sampler := none } := by
  cases hs : r.sampler with
  | none => simp [stop, endSampler, hs]
  | some task => simp [stop, endSampler, hs]

/-- What is done with a recorder as time passes. -/
inductive Act where
  | start (now : Nat)
  /-- A launched sampler gets its first turn. -/
  | settle (now : Nat)
  | pass (passage : Passage) (limit : Nat)
  | stop (now : Nat)
  | read

/-- The recorder after an act, with the answer if there is one. -/
def act (r : Recorder) : Act → Recorder × List Answer
  | .start now => ((r.start now).state, [.started (r.start now).answer])
  | .settle now => ((r.settle now).1, [])
  | .pass passage limit => ((r.pass passage limit).1, [])
  | .stop now => ((r.stop now).state, [.stopped (r.stop now).answer])
  | .read => (r, [.read r.read])

/-- The recorder after these acts, with all the answers in order. -/
def run (r : Recorder) : List Act → Recorder × List Answer
  | [] => (r, [])
  | a :: acts => (((r.act a).1.run acts).1, (r.act a).2 ++ ((r.act a).1.run acts).2)

end Recorder

namespace World

/-- The recorder of this world, between its calls, is the timed one. -/
structure Shows (w : World) (r : Recorder) : Prop where
  session_eq : w.session = r.session
  periodMs_eq : w.periodMs = r.periodMs
  call_eq : w.call = .free
  sampler_eq : w.handle.bind (w.workers[·]?) = r.sampler.map fun task => { task }

variable {w : World} {r : Recorder}

theorem shows_new (id : Nat) (settings : Settings) (sensor : Sensor) :
    (World.new id settings sensor).Shows (.new id settings sensor) :=
  ⟨rfl, rfl, rfl, rfl⟩

theorem Shows.worker {task : SamplerTask} (h : w.Shows r) (ht : r.sampler = some task) :
    ∃ i, w.handle = some i ∧ w.workers[i]? = some { task } := by
  have hw := h.sampler_eq
  rw [ht, Option.map_some] at hw
  exact Option.bind_eq_some_iff.mp hw

theorem Shows.put {i : Nat} {worker : Worker} (h : w.Shows r) (hi : w.handle = some i)
    (hw : w.workers[i]? = some worker) (task : SamplerTask) (session : Session) :
    (w.put i { task } session).Shows { r with session, sampler := some task } where
  session_eq := rfl
  periodMs_eq := h.periodMs_eq
  call_eq := h.call_eq
  sampler_eq := by
    have he : (w.put i { task } session).workers[i]? = some { task } := getElem?_put hw
    have hh : (w.put i { task } session).handle = some i := hi
    rw [hh, Option.bind_some, he, Option.map_some]

/-- A start that has opened the recording goes on to launch the sampler. -/
theorem Shows.launch {session : Session} {answer : Except SessionFault Unit} (h : w.Shows r)
    (now : Nat)
    (hm : w.move (.start now) = some { w with session, call := .starting answer }) :
    ∃ w', w.Reaches w' ∧
      w'.Shows { r with
        session, sampler := (r.periodMs.map SamplerTask.launched).or r.sampler } ∧
      w'.answers = w.answers ++ [.started answer] := by
  refine ⟨_, (reaches_of_move hm).trans (reaches_of_move (m := .launch) rfl), ?_, rfl⟩
  refine ⟨rfl, h.periodMs_eq, rfl, ?_⟩
  have hw := h.sampler_eq
  rw [h.periodMs_eq]
  cases r.periodMs with
  | none => simpa using hw
  | some periodMs => simp

/-- A start is one move if it is refused, and two if it goes on to launch the sampler. -/
theorem Shows.start (h : w.Shows r) (now : Nat) :
    ∃ w', w.Reaches w' ∧ w'.Shows (r.start now).state ∧
      w'.answers = w.answers ++ [.started (r.start now).answer] := by
  obtain ⟨ha, hs⟩ := r.start_eq now
  rw [ha, hs]
  unfold Recorder.phase
  rcases r.session.start_cases now with ⟨hp, ha, -⟩ | ⟨hp, x, -, ha, -⟩ | ⟨hp, fault, -, ha, -⟩
  · rw [if_neg hp]
    refine ⟨{ w with
      session := (r.session.start now).state
      answers := w.answers ++ [.started (r.session.start now).answer] }, ?_, ?_, rfl⟩
    · apply reaches_of_move (m := .start now)
      simp only [move, h.call_eq, h.session_eq, ha]
    · exact ⟨rfl, h.periodMs_eq, h.call_eq, h.sampler_eq⟩
  · rw [if_pos hp]
    apply h.launch now
    simp only [move, h.call_eq, h.session_eq, ha]
  · rw [if_pos hp]
    apply h.launch now
    simp only [move, h.call_eq, h.session_eq, ha]

theorem Shows.settle (h : w.Shows r) (now : Nat) :
    ∃ w', w.Reaches w' ∧ w'.Shows (r.settle now).1 ∧ w'.answers = w.answers := by
  unfold Recorder.settle
  split
  · next task ht =>
    obtain ⟨i, hi, hw⟩ := h.worker ht
    refine ⟨_, reaches_of_leads hw (Worker.leads_begin task false w.session now), ?_, rfl⟩
    rw [h.session_eq]
    exact h.put hi hw (task.begin now).1 r.session
  · exact ⟨w, reaches_refl w, h, rfl⟩

/-- Time that passes is turns of the sampler. -/
theorem Shows.pass (h : w.Shows r) (passage : Passage) (limit : Nat) :
    ∃ w', w.Reaches w' ∧ w'.Shows (r.pass passage limit).1 ∧ w'.answers = w.answers := by
  cases ht : r.sampler with
  | none =>
    simp only [Recorder.pass, ht]
    exact ⟨w, reaches_refl w, h, rfl⟩
  | some task =>
    obtain ⟨i, hi, hw⟩ := h.worker ht
    let step := task.attend r.session (task.wakeTimes passage limit)
    have hp : (r.pass passage limit).1 =
        { r with session := step.state, sampler := some step.answer } := by
      simp only [Recorder.pass, Recorder.attend, ht, step]
    rw [hp]
    refine ⟨w.put i { task := step.answer } step.state, ?_, h.put hi hw _ _, rfl⟩
    have hleads := Worker.leads_pass task r.session passage limit
    rw [← h.session_eq] at hleads
    have hreaches := reaches_of_leads hw hleads
    rwa [h.session_eq] at hreaches

/-- The sampler that is told to end is the one it was. -/
private theorem bind_cancel (w : World) (number : Option Nat) :
    number.bind ((w.cancel number)[·]?) = (number.bind (w.workers[·]?)).map Worker.cancel := by
  cases number with
  | none => rfl
  | some i => simp [cancel]

/-- A stop tells the sampler to end, lets it leave, and closes the session. -/
theorem Shows.stop (h : w.Shows r) (now : Nat) :
    ∃ w', w.Reaches w' ∧ w'.Shows (r.stop now).state ∧
      w'.answers = w.answers ++ [.stopped (r.stop now).answer] := by
  obtain ⟨ha, hs⟩ := r.stop_eq now
  rw [ha, hs]
  let told : World :=
    { w with workers := w.cancel w.handle, handle := none, call := .stopping w.handle }
  have htold : w.Reaches told := reaches_of_move (m := .stop) (by simp only [move, h.call_eq, told])
  have hw : w.handle.bind (told.workers[·]?) =
      r.sampler.map fun task => { task, cancelled := true } := by
    simp only [told, bind_cancel, h.sampler_eq, Option.map_map]
    rfl
  -- The sampler ends, and the stop with it.
  have hfinish {ended : World} (hr : told.Reaches ended) (he : ended.hasEnded w.handle = true)
      (hk : ∃ workers, ended = { told with workers }) :
      ∃ w', w.Reaches w' ∧
        w'.Shows { r with session := r.session.close.state, sampler := none } ∧
        w'.answers = w.answers ++ [.stopped r.session.close.answer] := by
    obtain ⟨workers, rfl⟩ := hk
    refine ⟨_, (htold.trans hr).trans (reaches_of_move (m := .finish) (if_pos he)), ?_, ?_⟩
    · exact ⟨by rw [← h.session_eq], h.periodMs_eq, rfl, rfl⟩
    · rw [← h.session_eq]
  cases ht : r.sampler with
  | none =>
    rw [ht, Option.map_none] at hw
    exact hfinish (reaches_refl told) (by rw [hasEnded, hw]; rfl) ⟨_, rfl⟩
  | some task =>
    rw [ht, Option.map_some] at hw
    obtain ⟨i, hi, hw⟩ := Option.bind_eq_some_iff.mp hw
    refine hfinish (reaches_of_leads hw (Worker.leads_ended task told.session now)) ?_ ⟨_, rfl⟩
    rw [hi, hasEnded, Option.bind_some, getElem?_put hw]
    simp [Worker.live_of_cancel]

theorem Shows.act (h : w.Shows r) (a : Recorder.Act) :
    ∃ w', w.Reaches w' ∧ w'.Shows (r.act a).1 ∧ w'.answers = w.answers ++ (r.act a).2 := by
  cases a with
  | start now => exact h.start now
  | settle now => simpa [Recorder.act] using h.settle now
  | pass passage limit => simpa [Recorder.act] using h.pass passage limit
  | stop now => exact h.stop now
  | read =>
    refine ⟨{ w with answers := w.answers ++ [.read r.read] }, ?_, ?_, rfl⟩
    · apply reaches_of_move (m := .read)
      simp only [move, h.call_eq, Recorder.read, h.session_eq]
    · exact ⟨h.session_eq, h.periodMs_eq, h.call_eq, h.sampler_eq⟩

/-- Every run of a timed recorder is an interleaving, with the same answers. -/
theorem Shows.run (h : w.Shows r) (acts : List Recorder.Act) :
    ∃ w', w.Reaches w' ∧ w'.Shows (r.run acts).1 ∧ w'.answers = w.answers ++ (r.run acts).2 := by
  induction acts generalizing w r with
  | nil => exact ⟨w, reaches_refl w, h, (List.append_nil _).symm⟩
  | cons a acts ih =>
    obtain ⟨next, hr, hn, ha⟩ := h.act a
    obtain ⟨w', hr', hs, ha'⟩ := ih hn
    exact ⟨w', hr.trans hr', hs, by rw [ha', ha, List.append_assoc, Recorder.run]⟩

/-! ### Main statement -/

/-- In every run of a recorder with a period, however its calls and the turns of its sampler follow
each other: at most one sampler has not ended, it finds the recording started and is never refused,
and between calls a started recording has one. The captured snapshots are the first one and those
that the sampler has counted. A sampler that a stop has told to end calls the probe at most once
more, and what it captures then is the last event that the stop shows. After a stop has shown its
events the probe is not called any more. The runs of a recorder on a clock are among these. -/
theorem one_sampler_while_started (id : Nat) (settings : Settings) (sensor : Sensor)
    {periodMs : Nat} (hp : 0 < periodMs) (hs : settings.periodMs = some periodMs) :
    (∀ moves w, (World.new id settings sensor).run moves = some w →
      w.workers.countP Worker.live ≤ 1 ∧
      (∀ worker ∈ w.workers, worker.live = true →
        w.session.recording.phase = .started ∧
        ∀ now, (Sampler.wake w.session now).answer ≠ .refused) ∧
      (w.call = .free → w.session.recording.phase = .started →
        ∃ worker ∈ w.workers, worker.live = true) ∧
      w.session.recording.size + w.session.recording.dropped =
        w.initialCount + (w.workers.map Worker.taken).sum ∧
      (∀ i told, w.handle = some i → w.move .stop = some told →
        ∀ later w₁, told.run later = some w₁ → w₁.calls ≤ told.calls + 1 ∧
          ∀ j now x w₂, w₁.session.outcome now = .ok x →
            w₁.move (.work j (.snapshot now)) = some w₂ →
            ∀ rest w₃ w₄, w₂.run rest = some w₃ → w₃.call = .stopping (some i) →
              w₃.move .finish = some w₄ →
              ∃ view, w₄.answers = w₃.answers ++ [.stopped (.ok view)] ∧
                view.events.getLast? =
                  some { sequence := w₁.session.recording.nextSequence, snapshot := x }) ∧
      (∀ view, .stopped (.ok view) ∈ w.answers →
        ∀ later w', w.run later = some w' → w'.calls = w.calls)) ∧
    ∀ acts, ∃ moves w, (World.new id settings sensor).run moves = some w ∧
      w.Shows ((Recorder.new id settings sensor).run acts).1 ∧
      w.answers = ((Recorder.new id settings sensor).run acts).2 := by
  refine ⟨?_, ?_⟩
  · intro moves w hr
    have hi : w.Inv periodMs := (inv_new id settings sensor hs).run hp hr
    refine ⟨?_, ?_, hi.course.live_of_started, hi.size_add_dropped, ?_, ?_⟩
    · exact Nat.le_trans List.countP_le_length hi.course.length_workers
    · intro worker hw hl
      exact ⟨hi.course.started_of_live hw hl, hi.wake_ne_refused hw hl⟩
    · intro i told hh hm later w₁ hlater
      have hi₁ : w₁.Inv periodMs := (hi.move hp hm).run hp hlater
      obtain ⟨worker, hwaning⟩ := hi.course.waning_of_stop hh hm
      obtain ⟨hcalls, worker₁, hwaning₁⟩ := hwaning.run_calls hlater
      refine ⟨hcalls, ?_⟩
      intro j now x w₂ ho hsnap rest w₃ w₄ hrest hawait hfinish
      exact hi₁.finish_of_snapshot hp hwaning₁ ho hsnap hrest hawait hfinish
    · intro view hv later w' hlater
      exact hi.calls_of_closed hv hlater
  · intro acts
    obtain ⟨w, ⟨moves, hr⟩, hshows, hanswers⟩ := (shows_new id settings sensor).run acts
    exact ⟨moves, w, hr, hshows, hanswers⟩

/-- A sensor that tells with every snapshot when it was read and how often it was asked before. -/
def countingSensor : Sensor where
  probe.respond call now :=
    { outcome := .ok
        { threads := 2, cores := 1, sockets := 1, cpu := "Intel", description := "Intel"
          startTime := { seconds := now, nanos := call } } }

/-- A sampler that had woken when the stop told it to end still brings in the last event. -/
theorem late_snapshot_is_last :
    ∃ w told w₁ w₂ w₃ view,
      (World.new 7 { periodMs := some 10 } countingSensor).run
        [.start 0, .launch, .work 0 (.begin 0), .work 0 .look, .work 0 (.wake 10)] = some w ∧
      w.workers.countP Worker.live ≤ 1 ∧
      w.move .stop = some told ∧
      told.move (.work 0 (.snapshot 11)) = some w₁ ∧
      w₁.run [.work 0 .leave] = some w₂ ∧
      w₂.move .finish = some w₃ ∧
      w₃.answers = w₂.answers ++ [.stopped (.ok view)] ∧
      view.events.getLast?.map Event.sequence = some 1 := by
  obtain ⟨hone, -, -, -, hstop, -⟩ :=
    (one_sampler_while_started 7 { periodMs := some 10 } countingSensor (by decide) rfl).1
      [.start 0, .launch, .work 0 (.begin 0), .work 0 .look, .work 0 (.wake 10)] _ rfl
  obtain ⟨-, hlast⟩ := hstop 0 _ rfl rfl [] _ rfl
  obtain ⟨view, ha, hv⟩ := hlast 0 11 _ _ rfl rfl [.work 0 .leave] _ _ rfl rfl rfl
  exact ⟨_, _, _, _, _, view, rfl, hone, rfl, rfl, rfl, rfl, ha, by rw [hv]; rfl⟩

end World

end CpuCensus
