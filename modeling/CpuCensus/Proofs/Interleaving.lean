import CpuCensus.Proofs.RecordingRuns
import CpuCensus.Recorder

/-!
# Recorder and sampler side by side

A recorder and the samplers that it launches share one session. Whoever reaches for the recording
holds it until the step is done, so a run is a list of moves: the steps of a start and a stop, a
read, the end of the recorder, and the turns of a sampler. Nothing is assumed about their order or
their times but what each move itself requires.

`Course` lists how far a recorder with a period can have come, and every move preserves it. `Waning`
follows a sampler that was told to end. What holds in every run is drawn from the two.
-/

namespace CpuCensus

/-! ### Samplers -/

/-- How near a sampler is to its next snapshot. -/
inductive Stance where
  /-- It waits. -/
  | resting
  /-- It has looked and was not told to end; it looks at its deadline next. -/
  | alert
  /-- It has woken and waits for the recording, to take a snapshot. -/
  | awake
  deriving DecidableEq

/-- A sampler that runs beside its recorder. -/
structure Worker where
  task : SamplerTask
  /-- It has been told to end. -/
  cancelled : Bool := false
  stance : Stance := .resting

/-- What a sampler does in one turn. -/
inductive Turn where
  | begin (now : Nat)
  | look
  | rest
  | wake (now : Nat)
  | snapshot (now : Nat)
  | leave

namespace Worker

/-- The sampler has not ended. -/
def live (w : Worker) : Bool :=
  match w.task with
  | .launched _ | .ticking _ => true
  | .ended _ | .broken => false

/-- The sampler may be about to take a snapshot. -/
def pending (w : Worker) : Bool := w.live && w.stance != .resting

/-- How many snapshots the sampler has taken. -/
def taken (w : Worker) : Nat :=
  match w.task with
  | .ticking sampler => sampler.taken
  | .ended taken => taken
  | .launched _ | .broken => 0

/-- Tell the sampler to end. -/
def cancel (w : Worker) : Worker := { w with cancelled := true }

/-- Give the sampler a turn. A sampler that rests looks first whether it was told to end and only
then at its deadline; once awake it takes its snapshot, whatever it has been told in the
meantime. -/
def turn (w : Worker) (session : Session) (turn : Turn) : Option (Worker × Session) :=
  match turn, w.task, w.stance with
  | .begin now, .launched periodMs, _ =>
    some ({ w with task := ((SamplerTask.launched periodMs).begin now).1 }, session)
  | .look, .ticking _, .resting =>
    if w.cancelled then none else some ({ w with stance := .alert }, session)
  | .rest, .ticking _, .alert => some ({ w with stance := .resting }, session)
  | .wake now, .ticking sampler, .alert =>
    if sampler.deadline ≤ now then
      some ({ w with task := .ticking (sampler.rearm now), stance := .awake }, session)
    else none
  | .snapshot now, .ticking sampler, .awake =>
    let step := Sampler.wake session now
    some ({ w with task := sampler.resume step.answer, stance := .resting }, step.state)
  | .leave, .ticking sampler, .resting =>
    if w.cancelled then some ({ w with task := (SamplerTask.ticking sampler).cancel.1 }, session)
    else none
  | _, _, _ => none

end Worker

/-! ### Recorders -/

/-- What the recorder is doing. -/
inductive Call where
  | free
  /-- The recording is started with this answer; the sampler is not launched yet. -/
  | starting (answer : Except SessionFault Unit)
  /-- The sampler of this number, if there is one, has been told to end; the recording is not
  stopped yet. -/
  | stopping (awaited : Option Nat)
  /-- The recorder is gone. -/
  | dropped

/-- What a call of the recorder has answered. -/
inductive Answer where
  | started (answer : Except SessionFault Unit)
  | stopped (answer : Except Refusal EventView)
  | read (answer : Except Refusal EventView)

/-- A recorder with its session and every sampler that it has launched. -/
structure World where
  session : Session
  periodMs : Option Nat
  /-- The samplers, by number. -/
  workers : List Worker := []
  /-- The number of the sampler that the recorder would tell to end. -/
  handle : Option Nat := none
  call : Call := .free
  /-- The answers so far, oldest first. -/
  answers : List Answer := []

/-- A step of the recorder or of a sampler. -/
inductive Move where
  /-- A start is called and reaches the recording. -/
  | start (now : Nat)
  /-- The start launches the sampler and returns. -/
  | launch
  /-- A stop is called and tells the sampler to end. -/
  | stop
  /-- The sampler has ended; the stop reaches the recording and returns. -/
  | finish
  | read
  | drop
  /-- The sampler of this number has a turn. -/
  | work (worker : Nat) (turn : Turn)

namespace World

/-- A new recorder. -/
def new (id : Nat) (settings : Settings) (sensor : Sensor) : World where
  session := { recording := Recording.new id settings, sensor }
  periodMs := settings.periodMs

/-- How often the probe has been called. -/
def calls (w : World) : Nat := w.session.sensor.calls

/-- Tell the sampler to end whose number this is. -/
def cancel (w : World) (number : Option Nat) : List Worker :=
  match number with
  | some i => w.workers.modify i Worker.cancel
  | none => w.workers

/-- The sampler of this number, if there is one, has ended. -/
def hasEnded (w : World) (number : Option Nat) : Bool :=
  (number.bind (w.workers[·]?)).all fun worker => !worker.live

/-- Make a move, if it can be made. -/
def move (w : World) (m : Move) : Option World :=
  match m, w.call with
  | .start now, .free =>
    let step := w.session.start now
    match step.answer with
    | .error (.refused _) =>
      some { w with session := step.state, answers := w.answers ++ [.started step.answer] }
    | _ => some { w with session := step.state, call := .starting step.answer }
  | .launch, .starting answer =>
    some { w with
      workers := w.workers ++ (w.periodMs.map fun periodMs => { task := .launched periodMs }).toList
      handle := (w.periodMs.map fun _ => w.workers.length).or w.handle
      call := .free
      answers := w.answers ++ [.started answer] }
  | .stop, .free =>
    some { w with workers := w.cancel w.handle, handle := none, call := .stopping w.handle }
  | .finish, .stopping awaited =>
    if w.hasEnded awaited then
      let step := w.session.close
      some { w with
        session := step.state
        call := .free
        answers := w.answers ++ [.stopped step.answer] }
    else none
  | .read, .dropped => none
  | .read, _ => some { w with answers := w.answers ++ [.read w.session.recording.read] }
  | .drop, .free => some { w with workers := w.cancel w.handle, call := .dropped }
  | .work i turn, _ => do
    let worker ← w.workers[i]?
    let (worker, session) ← worker.turn w.session turn
    some { w with workers := w.workers.set i worker, session }
  | _, _ => none

/-- Make these moves one after the other, if they can be made. -/
def run (w : World) : List Move → Option World
  | [] => some w
  | m :: moves => (w.move m).bind fun w => w.run moves

end World

/-! ### What a turn of a sampler does -/

/-- A sampler that wakes samples the session. -/
theorem Sampler.wake_state (session : Session) (now : Nat) :
    (Sampler.wake session now).state = (session.sample now).state := by
  unfold wake
  simp only
  split <;> rfl

/-- What a sampler meets on waking, with the phase that decides it. -/
theorem Sampler.wake_cases (session : Session) (now : Nat) :
    (session.recording.phase ≠ .started ∧ (Sampler.wake session now).answer = .refused ∧
      (Sampler.wake session now).state = session) ∨
    (session.recording.phase = .started ∧ ∃ x, session.outcome now = .ok x ∧
      (Sampler.wake session now).answer = .taken ∧
      (Sampler.wake session now).state = ⟨session.recording.taking x, session.sensor.asked⟩) ∨
    (session.recording.phase = .started ∧ ∃ fault, session.outcome now = .error fault ∧
      (Sampler.wake session now).answer = .failed ∧
      (Sampler.wake session now).state = ⟨session.recording, session.sensor.asked⟩) := by
  rcases session.sample_cases now with ⟨hp, ha, hs⟩ | ⟨hp, x, ho, ha, hs⟩ | ⟨hp, fault, ho, ha, hs⟩
  · exact .inl ⟨hp, by simp only [wake, ha], by simp only [wake, ha, hs]⟩
  · exact .inr (.inl ⟨hp, x, ho, by simp only [wake, ha], by simp only [wake, ha, hs]⟩)
  · exact .inr (.inr ⟨hp, fault, ho, by simp only [wake, ha], by simp only [wake, ha, hs]⟩)

/-- A wake-up changes no phase and calls the probe at most once. -/
theorem Sampler.wake_keeps (session : Session) (now : Nat) :
    (Sampler.wake session now).state.recording.phase = session.recording.phase ∧
    (Sampler.wake session now).state.sensor.calls ≤ session.sensor.calls + 1 := by
  rcases wake_cases session now with ⟨-, -, hs⟩ | ⟨-, x, -, -, hs⟩ | ⟨-, fault, -, -, hs⟩ <;>
  simp [hs, Sensor.asked]

namespace Worker

variable {w w' : Worker} {session session' : Session} {turn : Turn}

/-- What a turn can be: the first one, a look or a wake-up, a snapshot or the last one. Only a
snapshot reaches the session, and a sampler that rests and was told to end does not look up. -/
theorem turn_cases (h : w.turn session turn = some (w', session')) :
    (∃ periodMs now, turn = .begin now ∧ w.task = .launched periodMs ∧
      w' = { w with task := ((SamplerTask.launched periodMs).begin now).1 } ∧
      session' = session) ∨
    (∃ sampler sampler', (turn ≠ .leave ∧ ∀ now, turn ≠ .snapshot now) ∧
      w.task = .ticking sampler ∧ w'.task = .ticking sampler' ∧ sampler'.taken = sampler.taken ∧
      w'.cancelled = w.cancelled ∧ (w.stance = .resting → w.cancelled = false) ∧
      session' = session) ∨
    (∃ sampler now, turn = .snapshot now ∧ w.task = .ticking sampler ∧ w.stance = .awake ∧
      w' = { w with
        task := sampler.resume (Sampler.wake session now).answer
        stance := .resting } ∧
      session' = (Sampler.wake session now).state) ∨
    (∃ sampler, turn = .leave ∧ w.task = .ticking sampler ∧ w.stance = .resting ∧
      w.cancelled = true ∧ w' = { w with task := .ended sampler.taken } ∧
      session' = session) := by
  unfold Worker.turn at h
  split at h
  · next now periodMs ht =>
    cases h
    exact .inl ⟨periodMs, now, rfl, ht, rfl, rfl⟩
  · next sampler ht hs =>
    split at h
    · cases h
    · next hc =>
      cases h
      refine .inr (.inl ⟨sampler, sampler, ⟨nofun, nofun⟩, ht, ht, rfl, rfl, fun _ => ?_, rfl⟩)
      simpa using hc
  · next sampler ht hs =>
    cases h
    exact .inr (.inl ⟨sampler, sampler, ⟨nofun, nofun⟩, ht, ht, rfl, rfl, by simp [hs], rfl⟩)
  · next now sampler ht hs =>
    split at h
    · cases h
      exact .inr (.inl ⟨sampler, _, ⟨nofun, nofun⟩, ht, rfl, rfl, rfl, by simp [hs], rfl⟩)
    · cases h
  · next now sampler ht hs =>
    cases h
    exact .inr (.inr (.inl ⟨sampler, now, rfl, ht, hs, rfl, rfl⟩))
  · next sampler ht hs =>
    split at h
    · next hc =>
      cases h
      exact .inr (.inr (.inr ⟨sampler, rfl, ht, hs, hc, rfl, rfl⟩))
    · cases h
  · cases h

/-- What comes of a poll comes of the turns of a sampler that rests: a cancelled one can only leave;
any other looks, and then wakes if its deadline has come and rests again if not. -/
theorem turns_of_poll {sampler : Sampler} (ht : w.task = .ticking sampler)
    (hr : w.stance = .resting) (session : Session) (now : Nat) :
    let looked (next : Turn) := (w.turn session .look).bind fun (w, session) => w.turn session next
    match sampler.poll w.cancelled now with
    | .leave =>
      w.turn session .look = none ∧
      w.turn session .leave = some ({ w with task := .ended sampler.taken }, session)
    | .wake =>
      w.turn session .leave = none ∧
      looked (.wake now) =
        some ({ w with task := .ticking (sampler.rearm now), stance := .awake }, session)
    | .wait =>
      w.turn session .leave = none ∧ looked (.wake now) = none ∧
      looked .rest = some (w, session) := by
  obtain ⟨task, cancelled, stance⟩ := w
  cases ht
  cases hr
  unfold Sampler.poll
  cases cancelled with
  | true => exact ⟨rfl, rfl⟩
  | false =>
    by_cases hd : sampler.deadline ≤ now
    · simp [turn, hd]
    · simp [turn, hd]

/-- Only a sampler that has not ended gets a turn. -/
theorem live_of_turn (h : w.turn session turn = some (w', session')) : w.live = true := by
  rcases turn_cases h with ⟨_, _, -, ht, -⟩ | ⟨_, _, -, ht, -⟩ | ⟨_, _, -, ht, -⟩ |
    ⟨_, -, ht, -⟩ <;>
  simp [live, ht]

/-- A sampler that was launched was given a period. -/
def Sound (w : Worker) : Prop := ∀ periodMs, w.task = .launched periodMs → 0 < periodMs

/-- While the recording is started a sampler that was not told to end goes on. It counts the
snapshots that it brings in. -/
theorem turn_of_started (hs : session.recording.phase = .started) (hw : w.Sound)
    (h : w.turn session turn = some (w', session')) :
    session'.recording.phase = .started ∧ w'.Sound ∧ w'.cancelled = w.cancelled ∧
    (w.cancelled = false → w'.live = true) ∧
    ∀ others, session.recording.nextSequence = others + w.taken →
      session'.recording.nextSequence = others + w'.taken := by
  rcases turn_cases h with ⟨periodMs, now, -, ht, rfl, rfl⟩ |
    ⟨sampler, sampler', -, ht, ht', hn, hc, -, rfl⟩ | ⟨sampler, now, -, ht, -, rfl, rfl⟩ |
    ⟨sampler, -, ht, -, hc, rfl, rfl⟩
  · have hp := hw periodMs ht
    simp [hs, Sound, live, taken, ht, SamplerTask.begin, hp]
  · simp [hs, Sound, live, taken, ht, ht', hn, hc]
  · rcases Sampler.wake_cases session now with ⟨hp, -⟩ | ⟨-, x, -, ha, he⟩ | ⟨-, fault, -, ha, he⟩
    · exact absurd hs hp
    · rw [ha, he]
      simp [hs, Sound, live, taken, ht, Sampler.resume, Recording.nextSequence_taking x hs,
        ← Nat.add_assoc]
    · rw [ha, he]
      simp [hs, Sound, live, taken, ht, Sampler.resume]
  · simp [hs, Sound, taken, ht, hc]

end Worker

/-! ### What a move does -/

namespace World

variable {w w' : World} {m : Move}

/-- What a move requires and leads to. -/
inductive Moved (w : World) : Move → World → Prop where
  /-- A start of a recording that is not idle is refused at once. -/
  | refused {now : Nat} (free : w.call = .free) (begun : w.session.recording.phase ≠ .idle) :
      Moved w (.start now)
        { w with answers := w.answers ++
          [.started (.error (.refused (w.session.recording.refuse .start)))] }
  /-- A start of an idle recording goes on to launch a sampler. -/
  | opened {now : Nat} (free : w.call = .free) (idle : w.session.recording.phase = .idle) :
      Moved w (.start now)
        { w with
          session := (w.session.start now).state
          call := .starting (w.session.start now).answer }
  | launched {answer : Except SessionFault Unit} (starting : w.call = .starting answer) :
      Moved w .launch
        { w with
          workers :=
            w.workers ++ (w.periodMs.map fun periodMs => { task := .launched periodMs }).toList
          handle := (w.periodMs.map fun _ => w.workers.length).or w.handle
          call := .free
          answers := w.answers ++ [.started answer] }
  | told (free : w.call = .free) :
      Moved w .stop
        { w with workers := w.cancel w.handle, handle := none, call := .stopping w.handle }
  | finished {awaited : Option Nat} (stopping : w.call = .stopping awaited)
      (ended : w.hasEnded awaited = true) :
      Moved w .finish
        { w with
          session := w.session.close.state
          call := .free
          answers := w.answers ++ [.stopped w.session.close.answer] }
  | read :
      Moved w .read { w with answers := w.answers ++ [.read w.session.recording.read] }
  | dropped (free : w.call = .free) :
      Moved w .drop { w with workers := w.cancel w.handle, call := .dropped }
  | worked {i : Nat} {turn : Turn} {worker worker' : Worker} {session' : Session}
      (found : w.workers[i]? = some worker)
      (turned : worker.turn w.session turn = some (worker', session')) :
      Moved w (.work i turn) { w with workers := w.workers.set i worker', session := session' }

private theorem moved_start {now : Nat} (hc : w.call = .free) (h : w.move (.start now) = some w') :
    w.Moved (.start now) w' := by
  simp only [move, hc] at h
  rcases w.session.start_cases now with ⟨hp, ha, hs⟩ | ⟨hp, x, -, ha, -⟩ | ⟨hp, fault, -, ha, -⟩
  · simp only [ha, hs, Option.some.injEq] at h
    rw [← h, ← hc]
    exact .refused hc hp
  all_goals
    simp only [ha, Option.some.injEq] at h
    rw [← h, ← ha]
    exact .opened hc hp

/-- A move is made only where it may be. -/
theorem moved (h : w.move m = some w') : w.Moved m w' := by
  have hm := h
  unfold move at h
  split at h
  · next now hc => exact moved_start hc hm
  · next answer hc =>
    cases h
    exact .launched hc
  · next hc =>
    cases h
    exact .told hc
  · next awaited hc =>
    split at h
    · next he =>
      cases h
      exact .finished hc he
    · cases h
  · cases h
  · cases h
    exact .read
  · next hc =>
    cases h
    exact .dropped hc
  · next i turn =>
    simp only [Option.bind_eq_bind, Option.bind_eq_some_iff] at h
    obtain ⟨worker, hi, ⟨worker', session'⟩, ht, he⟩ := h
    cases he
    exact .worked hi ht
  · cases h

/-- Whatever is done to the session, one of its operations does. -/
theorem session_move (h : w.move m = some w') :
    w'.session = w.session ∨
      ∃ operation now, w'.session = (w.session.serve operation now).state := by
  cases moved h with
  | refused | launched | told | read | dropped => exact .inl rfl
  | @opened now => exact .inr ⟨.start, now, rfl⟩
  | finished => exact .inr ⟨.stop, 0, w.session.close_state⟩
  | worked found turned =>
    rcases Worker.turn_cases turned with ⟨_, _, -, -, -, he⟩ | ⟨_, _, -, -, -, -, -, -, he⟩ |
      ⟨sampler, now, -, -, -, -, he⟩ | ⟨_, -, -, -, -, -, he⟩
    · exact .inl he
    · exact .inl he
    · exact .inr ⟨.sample, now, he.trans (Sampler.wake_state w.session now)⟩
    · exact .inl he

/-- Whatever is done to the recording, it keeps track of what it has captured. -/
theorem keeps_move (h : w.move m = some w') (hk : ∃ records, w.session.recording.Keeps records) :
    ∃ records, w'.session.recording.Keeps records := by
  obtain ⟨records, hk⟩ := hk
  rcases session_move h with he | ⟨operation, now, he⟩
  · exact ⟨records, by rw [he]; exact hk⟩
  · rw [he]
    exact ⟨_, Served.keeps_recording ⟨w.session, operation, now⟩ hk⟩

/-- A stopped recording stays stopped. -/
theorem stopped_move (h : w.move m = some w') (hp : w.session.recording.phase = .stopped) :
    w'.session.recording.phase = .stopped := by
  rcases session_move h with he | ⟨operation, now, he⟩
  · rw [he, hp]
  · rw [he]
    rcases Served.phase_recording ⟨w.session, operation, now⟩ with hs | ⟨hi, -⟩ | ⟨hi, -⟩
    · exact hs.trans hp
    · simp [hp] at hi
    · simp [hp] at hi

end World

/-! ### How far a recorder can have come -/

/-- The recorder is not in a start, and in a stop only if no sampler is awaited. -/
def Call.calm : Call → Bool
  | .free | .stopping none | .dropped => true
  | .starting _ | .stopping (some _) => false

private theorem Call.ne_starting_of_calm {call : Call} (h : call.calm = true)
    (answer : Except SessionFault Unit) : call ≠ .starting answer := by
  rintro rfl
  cases h

private theorem Call.ne_awaiting_of_calm {call : Call} (h : call.calm = true) (i : Nat) :
    call ≠ .stopping (some i) := by
  rintro rfl
  cases h

/-- The answer tells of a first snapshot that was captured. -/
def Answer.tellsFirst : Answer → Bool
  | .started answer => answer.isOk
  | .stopped _ | .read _ => false

namespace World

variable {w w' : World} {m : Move}

/-- How many of the captured snapshots a start has taken, if these are the answers so far. -/
def firstCount (answers : List Answer) : Nat := (answers.any Answer.tellsFirst).toNat

/-- How far a recorder with this period can have come. -/
inductive Course (periodMs : Nat) : World → Prop where
  /-- Nothing has been started. -/
  | idle {session : Session} {call : Call} {answers : List Answer}
      (phase : session.recording.phase = .idle)
      (calm : call.calm = true)
      (fresh : session.recording.nextSequence = 0)
      (silent : firstCount answers = 0) :
      Course periodMs { session, periodMs := some periodMs, call, answers }
  /-- A start has opened the recording. -/
  | opened {session : Session} {answer : Except SessionFault Unit} {answers : List Answer}
      (phase : session.recording.phase = .started)
      (count : session.recording.nextSequence = answer.isOk.toNat)
      (silent : firstCount answers = 0) :
      Course periodMs
        { session, periodMs := some periodMs, call := .starting answer, answers }
  /-- The sampler runs. -/
  | running {session : Session} {worker : Worker} {answers : List Answer}
      (phase : session.recording.phase = .started)
      (live : worker.live = true)
      (willing : worker.cancelled = false)
      (sound : worker.Sound)
      (count : session.recording.nextSequence = firstCount answers + worker.taken) :
      Course periodMs
        { session, periodMs := some periodMs, workers := [worker], handle := some 0, answers }
  /-- A stop has told the sampler to end and waits for it. -/
  | ending {session : Session} {worker : Worker} {answers : List Answer}
      (phase : session.recording.phase = .started)
      (cancelled : worker.cancelled = true)
      (sound : worker.Sound)
      (count : session.recording.nextSequence = firstCount answers + worker.taken) :
      Course periodMs
        { session, periodMs := some periodMs, workers := [worker], call := .stopping (some 0)
          answers }
  /-- The recording is stopped. -/
  | stopped {session : Session} {worker : Worker} {call : Call} {answers : List Answer}
      (phase : session.recording.phase = .stopped)
      (ended : worker.live = false)
      (calm : call.calm = true)
      (count : session.recording.nextSequence = firstCount answers + worker.taken) :
      Course periodMs
        { session, periodMs := some periodMs, workers := [worker], call, answers }
  /-- The recorder is gone and has told the sampler to end. -/
  | abandoned {session : Session} {worker : Worker} {handle : Option Nat} {answers : List Answer}
      (phase : session.recording.phase = .started)
      (cancelled : worker.cancelled = true)
      (sound : worker.Sound)
      (count : session.recording.nextSequence = firstCount answers + worker.taken) :
      Course periodMs
        { session, periodMs := some periodMs, workers := [worker], handle, call := .dropped
          answers }

@[simp] theorem firstCount_stopped (answers : List Answer) (answer : Except Refusal EventView) :
    firstCount (answers ++ [.stopped answer]) = firstCount answers := by
  simp [firstCount, Answer.tellsFirst]

@[simp] theorem firstCount_read (answers : List Answer) (answer : Except Refusal EventView) :
    firstCount (answers ++ [.read answer]) = firstCount answers := by
  simp [firstCount, Answer.tellsFirst]

@[simp] theorem firstCount_refused (answers : List Answer) (fault : SessionFault) :
    firstCount (answers ++ [.started (.error fault)]) = firstCount answers := by
  simp [firstCount, Answer.tellsFirst, Except.isOk, Except.toBool]

private theorem firstCount_started (answers : List Answer) (answer : Except SessionFault Unit)
    (h : firstCount answers = 0) :
    firstCount (answers ++ [.started answer]) = answer.isOk.toNat := by
  have hn : answers.any Answer.tellsFirst = false := by
    cases hn : answers.any Answer.tellsFirst with
    | false => rfl
    | true => simp [firstCount, hn] at h
  simp [firstCount, hn, Answer.tellsFirst]

/-- The answers of a world tell of its course only by the first snapshot. -/
theorem Course.answer {periodMs : Nat} {w : World} {answers : List Answer} (h : Course periodMs w)
    (he : firstCount answers = firstCount w.answers) :
    Course periodMs { w with answers } := by
  cases h with
  | idle phase calm fresh silent => exact .idle phase calm fresh (he.trans silent)
  | opened phase count silent => exact .opened phase count (he.trans silent)
  | running phase live willing sound count =>
    exact .running phase live willing sound (by rw [he]; exact count)
  | ending phase cancelled sound count =>
    exact .ending phase cancelled sound (by rw [he]; exact count)
  | stopped phase ended calm count => exact .stopped phase ended calm (by rw [he]; exact count)
  | abandoned phase cancelled sound count =>
    exact .abandoned phase cancelled sound (by rw [he]; exact count)

/-- Of one sampler only the first can be found. -/
private theorem found_of_singleton {worker found : Worker} {i : Nat}
    (h : [worker][i]? = some found) : i = 0 ∧ worker = found := by
  simpa [List.getElem?_singleton] using h

variable {periodMs : Nat}

theorem Course.start {now : Nat} (h : Course periodMs w) (hm : w.Moved (.start now) w') :
    Course periodMs w' := by
  cases hm with
  | refused => exact h.answer (firstCount_refused ..)
  | opened _ hi =>
    obtain ⟨hs, hn⟩ := Session.start_of_idle hi now
    cases h with
    | idle phase calm fresh silent => exact .opened hs (by rw [hn, fresh, Nat.zero_add]) silent
    | opened phase => simp [phase] at hi
    | running phase => simp [phase] at hi
    | ending phase => simp [phase] at hi
    | stopped phase => simp [phase] at hi
    | abandoned phase => simp [phase] at hi

theorem Course.launch (hp : 0 < periodMs) (h : Course periodMs w) (hm : w.Moved .launch w') :
    Course periodMs w' := by
  cases hm with
  | launched hc =>
    cases h with
    | opened phase count silent =>
      cases hc
      refine .running phase rfl rfl ?_ ?_
      · intro ms hms
        cases hms
        exact hp
      · rw [firstCount_started _ _ silent]
        exact count
    | idle phase calm => exact absurd hc (Call.ne_starting_of_calm calm _)
    | running => cases hc
    | ending => cases hc
    | stopped phase ended calm => exact absurd hc (Call.ne_starting_of_calm calm _)
    | abandoned => cases hc

theorem Course.stop (h : Course periodMs w) (hm : w.Moved .stop w') : Course periodMs w' := by
  cases hm with
  | told hc =>
    cases h with
    | idle phase calm fresh silent => exact .idle phase rfl fresh silent
    | running phase live willing sound count => exact .ending phase rfl sound count
    | stopped phase ended calm count => exact .stopped phase ended rfl count
    | opened => cases hc
    | ending => cases hc
    | abandoned => cases hc

theorem Course.finish (h : Course periodMs w) (hm : w.Moved .finish w') : Course periodMs w' := by
  cases hm with
  | finished hc he =>
    cases h with
    | @idle session call answers phase calm fresh silent =>
      have hs := (Session.close_of_not_started (s := session) (by simp [phase])).2
      simp only [hs]
      exact .idle phase rfl fresh (by simpa using silent)
    | @ending session worker answers phase cancelled sound count =>
      cases hc
      have hs := (Session.close_of_started phase).2
      simp only [hs]
      refine .stopped rfl ?_ rfl (by simpa using count)
      simpa [hasEnded] using he
    | @stopped session worker call answers phase ended calm count =>
      have hs := (Session.close_of_not_started (s := session) (by simp [phase])).2
      simp only [hs]
      exact .stopped phase ended rfl (by simpa using count)
    | opened => cases hc
    | running => cases hc
    | abandoned => cases hc

theorem Course.drop (h : Course periodMs w) (hm : w.Moved .drop w') : Course periodMs w' := by
  cases hm with
  | dropped hc =>
    cases h with
    | idle phase calm fresh silent => exact .idle phase rfl fresh silent
    | running phase live willing sound count => exact .abandoned phase rfl sound count
    | stopped phase ended calm count => exact .stopped phase ended rfl count
    | opened => cases hc
    | ending => cases hc
    | abandoned => cases hc

theorem Course.work {i : Nat} {turn : Turn} (h : Course periodMs w)
    (hm : w.Moved (.work i turn) w') : Course periodMs w' := by
  cases hm with
  | worked hi ht =>
    cases h with
    | idle => simp at hi
    | opened => simp at hi
    | @running session known answers phase live willing sound count =>
      obtain ⟨rfl, rfl⟩ := found_of_singleton hi
      obtain ⟨hs, hw, hc, hl, hn⟩ := Worker.turn_of_started phase sound ht
      exact .running hs (hl willing) (hc.trans willing) hw (hn _ count)
    | @ending session known answers phase cancelled sound count =>
      obtain ⟨rfl, rfl⟩ := found_of_singleton hi
      obtain ⟨hs, hw, hc, -, hn⟩ := Worker.turn_of_started phase sound ht
      exact .ending hs (hc.trans cancelled) hw (hn _ count)
    | @stopped session known call answers phase ended =>
      obtain ⟨rfl, rfl⟩ := found_of_singleton hi
      simp [Worker.live_of_turn ht] at ended
    | @abandoned session known handle answers phase cancelled sound count =>
      obtain ⟨rfl, rfl⟩ := found_of_singleton hi
      obtain ⟨hs, hw, hc, -, hn⟩ := Worker.turn_of_started phase sound ht
      exact .abandoned hs (hc.trans cancelled) hw (hn _ count)

/-- Every move keeps a recorder with a period on its course. -/
theorem Course.move (hp : 0 < periodMs) (h : Course periodMs w) (hm : w.move m = some w') :
    Course periodMs w' := by
  have hm := moved hm
  cases m with
  | start now => exact h.start hm
  | launch => exact h.launch hp hm
  | stop => exact h.stop hm
  | finish => exact h.finish hm
  | read =>
    cases hm
    exact h.answer (firstCount_read ..)
  | drop => exact h.drop hm
  | work i turn => exact h.work hm

/-! ### After the sampler was told to end -/

/-- The one sampler has been told to end, and no other will be launched. -/
structure Waning (w : World) (worker : Worker) : Prop where
  workers_eq : w.workers = [worker]
  cancelled : worker.live = true → worker.cancelled = true
  begun : w.session.recording.phase ≠ .idle
  launched : ∀ answer, w.call ≠ .starting answer

variable {worker : Worker}

private theorem cancel_singleton (h : w.workers = [worker]) (number : Option Nat) :
    w.cancel number = [worker] ∨ w.cancel number = [worker.cancel] := by
  unfold cancel
  split
  · next i =>
    rw [h]
    cases i with
    | zero => exact .inr rfl
    | succ i => exact .inl (by simp)
  · exact .inl h

/-- Telling the sampler to end once more changes nothing. -/
private theorem Waning.cancel (h : w.Waning worker) (number : Option Nat) :
    ∃ worker', w.cancel number = [worker'] ∧ (worker'.live = true → worker'.cancelled = true) ∧
      worker'.pending = worker.pending := by
  rcases cancel_singleton h.workers_eq number with hc | hc
  · exact ⟨worker, hc, h.cancelled, rfl⟩
  · exact ⟨worker.cancel, hc, fun _ => rfl, rfl⟩

/-- A move leaves the probe and the events alone, unless it is the snapshot that was pending; after
that none is. -/
theorem Waning.move (h : w.Waning worker) (hm : w.move m = some w') :
    ∃ worker', w'.Waning worker' ∧
      ((w'.session.sensor = w.session.sensor ∧
        w'.session.recording.events = w.session.recording.events ∧
        (worker.pending = false → worker'.pending = false)) ∨
      (worker.pending = true ∧ worker'.pending = false ∧ w'.calls ≤ w.calls + 1)) := by
  cases moved hm with
  | refused | read =>
    exact ⟨worker, ⟨h.workers_eq, h.cancelled, h.begun, h.launched⟩, .inl ⟨rfl, rfl, id⟩⟩
  | opened _ hi => exact absurd hi h.begun
  | @launched answer hc => exact absurd hc (h.launched answer)
  | told | dropped =>
    obtain ⟨worker', hw, hc, hp⟩ := h.cancel w.handle
    exact ⟨worker', ⟨hw, hc, h.begun, nofun⟩, .inl ⟨rfl, rfl, fun hn => hp.trans hn⟩⟩
  | finished =>
    obtain ⟨hs, he, hp⟩ := w.session.close_keeps
    exact ⟨worker, ⟨h.workers_eq, h.cancelled, hp h.begun, nofun⟩, .inl ⟨hs, he, id⟩⟩
  | @worked i turn found worker' session' hi ht =>
    obtain ⟨rfl, rfl⟩ := found_of_singleton (h.workers_eq ▸ hi)
    have hw : w.workers.set 0 worker' = [worker'] := by rw [h.workers_eq]; rfl
    have hl := Worker.live_of_turn ht
    have hc := h.cancelled hl
    rcases Worker.turn_cases ht with ⟨periodMs, now, -, -, rfl, rfl⟩ |
      ⟨sampler, sampler', -, -, -, -, hk, hn, rfl⟩ | ⟨sampler, now, -, -, hd, rfl, rfl⟩ |
      ⟨sampler, -, -, hd, -, rfl, rfl⟩
    · refine ⟨_, ⟨hw, fun _ => hc, h.begun, h.launched⟩, .inl ⟨rfl, rfl, ?_⟩⟩
      intro hp
      have hd : worker.stance = .resting := by simpa [Worker.pending, hl] using hp
      simp [Worker.pending, hd]
    · refine ⟨_, ⟨hw, fun _ => hk.trans hc, h.begun, h.launched⟩, .inl ⟨rfl, rfl, ?_⟩⟩
      intro hp
      have hd : worker.stance = .resting := by simpa [Worker.pending, hl] using hp
      have hfree := hn hd
      rw [hc] at hfree
      cases hfree
    · obtain ⟨hp, hn⟩ := Sampler.wake_keeps w.session now
      refine ⟨_, ⟨hw, fun _ => hc, by rw [hp]; exact h.begun, h.launched⟩, .inr ⟨?_, ?_, hn⟩⟩
      · simp [Worker.pending, hl, hd]
      · simp [Worker.pending]
    · refine ⟨_, ⟨hw, fun _ => hc, h.begun, h.launched⟩, .inl ⟨rfl, rfl, ?_⟩⟩
      simp [Worker.pending, hd]

/-! ### Runs -/

/-- What every move preserves holds after every run. -/
theorem run_preserves {P : World → Prop}
    (hP : ∀ {w w' : World} {m : Move}, P w → w.move m = some w' → P w')
    {moves : List Move} (h : w.run moves = some w') (hw : P w) : P w' := by
  induction moves generalizing w with
  | nil =>
    cases h
    exact hw
  | cons m moves ih =>
    obtain ⟨next, hm, hr⟩ := Option.bind_eq_some_iff.mp h
    exact ih hr (hP hw hm)

/-- Once nothing is pending, the probe is not called and the events do not change any more. -/
theorem Waning.run_settled {moves : List Move} (hr : w.run moves = some w')
    (h : w.Waning worker) (hn : worker.pending = false) :
    w'.session.sensor = w.session.sensor ∧
    w'.session.recording.events = w.session.recording.events := by
  induction moves generalizing w worker with
  | nil =>
    cases hr
    exact ⟨rfl, rfl⟩
  | cons m moves ih =>
    obtain ⟨next, hm, hr⟩ := Option.bind_eq_some_iff.mp hr
    obtain ⟨worker', hw, ⟨hs, he, hp⟩ | ⟨hp, -⟩⟩ := h.move hm
    · obtain ⟨hs', he'⟩ := ih hr hw (hp hn)
      exact ⟨hs'.trans hs, he'.trans he⟩
    · simp [hn] at hp

/-- A sampler that was told to end calls the probe at most once more. -/
theorem Waning.run_calls {moves : List Move} (hr : w.run moves = some w') (h : w.Waning worker) :
    w'.calls ≤ w.calls + 1 ∧ ∃ worker', w'.Waning worker' := by
  induction moves generalizing w worker with
  | nil =>
    cases hr
    exact ⟨Nat.le_succ _, worker, h⟩
  | cons m moves ih =>
    obtain ⟨next, hm, hr⟩ := Option.bind_eq_some_iff.mp hr
    obtain ⟨worker', hw, ⟨hs, -⟩ | ⟨-, hn, hc⟩⟩ := h.move hm
    · have hi := ih hr hw
      rw [calls, calls, hs] at hi
      exact hi
    · -- The snapshot that was pending is taken, and the rest of the run settles.
      refine ⟨?_, (ih hr hw).2⟩
      rw [calls, (hw.run_settled hr hn).1]
      exact hc

/-- A view that a stop has answered is that of a stopped recording. -/
def Closed (w : World) : Prop :=
  ∀ view, .stopped (.ok view) ∈ w.answers → w.session.recording.phase = .stopped

theorem Closed.move (h : w.Closed) (hm : w.move m = some w') : w'.Closed := by
  intro view hv
  -- An old answer was given by a recording that stays stopped.
  have hold (hw : .stopped (.ok view) ∈ w.answers) : w'.session.recording.phase = .stopped :=
    stopped_move hm (h view hw)
  cases moved hm with
  | refused | launched | read => exact hold (by simpa using hv)
  | opened | told | dropped | worked => exact hold hv
  | finished =>
    by_cases hp : w.session.recording.phase = .started
    · rw [(Session.close_of_started hp).2]
      rfl
    · exact hold (by simpa [(Session.close_of_not_started hp).1] using hv)

/-- What every move of a recorder with this period preserves. -/
structure Inv (periodMs : Nat) (w : World) : Prop where
  course : Course periodMs w
  keeps : ∃ records, w.session.recording.Keeps records
  closed : w.Closed

theorem inv_new (id : Nat) (settings : Settings) (sensor : Sensor)
    (hs : settings.periodMs = some periodMs) : (World.new id settings sensor).Inv periodMs where
  course := by
    unfold World.new
    rw [hs]
    exact .idle rfl rfl rfl rfl
  keeps := ⟨[], Recording.keeps_new id settings⟩
  closed := nofun

theorem Inv.move (hp : 0 < periodMs) (h : w.Inv periodMs) (hm : w.move m = some w') :
    w'.Inv periodMs where
  course := h.course.move hp hm
  keeps := keeps_move hm h.keeps
  closed := h.closed.move hm

theorem Inv.run (hp : 0 < periodMs) (h : w.Inv periodMs) {moves : List Move}
    (hr : w.run moves = some w') : w'.Inv periodMs :=
  run_preserves (fun h hm => h.move hp hm) hr h

/-! ### What the course of a recorder tells -/

theorem Course.length_workers (h : Course periodMs w) : w.workers.length ≤ 1 := by
  cases h <;> simp

/-- A sampler that has not ended finds the recording started. -/
theorem Course.started_of_live (h : Course periodMs w) {worker : Worker} (hw : worker ∈ w.workers)
    (hl : worker.live = true) : w.session.recording.phase = .started := by
  cases h with
  | idle => simp at hw
  | opened phase => exact phase
  | running phase => exact phase
  | ending phase => exact phase
  | stopped phase ended =>
    rw [List.mem_singleton.mp hw, ended] at hl
    cases hl
  | abandoned phase => exact phase

/-- Between calls, a started recording has a sampler that has not ended. -/
theorem Course.live_of_started (h : Course periodMs w) (hc : w.call = .free)
    (hp : w.session.recording.phase = .started) : ∃ worker ∈ w.workers, worker.live = true := by
  cases h with
  | idle phase => simp [phase] at hp
  | opened => cases hc
  | running phase live => exact ⟨_, List.mem_singleton_self _, live⟩
  | ending => cases hc
  | stopped phase => simp [phase] at hp
  | abandoned => cases hc

/-- A stop that awaits a sampler finds the recording started. -/
theorem Course.started_of_awaiting (h : Course periodMs w) {i : Nat}
    (hc : w.call = .stopping (some i)) : w.session.recording.phase = .started := by
  cases h with
  | idle phase calm => exact absurd hc (Call.ne_awaiting_of_calm calm i)
  | opened => cases hc
  | running => cases hc
  | ending phase => exact phase
  | stopped phase ended calm => exact absurd hc (Call.ne_awaiting_of_calm calm i)
  | abandoned => cases hc

/-- A stop that has a sampler to tell leaves it told. -/
theorem Course.waning_of_stop (h : Course periodMs w) {i : Nat} (hi : w.handle = some i)
    (hm : w.move .stop = some w') : ∃ worker, w'.Waning worker := by
  cases moved hm with
  | told hc =>
    cases h with
    | idle => cases hi
    | opened => cases hc
    | running phase => exact ⟨_, rfl, fun _ => rfl, by simp [phase], nofun⟩
    | ending => cases hi
    | stopped => cases hi
    | abandoned => cases hc

/-- Once the recording is stopped nothing is pending. -/
theorem Course.settled_of_stopped (h : Course periodMs w)
    (hp : w.session.recording.phase = .stopped) :
    ∃ worker, w.Waning worker ∧ worker.pending = false := by
  cases h with
  | idle phase => simp [phase] at hp
  | opened phase => simp [phase] at hp
  | running phase => simp [phase] at hp
  | ending phase => simp [phase] at hp
  | stopped phase ended calm =>
    refine ⟨_, ⟨rfl, ?_, ?_, Call.ne_starting_of_calm calm⟩, ?_⟩
    · simp [ended]
    · simp [phase]
    · simp [Worker.pending, ended]
  | abandoned phase => simp [phase] at hp

/-- One if the start has captured a first snapshot, zero if it has not or has not come yet. -/
def initialCount (w : World) : Nat :=
  match w.call with
  | .starting answer => firstCount (w.answers ++ [.started answer])
  | _ => firstCount w.answers

private theorem initialCount_of_calm (h : w.call.calm = true) :
    w.initialCount = firstCount w.answers := by
  unfold initialCount
  split
  · next answer hc => exact absurd hc (Call.ne_starting_of_calm h answer)
  · rfl

/-- Every captured snapshot is the first one or one that the sampler has counted. -/
theorem Course.nextSequence_eq (h : Course periodMs w) :
    w.session.recording.nextSequence = w.initialCount + (w.workers.map Worker.taken).sum := by
  cases h with
  | idle phase calm fresh silent => simp [initialCount_of_calm, calm, silent, fresh]
  | opened phase count silent => simp [initialCount, firstCount_started _ _ silent, count]
  | running phase live willing sound count => simpa [initialCount] using count
  | ending phase cancelled sound count => simpa [initialCount] using count
  | stopped phase ended calm count => simpa [initialCount_of_calm, calm] using count
  | abandoned phase cancelled sound count => simpa [initialCount] using count

/-- The snapshot of a sampler that was told to end is the last event, and nothing is pending
afterwards. -/
theorem Waning.snapshot (h : w.Waning worker) (hp : w.session.recording.phase = .started)
    {i now : Nat} {x : Snapshot} (ho : w.session.outcome now = .ok x)
    (hm : w.move (.work i (.snapshot now)) = some w') :
    w'.session.recording.events.getLast? =
        some { sequence := w.session.recording.nextSequence, snapshot := x } ∧
    ∃ worker', w'.Waning worker' ∧ worker'.pending = false := by
  obtain ⟨worker', hw, -⟩ := h.move hm
  cases moved hm with
  | worked hi ht =>
    obtain ⟨rfl, rfl⟩ := found_of_singleton (h.workers_eq ▸ hi)
    rcases Worker.turn_cases ht with ⟨_, _, hn, -⟩ | ⟨_, _, hn, -⟩ |
      ⟨sampler, then', hn, -, -, rfl, rfl⟩ | ⟨_, hn, -⟩
    · cases hn
    · exact absurd rfl (hn.2 now)
    · cases hn
      constructor
      · rcases Sampler.wake_cases w.session now with ⟨hn, -⟩ | ⟨-, y, hy, -, he⟩ | ⟨-, fault, hy, -⟩
        · exact absurd hp hn
        · rw [ho] at hy
          cases hy
          simp [he, Recording.events_taking x hp]
        · rw [ho] at hy
          cases hy
      · refine ⟨worker', hw, ?_⟩
        have he := hw.workers_eq
        simp only [h.workers_eq, List.set_cons_zero, List.cons.injEq, and_true] at he
        simp [← he, Worker.pending]
    · cases hn

/-! ### What holds in every run -/

/-- A sampler that has not ended is not refused when it wakes. -/
theorem Inv.wake_ne_refused (h : w.Inv periodMs) (hw : worker ∈ w.workers)
    (hl : worker.live = true) (now : Nat) : (Sampler.wake w.session now).answer ≠ .refused := by
  have hstarted := h.course.started_of_live hw hl
  rcases Sampler.wake_cases w.session now with ⟨hn, -⟩ | ⟨-, x, -, ha, -⟩ | ⟨-, fault, -, ha, -⟩
  · exact absurd hstarted hn
  · rw [ha]
    nofun
  · rw [ha]
    nofun

/-- What is held and what was dropped are the first snapshot and those that the sampler counted. -/
theorem Inv.size_add_dropped (h : w.Inv periodMs) :
    w.session.recording.size + w.session.recording.dropped =
      w.initialCount + (w.workers.map Worker.taken).sum := by
  obtain ⟨records, hk⟩ := h.keeps
  rw [← h.course.nextSequence_eq, Ledger.size_eq_length_events, hk.length_events, hk.dropped_eq,
    hk.nextSequence_eq]
  omega

/-- What a sampler captures after it was told to end is the last event that the stop shows. -/
theorem Inv.finish_of_snapshot (hp : 0 < periodMs) (h : w.Inv periodMs) (hw : w.Waning worker)
    {i j now : Nat} {x : Snapshot} {w₁ w₂ w₃ : World} {moves : List Move}
    (ho : w.session.outcome now = .ok x) (hm : w.move (.work j (.snapshot now)) = some w₁)
    (hr : w₁.run moves = some w₂) (hc : w₂.call = .stopping (some i))
    (hf : w₂.move .finish = some w₃) :
    ∃ view, w₃.answers = w₂.answers ++ [.stopped (.ok view)] ∧
      view.events.getLast? =
        some { sequence := w.session.recording.nextSequence, snapshot := x } := by
  -- Only a sampler that has not ended takes a snapshot, so the recording is started.
  have hstarted : w.session.recording.phase = .started := by
    cases moved hm with
    | worked hfound hturn =>
      exact h.course.started_of_live (List.mem_of_getElem? hfound) (Worker.live_of_turn hturn)
  obtain ⟨hlast, worker₁, hw₁, hsettled⟩ := hw.snapshot hstarted ho hm
  have hevents := (hw₁.run_settled hr hsettled).2
  have h₂ : w₂.Inv periodMs := (h.move hp hm).run hp hr
  have hclose := Session.close_of_started (h₂.course.started_of_awaiting hc)
  cases moved hf
  exact ⟨_, by rw [hclose.1], by rw [hevents, hlast]⟩

/-- After a stop has shown its events the probe is not called any more. -/
theorem Inv.calls_of_closed (h : w.Inv periodMs) {view : EventView}
    (hv : .stopped (.ok view) ∈ w.answers) {moves : List Move} (hr : w.run moves = some w') :
    w'.calls = w.calls := by
  obtain ⟨worker, hw, hsettled⟩ := h.course.settled_of_stopped (h.closed view hv)
  rw [calls, calls, (hw.run_settled hr hsettled).1]

end World

end CpuCensus
