import CpuCensus.CommandLine.Program
import CpuCensus.Proofs.RecorderRuns
import CpuCensus.Proofs.VerifiedEvents

/-!
# How a recording command ends

A command that makes a recording starts a recorder, lets its sampler wake any number of times and
stops it. `Gathers` follows the session: it stays started and keeps what the probe has brought so
far. From it the end of a command is told by its settings and by the answers of the probe alone.
-/

namespace CpuCensus

/-! ### What the probe answers -/

/-- What the probe answers when it is called at these times, one after the other. -/
def Sensor.outcomes (s : Sensor) : List Nat → List (Except ProbeFault Snapshot)
  | [] => []
  | now :: times => (s.ask now).1.outcome :: (s.ask now).2.outcomes times

private theorem Sensor.defect?_of_mem_outcomes {s : Sensor} (hs : s.probe.Sound) {times : List Nat}
    {x : Snapshot} (h : .ok x ∈ s.outcomes times) : x.defect? = none := by
  induction times generalizing s with
  | nil => simp [outcomes] at h
  | cons now times ih =>
    rcases List.mem_cons.mp h with he | ht
    · exact hs s.calls now x he.symm
    · exact ih (s := (s.ask now).2) hs ht

/-! ### What a started session gathers -/

/-- The session is started, keeps so many events and has called the probe of this sensor, with these
outcomes. -/
structure Session.Gathers (s : Session) (capacity : Nat) (sensor : Sensor)
    (outcomes : List (Except ProbeFault Snapshot)) : Prop where
  phase_eq : s.recording.phase = .started
  capacity_eq : s.recording.capacity = capacity
  keeps : s.recording.Keeps (outcomes.filterMap Except.toOption)
  sensor_eq : s.sensor = { sensor with calls := sensor.calls + outcomes.length }

namespace Session

variable {s : Session} {capacity : Nat} {sensor : Sensor}
  {outcomes : List (Except ProbeFault Snapshot)}

/-- The first snapshot of a new session, or its fault, is all that it has gathered. -/
theorem gathers_start (id : Nat) (settings : Settings) (sensor : Sensor) (now : Nat) :
    let s : Session := { recording := .new id settings, sensor }
    (s.start now).state.Gathers (max 1 settings.effectiveMaxRecords) sensor [s.outcome now] ∧
    (s.start now).answer = ((s.outcome now).map fun _ => ()).mapError .probe := by
  intro s
  have hk : s.recording.opened.Keeps [] := (Recording.keeps_new id settings).opened rfl
  rcases s.start_cases now with ⟨hp, -⟩ | ⟨-, x, ho, ha, hs⟩ | ⟨-, fault, ho, ha, hs⟩
  · exact absurd rfl hp
  · rw [ha, hs, ho]
    exact ⟨⟨by simp, by rw [Recording.capacity_taking]; rfl, hk.taking rfl x, rfl⟩, rfl⟩
  · rw [ha, hs, ho]
    exact ⟨⟨rfl, rfl, hk, rfl⟩, rfl⟩

/-- A sampler that wakes finds the session started and adds what the probe answers. -/
theorem Gathers.wake (h : s.Gathers capacity sensor outcomes) (now : Nat) :
    (Sampler.wake s now).answer ≠ .refused ∧
    (Sampler.wake s now).state.sensor = s.sensor.asked ∧
    (Sampler.wake s now).state.Gathers capacity sensor (outcomes ++ [s.outcome now]) := by
  have hcalls : s.sensor.asked =
      { sensor with calls := sensor.calls + (outcomes ++ [s.outcome now]).length } := by
    rw [Sensor.asked, h.sensor_eq, List.length_append, List.length_singleton, Nat.add_assoc]
  rcases Sampler.wake_cases s now with ⟨hp, -⟩ | ⟨-, x, ho, ha, hs⟩ | ⟨-, fault, ho, ha, hs⟩
  · exact absurd h.phase_eq hp
  · rw [ha, hs]
    refine ⟨by simp, rfl, ⟨by simp [h.phase_eq], by simp [h.capacity_eq], ?_, hcalls⟩⟩
    rw [ho, List.filterMap_append]
    exact h.keeps.taking h.phase_eq x
  · rw [ha, hs]
    refine ⟨by simp, rfl, ⟨h.phase_eq, h.capacity_eq, ?_, hcalls⟩⟩
    rw [ho, List.filterMap_append]
    exact (List.append_nil _).symm ▸ h.keeps

/-- A sampler that is not refused goes on to its next time. What it met shows only in how many
snapshots it has taken, not in its deadline. -/
theorem attend_cons {now : Nat} (h : (Sampler.wake s now).answer ≠ .refused)
    (sampler : Sampler) (times : List Nat) :
    ∃ taken : Nat, let next : Sampler := { sampler.rearm now with taken }
      (sampler.attend s (now :: times)).answer =
        (next.attend (Sampler.wake s now).state times).answer ∧
      (sampler.attend s (now :: times)).state =
        (next.attend (Sampler.wake s now).state times).state := by
  cases ha : (Sampler.wake s now).answer with
  | taken =>
    refine ⟨sampler.taken + 1, ?_⟩
    simp only [Sampler.attend, ha, Sampler.resume]
    exact ⟨rfl, rfl⟩
  | failed =>
    refine ⟨sampler.taken, ?_⟩
    simp only [Sampler.attend, ha, Sampler.resume]
    exact ⟨rfl, rfl⟩
  | refused => exact absurd ha h

/-- A sampler that wakes at these times adds what the probe answers at each of them. -/
theorem Gathers.attend (h : s.Gathers capacity sensor outcomes) (sampler : Sampler)
    (times : List Nat) :
    (sampler.attend s times).state.Gathers capacity sensor
      (outcomes ++ s.sensor.outcomes times) := by
  induction times generalizing s outcomes sampler with
  | nil => simpa [Sampler.attend, Sensor.outcomes] using h
  | cons now times ih =>
    obtain ⟨ha, hs, hg⟩ := h.wake now
    obtain ⟨taken, -, he⟩ := attend_cons ha sampler times
    -- The later times find the sensor one call further on.
    have hrest := ih hg { sampler.rearm now with taken }
    rw [hs, List.append_assoc] at hrest
    rw [he]
    exact hrest

private theorem mem_captured_iff {x : Snapshot} :
    x ∈ outcomes.filterMap Except.toOption ↔ .ok x ∈ outcomes := by
  rw [List.mem_filterMap]
  constructor
  · rintro ⟨outcome, hmem, ho⟩
    cases outcome with
    | ok y =>
      cases ho
      exact hmem
    | error fault => cases ho
  · intro hmem
    exact ⟨.ok x, hmem, rfl⟩

/-- A session that gathers holds an event once the probe has brought a snapshot. -/
theorem Gathers.events_eq_nil_iff (h : s.Gathers capacity sensor outcomes) :
    s.recording.events = [] ↔ ∀ x, .ok x ∉ outcomes := by
  have hnil : outcomes.filterMap Except.toOption = [] ↔ ∀ x, .ok x ∉ outcomes := by
    rw [List.eq_nil_iff_forall_not_mem]
    exact forall_congr' fun x => not_congr mem_captured_iff
  rw [← hnil]
  exact h.keeps.events_eq_nil_iff

/-- Every event that is held holds a snapshot that the probe has brought. -/
theorem Gathers.mem_outcomes (h : s.Gathers capacity sensor outcomes) {e : Event}
    (he : e ∈ s.recording.events) : .ok e.snapshot ∈ outcomes := by
  exact mem_captured_iff.mp (h.keeps.snapshot_mem he)

end Session

/-- A new recorder that is started has a session that gathers, and the sampler that was asked
for. -/
theorem Recorder.start_new (id : Nat) (settings : Settings) (sensor : Sensor) (now : Nat) :
    ((Recorder.new id settings sensor).start now).answer =
      ((sensor.ask now).1.outcome.map fun _ => ()).mapError .probe ∧
    ∃ session : Session, session.Gathers (max 1 settings.effectiveMaxRecords) sensor
        [(sensor.ask now).1.outcome] ∧
      ((Recorder.new id settings sensor).start now).state =
        { session
          periodMs := settings.periodMs
          sampler := settings.periodMs.map SamplerTask.launched } := by
  obtain ⟨ha, hs⟩ := (Recorder.new id settings sensor).start_eq now
  obtain ⟨hg, hfirst⟩ := Session.gathers_start id settings sensor now
  refine ⟨ha.trans hfirst, _, hg, ?_⟩
  rw [hs, if_pos (by rfl)]
  simp [new]

/-! ### Valid settings -/

namespace Settings

variable {s settings : Settings}

private theorem checked_eq_ok (h : s.checked = .ok settings) : settings = s ∧ s.fault? = none := by
  unfold checked at h
  split at h
  · cases h
  · next hf =>
    cases h
    exact ⟨rfl, hf⟩

/-- Settings without fault have no period of zero. -/
theorem periodMs_pos (h : s.fault? = none) {periodMs : Nat} (hp : s.periodMs = some periodMs) :
    0 < periodMs := by
  by_cases hlt : periodMs < minPeriodMs
  · simp [fault?, hp, hlt] at h
  · unfold minPeriodMs at hlt
    omega

end Settings

/-! ### Making a recording -/

namespace CommandLine

/-- When the sampler of a recording with this period wakes, if it gets these turns. -/
def samplerTimes (periodMs : Option Nat) (turns : Turns) : List Nat :=
  match periodMs with
  | some _ => turns.getD []
  | none => []

/-- When the probe is called for a recording with these turns: at the start, and whenever the
sampler wakes. -/
def RecordingOptions.callTimes (o : RecordingOptions) (turns : Turns) : List Nat :=
  0 :: samplerTimes o.settings.periodMs turns

/-- A recorder that is kept running gathers what its sampler brings. -/
theorem gathers_keepRunning {session : Session} {capacity : Nat} {sensor : Sensor}
    {periodMs : Option Nat} {outcomes : List (Except ProbeFault Snapshot)}
    (h : session.Gathers capacity sensor outcomes)
    (hp : ∀ ms, periodMs = some ms → 0 < ms) (durationMs : Nat) (turns : Turns) :
    let r : Recorder := { session, periodMs, sampler := periodMs.map SamplerTask.launched }
    (keepRunning r durationMs turns).1.session.Gathers capacity sensor
      (outcomes ++ session.sensor.outcomes (samplerTimes periodMs turns)) := by
  intro r
  cases turns with
  | none => cases periodMs <;> simpa [keepRunning, samplerTimes, Sensor.outcomes] using h
  | some times =>
    cases periodMs with
    | none =>
      simpa [keepRunning, Recorder.settle, Recorder.attend, r, samplerTimes, Sensor.outcomes]
        using h
    | some ms =>
      have hpos := hp ms rfl
      simp only [keepRunning, Recorder.settle, Recorder.attend, r, Option.map_some,
        SamplerTask.begin, hpos, SamplerTask.attend, samplerTimes, Option.getD_some]
      exact h.attend _ times

variable {o : RecordingOptions} {settings : Settings}

/-- A recording is started, kept running and stopped, whatever the first snapshot brings. -/
private theorem collect_stages (hv : o.settings.checked = .ok settings) (sensor : Sensor)
    (turns : Turns) :
    let started := (Recorder.new 0 settings sensor).start 0
    let stopped := (keepRunning started.state o.durationMs turns).1.stop (waitTime o.durationMs)
    (collect sensor o turns).answer = conclude started.answer stopped.answer ∧
    (collect sensor o turns).state = stopped.state.session.sensor := by
  intro started stopped
  have hc : o.checkedSettings = .ok settings := by rw [RecordingOptions.checkedSettings, hv]; rfl
  have ha := (Recorder.start_new 0 settings sensor 0).1
  cases ho : (sensor.ask 0).1.outcome with
  | ok x =>
    have hok : ((Recorder.new 0 settings sensor).start 0).answer = .ok () := by rw [ha, ho]; rfl
    simp only [collect, hc, hok, started, stopped, and_self]
  | error fault =>
    have herror : ((Recorder.new 0 settings sensor).start 0).answer = .error (.probe fault) := by
      rw [ha, ho]
      rfl
    simp only [collect, hc, herror, started, stopped, and_self]

/-- A recording with valid settings shows what its session has gathered; the first outcome tells
whether it may be empty. -/
theorem collect_of_valid (hv : o.settings.checked = .ok settings) (sensor : Sensor)
    (turns : Turns) :
    ∃ s : Session, s.Gathers (max 1 settings.effectiveMaxRecords) sensor
        (sensor.outcomes (o.callTimes turns)) ∧
      (collect sensor o turns).state = s.sensor ∧
      (collect sensor o turns).answer =
        conclude (((sensor.ask 0).1.outcome.map fun _ => ()).mapError .probe)
          (.ok { recordingId := s.recording.id, events := s.recording.events }) := by
  obtain ⟨ha, hs⟩ := collect_stages hv sensor turns
  obtain ⟨rfl, hf⟩ := Settings.checked_eq_ok hv
  obtain ⟨hfirst, session, hg, hstate⟩ := Recorder.start_new 0 o.settings sensor 0
  rw [hfirst, hstate] at ha
  rw [hstate] at hs
  have hkept := gathers_keepRunning hg (fun _ => Settings.periodMs_pos hf) o.durationMs turns
  rw [hg.sensor_eq] at hkept
  obtain ⟨hsa, hss⟩ := Recorder.stop_eq (keepRunning _ o.durationMs turns).1 (waitTime o.durationMs)
  obtain ⟨hca, hcs⟩ := Session.close_of_started hkept.phase_eq
  refine ⟨_, hkept, ?_, ?_⟩
  · rw [hs, hss, hcs]
  · rw [ha, hsa, hca]

/-- Settings that are not valid end a recording before it begins. -/
theorem collect_of_invalid {fault : SettingsFault} (hv : o.settings.checked = .error fault)
    (sensor : Sensor) (turns : Turns) :
    collect sensor o turns = { answer := .error (.settings fault), state := sensor } := by
  have hc : o.checkedSettings = .error (.settings fault) := by
    rw [RecordingOptions.checkedSettings, hv]
    rfl
  simp only [collect, hc]

/-- A recording succeeds if the probe has brought anything. -/
theorem collect_of_captured (hv : o.settings.checked = .ok settings) {sensor : Sensor}
    {turns : Turns} {x : Snapshot} (hx : .ok x ∈ sensor.outcomes (o.callTimes turns)) :
    ∃ view, (collect sensor o turns).answer = .ok view ∧ view.events ≠ [] ∧
      ∀ e ∈ view.events, .ok e.snapshot ∈ sensor.outcomes (o.callTimes turns) := by
  obtain ⟨s, hg, -, ha⟩ := collect_of_valid hv sensor turns
  have hne : s.recording.events ≠ [] := fun he => hg.events_eq_nil_iff.mp he x hx
  refine ⟨{ recordingId := s.recording.id, events := s.recording.events }, ?_, hne,
    fun e he => hg.mem_outcomes he⟩
  rw [ha]
  cases (sensor.ask 0).1.outcome with
  | ok x => rfl
  | error fault => exact if_neg (by simpa using hne)

/-- A recording for which the probe has brought nothing fails with its first fault. -/
theorem collect_of_uncaptured (hv : o.settings.checked = .ok settings) {sensor : Sensor}
    {turns : Turns} (hx : ∀ x, .ok x ∉ sensor.outcomes (o.callTimes turns)) :
    ∃ fault, (sensor.outcomes (o.callTimes turns)).head? = some (.error fault) ∧
      (collect sensor o turns).answer = .error (.probe fault) := by
  obtain ⟨s, hg, -, ha⟩ := collect_of_valid hv sensor turns
  have hnil := hg.events_eq_nil_iff.mpr hx
  have hhead : (sensor.outcomes (o.callTimes turns)).head? = some (sensor.ask 0).1.outcome := rfl
  rw [ha, hhead]
  cases ho : (sensor.ask 0).1.outcome with
  | ok x =>
    rw [ho] at hhead
    exact absurd (List.mem_of_head? hhead) (hx x)
  | error fault => exact ⟨fault, rfl, if_pos (by simpa using hnil)⟩

/-! ### Verifying a recording -/

private theorem state_verifyRecording (sensor : Sensor) (o : RecordingOptions) (turns : Turns) :
    (verifyRecording sensor o turns).state = (collect sensor o turns).state := by
  unfold verifyRecording
  simp only
  split
  · rfl
  · split <;> rfl

private theorem verifyRecording_of_error {sensor : Sensor} {turns : Turns} {failure : Failure}
    (h : (collect sensor o turns).answer = .error failure) :
    (verifyRecording sensor o turns).answer = .error failure := by
  simp only [verifyRecording, h]

private theorem verifyRecording_of_ok {sensor : Sensor} {turns : Turns} {view : EventView}
    (h : (collect sensor o turns).answer = .ok view) (hv : view.verify = .ok ()) :
    ∃ output, (verifyRecording sensor o turns).answer = .ok output := by
  simp only [verifyRecording, h, hv]
  exact ⟨_, rfl⟩

/-- Events that a sound probe has brought pass the check. -/
theorem verifyRecording_of_captured (hv : o.settings.checked = .ok settings) {sensor : Sensor}
    (hsound : sensor.probe.Sound) {turns : Turns} {x : Snapshot}
    (hx : .ok x ∈ sensor.outcomes (o.callTimes turns)) :
    ∃ output, (verifyRecording sensor o turns).answer = .ok output := by
  obtain ⟨view, ha, hne, hmem⟩ := collect_of_captured hv hx
  apply verifyRecording_of_ok ha
  apply EventView.verify_of_events hne
  intro e he
  exact Event.verify_of_defect?_eq_none (Sensor.defect?_of_mem_outcomes hsound (hmem e he))

/-- Recording and verifying succeed together, or fail together with a fault of the settings or of
the probe. -/
theorem answers_cases {sensor : Sensor} (hsound : sensor.probe.Sound) (o : RecordingOptions)
    (turns : Turns) :
    (∃ view output, (collect sensor o turns).answer = .ok view ∧
      (verifyRecording sensor o turns).answer = .ok output) ∨
    ∃ failure, (collect sensor o turns).answer = .error failure ∧
      (verifyRecording sensor o turns).answer = .error failure ∧
      ((∃ fault, failure = .settings fault) ∨ ∃ fault, failure = .probe fault) := by
  cases hv : o.settings.checked with
  | error fault =>
    have ha : (collect sensor o turns).answer = .error (.settings fault) := by
      rw [collect_of_invalid hv]
    exact .inr ⟨_, ha, verifyRecording_of_error ha, .inl ⟨fault, rfl⟩⟩
  | ok settings =>
    by_cases hx : ∃ x, .ok x ∈ sensor.outcomes (o.callTimes turns)
    · obtain ⟨x, hx⟩ := hx
      obtain ⟨view, ha, -⟩ := collect_of_captured hv hx
      obtain ⟨output, hb⟩ := verifyRecording_of_captured hv hsound hx
      exact .inl ⟨view, output, ha, hb⟩
    · obtain ⟨fault, -, ha⟩ := collect_of_uncaptured hv (not_exists.mp hx)
      exact .inr ⟨_, ha, verifyRecording_of_error ha, .inr ⟨fault, rfl⟩⟩

/-! ### Main statement -/

/-- However often the sampler of a recording wakes and whatever a sound probe answers: with settings
that are not valid, recording and verifying fail with their fault and the probe is not called. With
valid ones they succeed if the probe has brought anything, and there are events then; otherwise they
fail with the first fault of the probe. So they are never refused, and no event ever breaks the
contract. -/
theorem ends_by_settings_and_outcomes (sensor : Sensor) (o : RecordingOptions) (turns : Turns)
    (hsound : sensor.probe.Sound) :
    let outcomes := sensor.outcomes (o.callTimes turns)
    let recorded := collect sensor o turns
    let verified := verifyRecording sensor o turns
    (∀ fault, o.settings.checked = .error fault →
      recorded.answer = .error (.settings fault) ∧ recorded.state = sensor ∧
      verified.answer = .error (.settings fault) ∧ verified.state = sensor) ∧
    (∀ settings, o.settings.checked = .ok settings →
      recorded.state = { sensor with calls := sensor.calls + outcomes.length } ∧
      verified.state = { sensor with calls := sensor.calls + outcomes.length } ∧
      ((∃ x, .ok x ∈ outcomes) →
        (∃ view, recorded.answer = .ok view ∧ view.events ≠ []) ∧
        ∃ output, verified.answer = .ok output) ∧
      ((∀ x, .ok x ∉ outcomes) → ∃ fault, outcomes.head? = some (.error fault) ∧
        recorded.answer = .error (.probe fault) ∧ verified.answer = .error (.probe fault))) ∧
    (∀ refusal, recorded.answer ≠ .error (.refused refusal) ∧
      verified.answer ≠ .error (.refused refusal)) ∧
    ∀ fault, verified.answer ≠ .error (.verification fault) := by
  intro outcomes recorded verified
  have hstate : verified.state = recorded.state := state_verifyRecording sensor o turns
  refine ⟨?_, ?_, ?_, ?_⟩
  · intro fault hv
    have hc : recorded = { answer := .error (.settings fault), state := sensor } :=
      collect_of_invalid hv sensor turns
    have ha : recorded.answer = .error (.settings fault) := by rw [hc]
    exact ⟨ha, by rw [hc], verifyRecording_of_error ha, by rw [hstate, hc]⟩
  · intro settings hv
    obtain ⟨s, hg, hs, -⟩ := collect_of_valid hv sensor turns
    have hcalls : recorded.state = { sensor with calls := sensor.calls + outcomes.length } :=
      hs.trans hg.sensor_eq
    refine ⟨hcalls, hstate.trans hcalls, ?_, ?_⟩
    · rintro ⟨x, hx⟩
      obtain ⟨view, ha, hne, -⟩ := collect_of_captured hv hx
      exact ⟨⟨view, ha, hne⟩, verifyRecording_of_captured hv hsound hx⟩
    · intro hx
      obtain ⟨fault, hhead, ha⟩ := collect_of_uncaptured hv hx
      exact ⟨fault, hhead, ha, verifyRecording_of_error ha⟩
  · intro refusal
    rcases answers_cases hsound o turns with ⟨view, output, ha, hb⟩ |
      ⟨failure, ha, hb, ⟨fault, rfl⟩ | ⟨fault, rfl⟩⟩ <;>
    simp [recorded, verified, ha, hb]
  · intro fault
    rcases answers_cases hsound o turns with ⟨view, output, -, hb⟩ |
      ⟨failure, -, hb, ⟨fault, rfl⟩ | ⟨fault, rfl⟩⟩ <;>
    simp [verified, hb]

/-- A first snapshot that fails is made up for by later ones, also when only one event is kept. -/
theorem later_snapshots_make_up :
    let sensor : Sensor :=
      { probe := .script [.failure (.unsupportedSystem "linux"),
          .values 8 4 1 "Intel x86_64" "Intel" { seconds := 0, nanos := 0 }] }
    let o : RecordingOptions := { durationMs := 25, periodMs := some 10, maxRecords := some 1 }
    sensor.probe.Sound ∧
    (∃ view, (collect sensor o (some [10, 20])).answer = .ok view ∧ view.events ≠ []) ∧
    ∃ output, (verifyRecording sensor o (some [10, 20])).answer = .ok output := by
  intro sensor o
  have hsound : sensor.probe.Sound := Probe.sound_script _
  obtain ⟨-, hvalid, -⟩ := ends_by_settings_and_outcomes sensor o (some [10, 20]) hsound
  obtain ⟨-, -, hcaptured, -⟩ := hvalid o.settings rfl
  exact ⟨hsound, hcaptured ⟨_, List.mem_cons_of_mem _ List.mem_cons_self⟩⟩

end CommandLine

end CpuCensus
