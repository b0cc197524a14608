import CpuCensus.Proofs.RecordingCommands
import Mathlib

/-!
# Ticks on a steady clock

While time passes without a gap a sampler wakes at its deadlines, and whatever it meets there the
next deadline is one period later. So a recording command calls its probe at the multiples of the
period that lie before the end of its wait, the start being the first. A deadline at the very end is
met only if the sampler is polled there before the command goes on, which is assumed not to happen.
Main statement: how often the probe is called, when, and which of the snapshots it brings are shown.
Nobody waits longer than thirty years, and a command that is asked to ends then.
-/

namespace CpuCensus

/-! ### Deadlines -/

namespace Sampler

/-- The next deadlines of a sampler that always wakes in time. -/
def deadlines (s : Sampler) (count : Nat) : List Nat :=
  (List.range count).map fun k => s.deadline + k * s.periodMs

/-- A wake-up in time moves the deadline on by one period. -/
theorem deadline_rearm (s : Sampler) : (s.rearm s.deadline).deadline = s.deadline + s.periodMs :=
  if_pos (Nat.le_add_right _ _)

private theorem deadlines_succ (s : Sampler) (count taken : Nat) :
    s.deadlines (count + 1) =
      s.deadline :: ({ s.rearm s.deadline with taken } : Sampler).deadlines count := by
  rw [deadlines, deadlines, List.range_succ_eq_map, List.map_cons, List.map_map, Nat.zero_mul,
    Nat.add_zero]
  congr 1
  apply List.map_congr_left
  intro k _
  simp only [Function.comp_apply, deadline_rearm]
  rw [Nat.succ_mul]
  simp only [rearm]
  omega

/-- On a steady clock the sampler wakes at every deadline that has come, and only then. -/
theorem wakeTimes_steady (s : Sampler) (limit : Nat) :
    s.wakeTimes .steady limit = s.deadlines ((limit + s.periodMs - s.deadline) / s.periodMs) := by
  have hpos := s.period_pos
  fun_induction wakeTimes s .steady limit with
  | case1 s hd now ih =>
    have hnow : now = s.deadline := rfl
    rw [ih hpos, hnow, deadline_rearm]
    have hcount : (limit + s.periodMs - s.deadline) / s.periodMs =
        (limit + s.periodMs - (s.deadline + s.periodMs)) / s.periodMs + 1 := by
      rw [← Nat.add_div_right _ hpos]
      congr 1
      omega
    rw [hcount, s.deadlines_succ _ s.taken]
    rfl
  | case2 s hd =>
    rw [Nat.div_eq_of_lt (by omega)]
    rfl

/-- A sampler wakes on a poll if it was not cancelled and its deadline has come. -/
theorem poll_eq_wake_iff {s : Sampler} {cancelled : Bool} {now : Nat} :
    s.poll cancelled now = .wake ↔ cancelled = false ∧ s.deadline ≤ now := by
  unfold poll
  cases cancelled <;> simp

end Sampler

/-- The last instant at which a sampler is polled before it is cancelled at `endMs`. -/
def Resumption.last (order : Resumption) (endMs : Nat) : Nat :=
  match order with
  | .waiterFirst => endMs - 1
  | .samplerFirst => endMs

private theorem Resumption.cancels_eq_false_iff {order : Resumption} {endMs now : Nat}
    (h : 0 < endMs) :
    order.cancels endMs now = false ↔ now ≤ order.last endMs := by
  cases order with
  | waiterFirst =>
    simp only [cancels, last, decide_eq_false_iff_not]
    omega
  | samplerFirst => simp only [cancels, last, decide_eq_false_iff_not, Nat.not_lt]

namespace Sampler

variable (s : Sampler) (order : Resumption) {endMs : Nat}

/-- A sampler that is polled at its deadlines wakes at those that come before it is cancelled. -/
theorem wakeTimesUntil_eq (h : 0 < endMs) :
    s.wakeTimesUntil order endMs = s.wakeTimes .steady (order.last endMs) := by
  fun_induction wakeTimesUntil s order endMs with
  | case1 s hp ih =>
    have hd := (Resumption.cancels_eq_false_iff h).mp (poll_eq_wake_iff.mp hp).1
    rw [wakeTimes, if_pos hd, ih]
    rfl
  | case2 s hp =>
    have hd : ¬ s.deadline ≤ order.last endMs := fun hd =>
      hp (poll_eq_wake_iff.mpr ⟨(Resumption.cancels_eq_false_iff h).mpr hd, Nat.le_refl _⟩)
    rw [wakeTimes, if_neg hd]

/-- A deadline at the very end is met by a sampler that goes on first there, and by no other. -/
theorem end_mem_wakeTimesUntil_iff (h : 0 < endMs) :
    endMs ∈ s.wakeTimesUntil order endMs ↔
      order = .samplerFirst ∧ ∃ k, s.deadline + k * s.periodMs = endMs := by
  have hlt (limit k : Nat) : k < (limit + s.periodMs - s.deadline) / s.periodMs ↔
      s.deadline + k * s.periodMs ≤ limit := by
    have := s.period_pos
    rw [← Nat.succ_le_iff, Nat.le_div_iff_mul_le s.period_pos, Nat.succ_mul]
    omega
  simp only [s.wakeTimesUntil_eq order h, wakeTimes_steady, deadlines, List.mem_map, List.mem_range,
    hlt]
  cases order with
  | waiterFirst =>
    refine ⟨fun ⟨k, hle, he⟩ => ?_, fun ⟨he, _⟩ => by cases he⟩
    rw [he] at hle
    simp only [Resumption.last] at hle
    omega
  | samplerFirst =>
    refine ⟨fun ⟨k, _, he⟩ => ⟨rfl, k, he⟩, fun ⟨_, k, he⟩ => ⟨k, Nat.le_of_eq he, he⟩⟩

end Sampler

/-- A sampler that wakes at its next deadlines goes on, whatever the probe answers, and waits for
the deadline after them. -/
theorem Session.Gathers.attend_deadlines {s : Session} {capacity : Nat} {sensor : Sensor}
    {outcomes : List (Except ProbeFault Snapshot)} (h : s.Gathers capacity sensor outcomes)
    (sampler : Sampler) (count : Nat) :
    ∃ next : Sampler, (sampler.attend s (sampler.deadlines count)).answer = .ticking next ∧
      next.deadline = sampler.deadline + count * sampler.periodMs := by
  induction count generalizing s outcomes sampler with
  | zero => exact ⟨sampler, rfl, by simp⟩
  | succ count ih =>
    obtain ⟨ha, -, hg⟩ := h.wake sampler.deadline
    rw [sampler.deadlines_succ count 0]
    obtain ⟨taken, he, -⟩ := Session.attend_cons ha sampler
      (({ sampler.rearm sampler.deadline with taken := 0 } : Sampler).deadlines count)
    obtain ⟨next, hnext, hd⟩ := ih hg { sampler.rearm sampler.deadline with taken }
    refine ⟨next, he.trans hnext, ?_⟩
    rw [hd]
    simp only [Sampler.deadline_rearm]
    simp only [Sampler.rearm]
    rw [Nat.succ_mul]
    omega

/-- A sampler as it is after its first turn at the start of a run. -/
def Sampler.begun {periodMs : Nat} (h : 0 < waitTime periodMs) : Sampler where
  periodMs := waitTime periodMs
  deadline := 0 + waitTime periodMs
  taken := 0
  period_pos := h

private theorem SamplerTask.begin_launched {periodMs : Nat} (h : 0 < periodMs) :
    (SamplerTask.launched periodMs).begin 0 =
      (.ticking (.begun (waitTime_pos.mpr h)), [.samplerStarted periodMs]) :=
  dif_pos h

/-! ### Ticks before the end of a wait -/

/-- The multiples of a period before the end of a wait, the start not counted. -/
theorem ncard_ticks {periodMs : Nat} (h : 0 < periodMs) (endMs : Nat) :
    {k : ℕ | 1 ≤ k ∧ k * periodMs < endMs}.ncard = (endMs - 1) / periodMs := by
  have hset : {k : ℕ | 1 ≤ k ∧ k * periodMs < endMs} =
      Finset.Icc 1 ((endMs - 1) / periodMs) := by
    ext k
    simp only [Set.mem_ofPred_eq, Finset.coe_Icc, Set.mem_Icc, and_congr_right_iff]
    intro hk
    rw [Nat.le_div_iff_mul_le h]
    have := Nat.mul_pos hk h
    omega
  rw [hset, Set.ncard_coe_finset, Nat.card_Icc, Nat.add_sub_cancel]

/-- A period that is cut is too long for any tick. -/
theorem ticks_waitTime (periodMs durationMs : Nat) :
    (waitTime durationMs - 1) / waitTime periodMs = (waitTime durationMs - 1) / periodMs := by
  by_cases h : periodMs ≤ longestWait
  · rw [waitTime, waitTime, Nat.min_eq_left h]
  · have hd : waitTime durationMs - 1 < longestWait := by
      simp only [waitTime, longestWait]
      omega
    have hp : waitTime periodMs = longestWait := Nat.min_eq_right (by omega)
    rw [hp, Nat.div_eq_of_lt hd, Nat.div_eq_of_lt (by omega)]

/-- A period after which there is a tick is not cut. -/
theorem waitTime_of_tick {periodMs durationMs j : Nat}
    (h : j < (waitTime durationMs - 1) / periodMs) : waitTime periodMs = periodMs := by
  have hle : periodMs ≤ waitTime durationMs - 1 := (Nat.div_pos_iff.mp (Nat.zero_lt_of_lt h)).2
  simp only [waitTime] at hle ⊢
  omega

/-- The deadlines of a sampler before the end of a wait are the multiples of its period. -/
theorem Sampler.deadlines_begun {periodMs durationMs count : Nat} (h : 0 < waitTime periodMs)
    (hcount : count ≤ (waitTime durationMs - 1) / periodMs) :
    (Sampler.begun h).deadlines count = (List.range count).map fun k => (k + 1) * periodMs := by
  apply List.map_congr_left
  intro k hk
  have hp := waitTime_of_tick (Nat.lt_of_lt_of_le (List.mem_range.mp hk) hcount)
  simp only [begun, hp]
  rw [Nat.succ_mul]
  omega

/-! ### Numbered snapshots -/

private theorem map_snapshot_numbered (records : List Snapshot) :
    (numbered records).map Event.snapshot = records := by
  apply List.ext_getElem
  · simp
  · intro i hi hj
    simp [numbered]

private theorem map_sequence_numbered (records : List Snapshot) :
    (numbered records).map Event.sequence = List.range records.length := by
  apply List.ext_getElem
  · simp
  · intro i hi hj
    simp [numbered]

/-- A recording shows the latest of its snapshots that fit, with consecutive numbers up to that of
the last one. -/
theorem Recording.Keeps.told {r : Recording} {records : List Snapshot} (h : r.Keeps records) :
    let kept := min records.length r.capacity
    r.events.map Event.snapshot = records.drop (records.length - kept) ∧
    r.events.map Event.sequence = List.range' (records.length - kept) kept := by
  intro kept
  have hdrop : records.length - r.capacity = records.length - kept := by omega
  rw [h.events_eq, List.map_drop, List.map_drop, map_snapshot_numbered, map_sequence_numbered,
    hdrop, List.range_eq_range', List.drop_range']
  refine ⟨rfl, ?_⟩
  congr 1 <;> omega

/-- The probe is asked in turn, each time with one call more behind it. -/
theorem Sensor.outcomes_eq_mapIdx (s : Sensor) (times : List Nat) :
    s.outcomes times = times.mapIdx fun i now => (s.probe.respond (s.calls + i) now).outcome := by
  induction times generalizing s with
  | nil => rfl
  | cons now times ih =>
    rw [outcomes, ih, List.mapIdx_cons]
    simp only [ask, Nat.add_zero, Nat.add_assoc, Nat.add_comm 1]

private theorem Sensor.outcomes_multiples (s : Sensor) (periodMs count : Nat) :
    s.outcomes ((List.range count).map (· * periodMs)) =
      (List.range count).map fun k => (s.probe.respond (s.calls + k) (k * periodMs)).outcome := by
  rw [outcomes_eq_mapIdx]
  apply List.ext_getElem
  · simp
  · intro i hi hj
    simp

/-! ### Options that are accepted -/

/-- Settings are accepted if each that is given is in its range. -/
theorem Settings.checked_of_bounds {s : Settings}
    (hperiod : ∀ ms, s.periodMs = some ms → 10 ≤ ms)
    (hrecords : ∀ n, s.maxRecords = some n → 1 ≤ n ∧ n ≤ 100000)
    (hname : ∀ name, s.name = some name → Text.isAllBlank name = false) :
    s.checked = .ok s := by
  have h1 : (s.periodMs.bind fun ms =>
      if ms < minPeriodMs then some (SettingsFault.periodTooShort ms) else none) = none := by
    rw [Option.bind_eq_none_iff]
    intro ms hms
    exact if_neg (Nat.not_lt.mpr (hperiod ms hms))
  have h2 : (s.maxRecords.bind fun n => if n = 0 ∨ maxRecordsLimit < n then
      some (SettingsFault.recordsOutOfRange n) else none) = none := by
    rw [Option.bind_eq_none_iff]
    intro n hn
    have := hrecords n hn
    exact if_neg (by rw [maxRecordsLimit]; omega)
  have h3 : (s.name.bind fun name =>
      if Text.isAllBlank name then some SettingsFault.blankName else none) = none := by
    rw [Option.bind_eq_none_iff]
    intro name hn
    rw [hname name hn]
    rfl
  rw [checked, fault?, h1, h2, h3]
  rfl

namespace CommandLine

variable {o : RecordingOptions}

private theorem RecordingOptions.periodMs_settings : o.settings.periodMs = o.periodMs := by
  simp [settings, Settings.standard]

/-- Options are accepted if each that is given is in its range. -/
theorem RecordingOptions.checked_settings
    (hperiod : ∀ ms, o.periodMs = some ms → 10 ≤ ms)
    (hrecords : ∀ n, o.maxRecords = some n → 1 ≤ n ∧ n ≤ 100000)
    (hname : ∀ name, o.name = some name → Text.isAllBlank name = false) :
    o.settings.checked = .ok o.settings := by
  apply Settings.checked_of_bounds
  · intro ms hms
    rw [periodMs_settings] at hms
    exact hperiod ms hms
  · intro n hn
    cases hr : o.maxRecords with
    | none =>
      simp only [settings, hr] at hn
      cases hn
      decide
    | some m =>
      simp only [settings, hr] at hn
      cases hn
      exact hrecords _ hr
  · intro name hn
    cases hr : o.name with
    | none =>
      simp only [settings, hr] at hn
      cases hn
    | some m =>
      simp only [settings, hr] at hn
      cases hn
      exact hname _ hr

/-- A recording keeps as many events as it is asked to, or the standard number. -/
theorem RecordingOptions.capacity_settings (hrecords : ∀ n, o.maxRecords = some n → 1 ≤ n) :
    max 1 o.settings.effectiveMaxRecords = o.maxRecords.getD 10000 := by
  cases hr : o.maxRecords with
  | none =>
    simp only [settings, Settings.effectiveMaxRecords, hr]
    rfl
  | some n =>
    simp only [settings, Settings.effectiveMaxRecords, hr]
    exact Nat.max_eq_right (hrecords n hr)

/-- The sampler of a command wakes at the multiples of its period before the end of the wait. -/
theorem samplerTimes_steadyTurns {periodMs : Nat} (hp : o.settings.periodMs = some periodMs)
    (hpos : 0 < periodMs) :
    samplerTimes o.settings.periodMs (o.steadyTurns assumedResumption) =
      (List.range ((waitTime o.durationMs - 1) / periodMs)).map fun k => (k + 1) * periodMs := by
  rw [hp]
  unfold RecordingOptions.steadyTurns
  split
  · next h0 => simp [samplerTimes, h0, waitTime]
  · next h0 =>
    have hcount : (waitTime o.durationMs - 1 + waitTime periodMs - (0 + waitTime periodMs)) /
        waitTime periodMs = (waitTime o.durationMs - 1) / periodMs := by
      rw [Nat.zero_add, Nat.add_sub_cancel, ticks_waitTime]
    have hend : 0 < waitTime o.durationMs := waitTime_pos.mpr (Nat.pos_of_ne_zero h0)
    simp only [samplerTimes, hp, SamplerTask.begin_launched hpos, SamplerTask.wakeTimesUntil,
      Option.getD_some, Sampler.wakeTimesUntil_eq _ _ hend, Sampler.wakeTimes_steady]
    rw [← Sampler.deadlines_begun (waitTime_pos.mpr hpos) Nat.le.refl, ← hcount]
    rfl

/-- The probe is called at the start and at every tick; without a period there is none. -/
theorem callTimes_steadyTurns (hpos : ∀ ms, o.periodMs = some ms → 0 < ms) :
    o.callTimes (o.steadyTurns assumedResumption) =
      (List.range (1 + (waitTime o.durationMs - 1) / o.periodMs.getD 0)).map
        (· * o.periodMs.getD 0) := by
  cases hp : o.periodMs with
  | none =>
    rw [RecordingOptions.callTimes, RecordingOptions.periodMs_settings, hp, Option.getD_none,
      Nat.div_zero]
    rfl
  | some periodMs =>
    have hps := RecordingOptions.periodMs_settings.trans hp
    rw [RecordingOptions.callTimes, samplerTimes_steadyTurns hps (hpos periodMs hp),
      Option.getD_some, Nat.add_comm 1, List.range_succ_eq_map, List.map_cons, List.map_map,
      Nat.zero_mul]
    rfl

/-- Whatever the first ticks bring, the sampler of a recording waits for the tick after them. -/
theorem deadline_keepRunning {periodMs : Nat} (hp : o.settings.periodMs = some periodMs)
    (hpos : 0 < periodMs) (sensor : Sensor) {j : Nat}
    (hj : j < (waitTime o.durationMs - 1) / periodMs) :
    ∃ sampler : Sampler,
      let started := ((Recorder.new 0 o.settings sensor).start 0).state
      let firstTicks := (List.range j).map fun k => (k + 1) * periodMs
      (keepRunning started o.durationMs (some firstTicks)).1.sampler = some (.ticking sampler) ∧
      sampler.deadline = (j + 1) * periodMs := by
  obtain ⟨-, session, hg, hstate⟩ := Recorder.start_new 0 o.settings sensor 0
  obtain ⟨next, hnext, hd⟩ := hg.attend_deadlines (.begun (waitTime_pos.mpr hpos)) j
  rw [Sampler.deadlines_begun _ (Nat.le_of_lt hj)] at hnext
  refine ⟨next, ?_, ?_⟩
  · rw [hstate, hp]
    simp only [keepRunning, Recorder.settle, Recorder.attend, Option.map_some,
      SamplerTask.begin_launched hpos, SamplerTask.attend, hnext]
  · rw [hd, Nat.succ_mul]
    simp only [Sampler.begun, waitTime_of_tick hj]
    omega

private theorem conclude_eq_ok {started : Except SessionFault Unit} {view shown : EventView}
    (h : conclude started (.ok view) = .ok shown) : shown = view := by
  cases started with
  | ok _ =>
    cases h
    rfl
  | error fault =>
    rw [conclude] at h
    split at h
    · cases h
    · cases h
      rfl

/-- With settings that are accepted, a recording succeeds exactly if the probe has brought
anything. -/
theorem collect_ok_iff {settings : Settings} (hv : o.settings.checked = .ok settings)
    (sensor : Sensor) (turns : Turns) :
    (∃ view, (collect sensor o turns).answer = .ok view) ↔
      (sensor.outcomes (o.callTimes turns)).filterMap Except.toOption ≠ [] := by
  obtain ⟨s, hg, -⟩ := collect_of_valid hv sensor turns
  rw [ne_eq, ← hg.keeps.events_eq_nil_iff, hg.events_eq_nil_iff]
  constructor
  · rintro ⟨view, ha⟩ hx
    obtain ⟨fault, -, he⟩ := collect_of_uncaptured hv hx
    cases ha.symm.trans he
  · intro hx
    obtain ⟨x, hx⟩ := not_forall_not.mp hx
    obtain ⟨view, ha, -⟩ := collect_of_captured hv hx
    exact ⟨view, ha⟩

/-- The probe is called once at the start and once at every tick. -/
theorem state_collect_steady (hv : o.settings.checked = .ok o.settings)
    (hpos : ∀ ms, o.periodMs = some ms → 0 < ms) (sensor : Sensor) :
    (collect sensor o (o.steadyTurns assumedResumption)).state =
      { sensor with
        calls := sensor.calls + (1 + (waitTime o.durationMs - 1) / o.periodMs.getD 0) } := by
  obtain ⟨s, hg, hs, -⟩ := collect_of_valid hv sensor (o.steadyTurns assumedResumption)
  rw [hs, hg.sensor_eq, callTimes_steadyTurns hpos, Sensor.outcomes_multiples]
  simp

/-- The multiples of the period before the end of the wait, counted by a division. -/
theorem ticks_eq_div (hpos : ∀ ms, o.periodMs = some ms → 0 < ms) :
    (if o.periodMs = none then 0 else
      {k : ℕ | 1 ≤ k ∧ k * o.periodMs.getD 0 < min o.durationMs longestWait}.ncard) =
      (waitTime o.durationMs - 1) / o.periodMs.getD 0 := by
  cases hp : o.periodMs with
  | none => simp
  | some ms =>
    rw [if_neg nofun]
    exact ncard_ticks (hpos ms hp) _

/-! ### Main statement -/

/-- A recording with options that are accepted, on a clock without gaps: the probe is called at the
start and at each multiple of the period before the end of the wait, which lasts thirty years at
most, and never at the very end, where the command is assumed to go on before the sampler; without a
period it is called once, however long the wait is. Whatever the probe has answered so far, the
sampler waits for the next multiple. The recording succeeds exactly if a call has brought a
snapshot, and shows the latest of them that fit, with their places among all that were captured. -/
theorem calls_at_multiples (sensor : Sensor) (o : RecordingOptions)
    (hperiod : ∀ ms, o.periodMs = some ms → 10 ≤ ms)
    (hrecords : ∀ n, o.maxRecords = some n → 1 ≤ n ∧ n ≤ 100000)
    (hname : ∀ name, o.name = some name → Text.isAllBlank name = false) :
    let recorded := collect sensor o (o.steadyTurns assumedResumption)
    let periodMs := o.periodMs.getD 0
    let ticks := if o.periodMs = none then 0 else
      {k : ℕ | 1 ≤ k ∧ k * periodMs < min o.durationMs longestWait}.ncard
    let outcomes := (List.range (1 + ticks)).map fun k =>
      (sensor.probe.respond (sensor.calls + k) (k * periodMs)).outcome
    let captured := outcomes.filterMap Except.toOption
    let kept := min captured.length (o.maxRecords.getD 10000)
    recorded.state = { sensor with calls := sensor.calls + (1 + ticks) } ∧
    (∀ j < ticks, ∃ sampler : Sampler,
      let started := ((Recorder.new 0 o.settings sensor).start 0).state
      let firstTicks := (List.range j).map fun k => (k + 1) * periodMs
      (keepRunning started o.durationMs (some firstTicks)).1.sampler = some (.ticking sampler) ∧
      sampler.deadline = (j + 1) * periodMs) ∧
    ((∃ view, recorded.answer = .ok view) ↔ captured ≠ []) ∧
    ∀ view, recorded.answer = .ok view →
      view.events.map Event.snapshot = captured.drop (captured.length - kept) ∧
      view.events.map Event.sequence = List.range' (captured.length - kept) kept := by
  intro recorded periodMs ticks outcomes captured kept
  have hv := RecordingOptions.checked_settings hperiod hrecords hname
  have hpos : ∀ ms, o.periodMs = some ms → 0 < ms := fun ms hms =>
    Nat.lt_of_lt_of_le (by decide) (hperiod ms hms)
  have hticks : ticks = (waitTime o.durationMs - 1) / periodMs := ticks_eq_div hpos
  have houtcomes : sensor.outcomes (o.callTimes (o.steadyTurns assumedResumption)) = outcomes := by
    rw [callTimes_steadyTurns hpos, Sensor.outcomes_multiples, ← hticks]
  obtain ⟨s, hg, hs, ha⟩ := collect_of_valid hv sensor (o.steadyTurns assumedResumption)
  have hok := collect_ok_iff hv sensor (o.steadyTurns assumedResumption)
  rw [houtcomes] at hg hok
  refine ⟨hticks ▸ state_collect_steady hv hpos sensor, ?_, hok, ?_⟩
  · intro j hj
    rw [hticks] at hj
    cases hp : o.periodMs with
    | none => simp [periodMs, hp] at hj
    | some ms =>
      have hps := RecordingOptions.periodMs_settings.trans hp
      have hms : periodMs = ms := by simp [periodMs, hp]
      rw [hms] at hj ⊢
      exact deadline_keepRunning hps (hpos ms hp) sensor hj
  · intro view hview
    have hcapacity : s.recording.capacity = o.maxRecords.getD 10000 :=
      hg.capacity_eq.trans (RecordingOptions.capacity_settings fun n hn => (hrecords n hn).1)
    have hevents := conclude_eq_ok (ha.symm.trans hview)
    have htold := hg.keeps.told
    rw [hcapacity] at htold
    rw [hevents]
    exact htold

/-- A sensor whose second call fails; its snapshots tell when they were taken. -/
def blinkingSensor : Sensor where
  probe.respond call now :=
    { outcome := if call = 1 then .error (.unsupportedSystem "linux") else
        .ok { threads := 2, cores := 1, sockets := 1, cpu := "ARM", description := "ARM"
              startTime := { seconds := now, nanos := 0 } } }

/-- The call that fails does not delay the later ones, and the tick at the very end of the wait is
not taken. -/
theorem third_tick_is_last :
    let o : RecordingOptions := { durationMs := 40, periodMs := some 10, maxRecords := some 2 }
    ((∀ ms, o.periodMs = some ms → 10 ≤ ms) ∧
      (∀ n, o.maxRecords = some n → 1 ≤ n ∧ n ≤ 100000) ∧
      ∀ name, o.name = some name → Text.isAllBlank name = false) ∧
    (collect blinkingSensor o (o.steadyTurns assumedResumption)).state.calls = 4 ∧
    ∃ view, (collect blinkingSensor o (o.steadyTurns assumedResumption)).answer = .ok view ∧
      view.events.map (fun e => e.snapshot.startTime.seconds) = [20, 30] ∧
      view.events.map Event.sequence = [1, 2] := by
  intro o
  have hperiod : ∀ ms, o.periodMs = some ms → 10 ≤ ms := by
    rintro ms ⟨⟩
    decide
  have hrecords : ∀ n, o.maxRecords = some n → 1 ≤ n ∧ n ≤ 100000 := by
    rintro n ⟨⟩
    decide
  have hname : ∀ name, o.name = some name → Text.isAllBlank name = false := by rintro name ⟨⟩
  have hcount : (waitTime o.durationMs - 1) / o.periodMs.getD 0 = 3 := by decide
  have hticks := (ticks_eq_div fun ms hms => Nat.lt_of_lt_of_le (by decide) (hperiod ms hms)).trans
    hcount
  obtain ⟨hstate, -, hok, hshown⟩ := calls_at_multiples blinkingSensor o hperiod hrecords hname
  rw [hticks] at hstate hok hshown
  obtain ⟨view, hview⟩ := hok.mpr (by decide)
  obtain ⟨hsnapshots, hsequences⟩ := hshown view hview
  refine ⟨⟨hperiod, hrecords, hname⟩, congrArg Sensor.calls hstate, view, hview, ?_, hsequences⟩
  have hseconds := congrArg (List.map fun x => x.startTime.seconds) hsnapshots
  rw [List.map_map] at hseconds
  exact hseconds

/-- A wait of more than thirty years is cut, and the ticks after its end are lost. -/
theorem long_wait_loses_tick :
    let o : RecordingOptions := { durationMs := 946080000001, periodMs := some 473040000000 }
    o.settings.checked = .ok o.settings ∧
    1 + {k : ℕ | 1 ≤ k ∧ k * 473040000000 < o.durationMs}.ncard = 3 ∧
    ∀ sensor : Sensor,
      (collect sensor o (o.steadyTurns assumedResumption)).state.calls = sensor.calls + 2 := by
  intro o
  have hv : o.settings.checked = .ok o.settings := rfl
  refine ⟨hv, ?_, ?_⟩
  · rw [ncard_ticks (by decide)]
    change 1 + (946080000001 - 1) / 473040000000 = 3
    norm_num
  · intro sensor
    have hpos : ∀ ms, o.periodMs = some ms → 0 < ms := by
      rintro ms ⟨⟩
      decide
    have hcount : (waitTime o.durationMs - 1) / o.periodMs.getD 0 = 1 := by decide
    rw [state_collect_steady hv hpos, hcount]

end CommandLine

end CpuCensus
