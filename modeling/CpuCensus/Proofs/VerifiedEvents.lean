import CpuCensus.Proofs.HostSnapshots
import CpuCensus.Proofs.RecordedViews

/-!
# Events that pass the check

A probe is sound if it brings only snapshots that were accepted. Such a snapshot has its counts in
order and names its processor by a known token, so the event that holds it passes every check by
field name. Main statement: what is read from a stopped recording passes as a whole exactly if
something was captured, and can fail for no other reason than that it is empty.
-/

namespace CpuCensus

/-! ### Snapshots without defect -/

/-- Whatever the probe brings is without defect. -/
def Probe.Sound (p : Probe) : Prop :=
  ∀ call now x, (p.respond call now).outcome = .ok x → x.defect? = none

private theorem Snapshot.defect?_of_checked {s x : Snapshot} (h : s.checked = .ok x) :
    x.defect? = none := by
  obtain ⟨hd, rfl⟩ := checked_eq_ok_iff.mp h
  exact hd

/-- A scripted probe checks what it brings. -/
theorem Probe.sound_script (answers : List Scripted) : (script answers).Sound := by
  intro call now x h
  unfold script at h
  simp only at h
  split at h
  · next answer ha =>
    cases answer with
    | values => exact Snapshot.defect?_of_checked h
    | failure fault => cases h
  · cases h

/-- A snapshot without defect has its counts in order, and known names. -/
theorem Snapshot.defect?_eq_none {s : Snapshot} (h : s.defect? = none) :
    (1 ≤ s.sockets ∧ s.sockets ≤ s.cores ∧ s.cores ≤ s.threads) ∧
    CpuName.isKnown s.cpu = true ∧ CpuName.isKnown s.description = true := by
  obtain ⟨hcounts, hcpu, hdescription⟩ := defect?_eq_none_iff.mp h
  exact ⟨hcounts, CpuName.isKnown_iff.mpr hcpu, CpuName.isKnown_iff.mpr hdescription⟩

/-! ### Checks by field name -/

private theorem Event.atLeast_one {e : Event} {name : String} {n : Nat}
    (h : e.unsigned name = .ok n) (hn : 0 < n) : e.atLeast name 1 = .ok () := by
  rw [atLeast, h]
  exact if_pos hn

private theorem Event.containsAny_known {e : Event} {name s : String} (h : e.text name = .ok s)
    (hs : CpuName.isKnown s = true) : e.containsAny name CpuName.knownTokens = .ok () := by
  rw [containsAny, h]
  exact if_pos hs

/-- An event whose snapshot is without defect fulfils what every event must. -/
theorem Event.verify_of_defect?_eq_none {e : Event} (h : e.snapshot.defect? = none) :
    e.verify = .ok () := by
  obtain ⟨⟨hs, hsc, hct⟩, hcpu, hdescription⟩ := Snapshot.defect?_eq_none h
  have h1 : e.atLeast "hwThreads" 1 = .ok () := atLeast_one rfl (by omega)
  have h2 : e.atLeast "cores" 1 = .ok () := atLeast_one rfl (by omega)
  have h3 : e.atLeast "sockets" 1 = .ok () := atLeast_one rfl hs
  have h4 : e.containsAny "cpu" CpuName.knownTokens = .ok () := containsAny_known rfl hcpu
  have h5 : e.containsAny "description" CpuName.knownTokens = .ok () :=
    containsAny_known rfl hdescription
  rw [verify, h1, h2, h3, h4, h5]
  rfl

private theorem forM_verify {events : List Event} (h : ∀ e ∈ events, e.verify = .ok ()) :
    events.forM Event.verify = .ok () := by
  induction events with
  | nil => rfl
  | cons e events ih =>
    rw [List.forM, h e List.mem_cons_self]
    exact ih fun e' he => h e' (List.mem_cons_of_mem e he)

/-- Events that are there and fulfil what they must pass as a whole. -/
theorem EventView.verify_of_events {v : EventView} (hne : v.events ≠ [])
    (h : ∀ e ∈ v.events, e.verify = .ok ()) : v.verify = .ok () := by
  have hh : v.hasEvents = .ok () := by
    rw [hasEvents, if_neg]
    simpa using hne
  rw [verify, hh]
  exact forM_verify h

/-- A view without events does not pass. -/
theorem EventView.verify_of_nil {v : EventView} (h : v.events = []) :
    v.verify = .error (.noEvents Snapshot.eventName) := by
  rw [verify, hasEvents, h]
  rfl

/-- Where every event fulfils what it must, only the lack of events is a fault. -/
theorem EventView.verify_eq {v : EventView} (h : ∀ e ∈ v.events, e.verify = .ok ()) :
    v.verify = if v.events = [] then .error (.noEvents Snapshot.eventName) else .ok () := by
  split
  · next hnil => exact verify_of_nil hnil
  · next hne => exact verify_of_events hne h

/-! ### What a run captures from sound probes -/

private theorem Served.defect?_of_captured? {t : Served} {x : Snapshot}
    (hs : t.session.sensor.probe.Sound) (h : t.captured? = some x) : x.defect? = none := by
  unfold captured? at h
  split at h
  · cases ho : t.session.outcome t.now with
    | ok y =>
      rw [ho] at h
      cases h
      exact hs _ _ _ ho
    | error fault =>
      rw [ho] at h
      cases h
  · cases h

namespace Recording

variable {r : Recording}

/-- The sensor that a request of a run uses is the one that it brought. -/
theorem sensor_of_mem_history {requests : List Request} {t : Served}
    (h : t ∈ r.history requests) : ∃ q ∈ requests, t.session.sensor = q.sensor := by
  induction requests generalizing r with
  | nil => cases h
  | cons q requests ih =>
    rcases List.mem_cons.mp h with rfl | ht
    · exact ⟨q, List.mem_cons_self, rfl⟩
    · obtain ⟨q', hq', hs⟩ := ih ht
      exact ⟨q', List.mem_cons_of_mem q hq', hs⟩

private theorem defect?_of_mem_captured {requests : List Request}
    (hsound : ∀ q ∈ requests, q.sensor.probe.Sound) {x : Snapshot}
    (h : x ∈ (r.history requests).filterMap Served.captured?) : x.defect? = none := by
  obtain ⟨t, ht, hx⟩ := List.mem_filterMap.mp h
  obtain ⟨q, hq, hs⟩ := sensor_of_mem_history ht
  exact Served.defect?_of_captured? (hs ▸ hsound q hq) hx

/-- Nothing is held exactly if nothing was captured, however few events are kept. -/
theorem Keeps.events_eq_nil_iff {records : List Snapshot} (h : r.Keeps records) :
    r.events = [] ↔ records = [] := by
  have hlength := h.length_events
  have hpos := h.capacity_pos
  rw [← List.length_eq_zero_iff, ← List.length_eq_zero_iff]
  omega

/-- Every event that is held holds a snapshot that was captured. -/
theorem Keeps.snapshot_mem {records : List Snapshot} (h : r.Keeps records) {e : Event}
    (he : e ∈ r.events) : e.snapshot ∈ records := by
  rw [h.events_eq] at he
  exact mem_of_mem_numbered (List.mem_of_mem_drop he)

/-! ### Main statement -/

/-- Whatever a fresh recording was asked, with whatever sound probes: once it is stopped, its events
can be read, and they pass the check exactly if an accepted start or sample captured a snapshot. If
none did, they fail because there are none; no field is ever missing, of another kind or out of
bounds. The counts of every event that is read are in order. -/
theorem verified_iff_captured (id : Nat) (settings : Settings) (requests : List Request)
    (hsound : ∀ q ∈ requests, q.sensor.probe.Sound)
    (hstopped : ((Recording.new id settings).after requests).phase = .stopped) :
    let captured := ∃ t ∈ (Recording.new id settings).history requests, ∃ x, t.captured? = some x
    ∃ view, ((Recording.new id settings).after requests).read = .ok view ∧
      (view.verify = .ok () ↔ captured) ∧
      (view.verify = .error (.noEvents Snapshot.eventName) ↔ ¬ captured) ∧
      (∀ event name, view.verify ≠ .error (.missing event name)) ∧
      (∀ name expected actual, view.verify ≠ .error (.wrongKind name expected actual)) ∧
      (∀ name value reason, view.verify ≠ .error (.violated name value reason)) ∧
      ∀ e ∈ view.events, 1 ≤ e.snapshot.sockets ∧ e.snapshot.sockets ≤ e.snapshot.cores ∧
        e.snapshot.cores ≤ e.snapshot.threads := by
  intro captured
  let r := (Recording.new id settings).after requests
  have hk := keeps_after _ requests (keeps_new id settings)
  have hsnapshot : ∀ e ∈ r.events, e.snapshot.defect? = none := fun e he =>
    defect?_of_mem_captured hsound (hk.snapshot_mem he)
  have hnil : r.events = [] ↔ ¬ captured := by
    rw [hk.events_eq_nil_iff, List.nil_append, List.filterMap_eq_nil_iff]
    simp [captured, Option.eq_none_iff_forall_ne_some]
  have hverify : r.view.verify =
      if r.events = [] then .error (.noEvents Snapshot.eventName) else .ok () :=
    EventView.verify_eq fun e he => Event.verify_of_defect?_eq_none (hsnapshot e he)
  have hordered : ∀ e ∈ r.view.events, 1 ≤ e.snapshot.sockets ∧
      e.snapshot.sockets ≤ e.snapshot.cores ∧ e.snapshot.cores ≤ e.snapshot.threads :=
    fun e he => (Snapshot.defect?_eq_none (hsnapshot e he)).1
  refine ⟨r.view, read_of_stopped hstopped, ?_⟩
  by_cases hc : captured
  · rw [if_neg fun he => hnil.mp he hc] at hverify
    refine ⟨by simp [hverify, hc], by simp [hverify, hc], ?_, ?_, ?_, hordered⟩ <;> simp [hverify]
  · rw [if_pos (hnil.mpr hc)] at hverify
    refine ⟨by simp [hverify, hc], by simp [hverify, hc], ?_, ?_, ?_, hordered⟩ <;> simp [hverify]

/-- A run whose first snapshot fails, with two more before the stop. -/
def flakyRun : List Request :=
  let probe : Probe := .script [.failure (.unsupportedSystem "linux"),
    .values 8 4 1 "Intel x86_64" "Intel" { seconds := 0, nanos := 0 }]
  [⟨.start, { probe }, 0⟩, ⟨.sample, { probe, calls := 1 }, 1⟩, ⟨.sample, { probe, calls := 2 }, 2⟩,
    ⟨.stop, { probe, calls := 3 }, 3⟩]

/-- The one event that is kept passes, although the first snapshot failed and the second was dropped
to make room. -/
theorem kept_event_verified :
    let new := Recording.new 7 { maxRecords := some 1 }
    (∀ q ∈ flakyRun, q.sensor.probe.Sound) ∧ (new.after flakyRun).phase = .stopped ∧
    (new.after flakyRun).events.map Event.sequence = [1] ∧
    ∃ view, (new.after flakyRun).read = .ok view ∧ view.verify = .ok () := by
  have hsound : ∀ q ∈ flakyRun, q.sensor.probe.Sound := by
    intro q hq
    simp only [flakyRun, List.mem_cons, List.not_mem_nil, or_false] at hq
    rcases hq with rfl | rfl | rfl | rfl <;> exact Probe.sound_script _
  have hstopped : ((Recording.new 7 { maxRecords := some 1 }).after flakyRun).phase = .stopped := by
    decide +kernel
  have hcaptured : (((Recording.new 7 { maxRecords := some 1 }).history flakyRun).filterMap
      Served.captured?).length = 2 := by
    decide +kernel
  have h := verified_iff_captured 7 { maxRecords := some 1 } flakyRun hsound hstopped
  simp only at h ⊢
  obtain ⟨view, hread, hverify, -⟩ := h
  refine ⟨hsound, hstopped, by decide +kernel, view, hread, hverify.mpr ?_⟩
  obtain ⟨x, hx⟩ := List.length_pos_iff_exists_mem.mp (hcaptured ▸ Nat.two_pos)
  obtain ⟨t, ht, htx⟩ := List.mem_filterMap.mp hx
  exact ⟨t, ht, x, htx⟩

end Recording

end CpuCensus
