import CpuCensus.Proofs.RecordedViews

/-!
# Recordings side by side

A desk holds any number of recordings and the sensors with which they are asked; several recordings
may be asked with the same sensor. What an operation does depends on its recording and on what the
probe answers, and on nothing else (`Session.serve_eq_perform`). So as long as no probe minds how
often it was called, a recording does not notice the others: `AlikeAt.run` compares any run of the
desk with a run in which one recording is asked alone.
-/

namespace CpuCensus

/-! ### Start times set aside -/

/-- The snapshot with its start time told through `f`. -/
def Snapshot.restamp (f : Instant → Instant) (x : Snapshot) : Snapshot :=
  { x with startTime := f x.startTime }

/-- The event with its start time told through `f`. -/
def Event.restamp (f : Instant → Instant) (e : Event) : Event :=
  { e with snapshot := e.snapshot.restamp f }

/-- The reply with all start times told through `f`. -/
def Reply.restamp (f : Instant → Instant) : Reply → Reply
  | .view shown => .view { shown with events := shown.events.map (Event.restamp f) }
  | reply => reply

/-- Forget a start time. -/
def timeless (_ : Instant) : Instant := { seconds := 0, nanos := 0 }

@[simp] theorem Event.restamp_id : Event.restamp id = id := rfl

@[simp] theorem Reply.restamp_id : Reply.restamp id = id := by
  funext reply
  cases reply <;> simp [Reply.restamp]

/-! ### What an operation depends on -/

/-- What comes of a snapshot that a started recording asks for. -/
def Recording.probed (r : Recording) :
    Except ProbeFault Snapshot → Except SessionFault Reply × Recording
  | .ok x => (.ok .done, r.taking x)
  | .error fault => (.error (.probe fault), r)

/-- The answer of an operation and the recording that it leaves, if the probe answers so. -/
def Operation.perform (operation : Operation) (r : Recording)
    (outcome : Except ProbeFault Snapshot) : Except SessionFault Reply × Recording :=
  if r.phase = operation.needs then
    match operation with
    | .start => r.opened.probed outcome
    | .sample => r.probed outcome
    | .stop => (.ok (.kept r.size), r.frozen)
    | .read => (.ok (.view r.view), r)
  else (.error (.refused (r.refuse operation)), r)

namespace Session

variable (s : Session) (operation : Operation) (now : Nat)

/-- An operation sees its recording and what the probe answers, and nothing else. -/
theorem serve_eq_perform :
    (s.serve operation now).answer = (operation.perform s.recording (s.outcome now)).1 ∧
    (s.serve operation now).state.recording =
      (operation.perform s.recording (s.outcome now)).2 := by
  unfold Operation.perform
  rcases s.serve_cases operation now with ⟨hp, ha, hs⟩ | ⟨hp, hq, x, ho, ha, hs⟩ |
    ⟨hp, hq, fault, ho, ha, hs⟩ | ⟨hp, rfl, ha, hs⟩ | ⟨hp, rfl, ha, hs⟩
  · rw [if_neg hp, ha, hs]
    exact ⟨rfl, rfl⟩
  · rw [if_pos hp, ha, hs, ho]
    cases operation with
    | start => exact ⟨rfl, rfl⟩
    | sample => exact ⟨rfl, rfl⟩
    | stop => cases hq
    | read => cases hq
  · rw [if_pos hp, ha, hs, ho]
    cases operation with
    | start => exact ⟨rfl, rfl⟩
    | sample => exact ⟨rfl, rfl⟩
    | stop => cases hq
    | read => cases hq
  · rw [if_pos hp, ha, hs]
    exact ⟨rfl, rfl⟩
  · rw [if_pos hp, ha, hs]
    exact ⟨rfl, rfl⟩

/-- No operation exchanges the probe. -/
theorem probe_serve : (s.serve operation now).state.sensor.probe = s.sensor.probe := by
  rcases s.serve_cases operation now with ⟨-, -, hs⟩ | ⟨-, -, x, -, -, hs⟩ |
    ⟨-, -, fault, -, -, hs⟩ | ⟨-, -, -, hs⟩ | ⟨-, -, -, hs⟩ <;>
  rw [hs] <;> rfl

end Session

/-! ### Recordings that differ in start times only -/

namespace Recording

/-- The recordings are the same, but for what `f` does not tell about start times. -/
structure Alike (f : Instant → Instant) (r r' : Recording) : Prop where
  id_eq : r.id = r'.id
  capacity_eq : r.capacity = r'.capacity
  nextSequence_eq : r.nextSequence = r'.nextSequence
  dropped_eq : r.dropped = r'.dropped
  phase_eq : r.phase = r'.phase
  events_eq : r.events.map (Event.restamp f) = r'.events.map (Event.restamp f)

variable {f : Instant → Instant} {r r' : Recording}

private theorem alike_refl (f : Instant → Instant) (r : Recording) : r.Alike f r :=
  ⟨rfl, rfl, rfl, rfl, rfl, rfl⟩

theorem Alike.length_events (h : r.Alike f r') : r.events.length = r'.events.length := by
  simpa using congrArg List.length h.events_eq

theorem Alike.size_eq (h : r.Alike f r') : r.size = r'.size := by
  rw [Ledger.size_eq_length_events, Ledger.size_eq_length_events, h.length_events]

theorem Alike.opened (h : r.Alike f r') : r.opened.Alike f r'.opened where
  id_eq := h.id_eq
  capacity_eq := h.capacity_eq
  nextSequence_eq := h.nextSequence_eq
  dropped_eq := h.dropped_eq
  phase_eq := rfl
  events_eq := rfl

theorem Alike.frozen (h : r.Alike f r') : r.frozen.Alike f r'.frozen where
  id_eq := h.id_eq
  capacity_eq := h.capacity_eq
  nextSequence_eq := h.nextSequence_eq
  dropped_eq := h.dropped_eq
  phase_eq := rfl
  events_eq := h.events_eq

/-- Both make room or neither does, and what is added is the same but for its start time. -/
theorem Alike.taking {x x' : Snapshot} (h : r.Alike f r') (hs : r.phase = .started)
    (hx : x.restamp f = x'.restamp f) : (r.taking x).Alike f (r'.taking x') := by
  have hs' : r'.phase = .started := h.phase_eq.symm.trans hs
  constructor
  · rw [id_taking, id_taking, h.id_eq]
  · rw [capacity_taking, capacity_taking, h.capacity_eq]
  · rw [nextSequence_taking x hs, nextSequence_taking x' hs', h.nextSequence_eq]
  · rw [dropped_taking x hs, dropped_taking x' hs', h.dropped_eq, h.length_events, h.capacity_eq]
  · rw [phase_taking, phase_taking, h.phase_eq]
  · have hlast : Event.restamp f { sequence := r.nextSequence, snapshot := x } =
        Event.restamp f { sequence := r'.nextSequence, snapshot := x' } := by
      rw [Event.restamp, Event.restamp, hx, h.nextSequence_eq]
    rw [events_taking x hs, events_taking x' hs', h.length_events, h.capacity_eq]
    simp only [List.map_append, List.map_cons, List.map_nil, hlast]
    split
    · rw [h.events_eq]
    · rw [List.map_tail, List.map_tail, h.events_eq]

/-- A snapshot that the probe brings to both or to neither leaves them alike. -/
theorem Alike.probed {outcome outcome' : Except ProbeFault Snapshot} (h : r.Alike f r')
    (hs : r.phase = .started)
    (ho : outcome.map (Snapshot.restamp f) = outcome'.map (Snapshot.restamp f)) :
    (r.probed outcome).1.map (Reply.restamp f) = (r'.probed outcome').1.map (Reply.restamp f) ∧
    (r.probed outcome).2.Alike f (r'.probed outcome').2 := by
  cases outcome with
  | ok x =>
    cases outcome' with
    | ok x' => exact ⟨rfl, h.taking hs (Except.ok.inj ho)⟩
    | error fault => cases ho
  | error fault =>
    cases outcome' with
    | ok x' => cases ho
    | error fault' =>
      cases ho
      exact ⟨rfl, h⟩

/-- An operation answers alike and leaves alike recordings, if the probe answers alike. -/
theorem Alike.perform {outcome outcome' : Except ProbeFault Snapshot} (h : r.Alike f r')
    (ho : outcome.map (Snapshot.restamp f) = outcome'.map (Snapshot.restamp f))
    (operation : Operation) :
    (operation.perform r outcome).1.map (Reply.restamp f) =
      (operation.perform r' outcome').1.map (Reply.restamp f) ∧
    (operation.perform r outcome).2.Alike f (operation.perform r' outcome').2 := by
  unfold Operation.perform
  rw [← h.phase_eq]
  split
  · next hp =>
    cases operation with
    | start => exact h.opened.probed rfl ho
    | sample => exact h.probed hp ho
    | stop =>
      refine ⟨?_, h.frozen⟩
      rw [h.size_eq]
    | read =>
      refine ⟨?_, h⟩
      simp only [Except.map, Reply.restamp, Recording.view, h.id_eq, h.events_eq]
  · refine ⟨?_, h⟩
    rw [Ledger.refuse, Ledger.refuse, h.phase_eq]

end Recording

/-! ### Probes that do not count their calls -/

namespace Probe

/-- What the probe answers does not depend on how often it was called before. -/
def Forgetful (p : Probe) : Prop :=
  ∀ call call' now, (p.respond call now).outcome = (p.respond call' now).outcome

/-- Whenever and however often it is called, the probe answers the same but for the start time. -/
def Constant (p : Probe) : Prop :=
  ∀ call call' now now',
    (p.respond call now).outcome.map (Snapshot.restamp timeless) =
      (p.respond call' now').outcome.map (Snapshot.restamp timeless)

/-- A snapshot is accepted or not whatever its start time is. -/
theorem constant_fixed (clock : Clock) (threads cores sockets : Nat) (cpu description : String) :
    (fixed clock threads cores sockets cpu description).Constant := by
  intro call call' now now'
  have hdefect (t t' : Instant) :
      Snapshot.defect? ⟨threads, cores, sockets, cpu, description, t⟩ =
        Snapshot.defect? ⟨threads, cores, sockets, cpu, description, t'⟩ := rfl
  simp only [fixed, Snapshot.checked, hdefect (clock now) (clock now')]
  split <;> rfl

private theorem constant_unsupported : unsupported.Constant := fun _ _ _ _ => rfl

private theorem forgetful_fixed (clock : Clock) (threads cores sockets : Nat)
    (cpu description : String) :
    (fixed clock threads cores sockets cpu description).Forgetful := fun _ _ _ => rfl

private theorem forgetful_unsupported : unsupported.Forgetful := fun _ _ _ => rfl

end Probe

/-! ### A desk of recordings -/

/-- Recordings, and the sensors with which they are asked. -/
structure Desk (ι κ : Type) where
  recordings : ι → Recording
  sensors : κ → Sensor

/-- An operation that is asked of one recording at some time, with one of the sensors. -/
structure Desk.Request (ι κ : Type) where
  recording : ι
  sensor : κ
  operation : Operation
  now : Nat

namespace Desk

variable {ι κ : Type}

/-- Fresh recordings, and probes that nobody has called. -/
def new (ids : ι → Nat) (settings : ι → Settings) (probes : κ → Probe) : Desk ι κ where
  recordings i := Recording.new (ids i) (settings i)
  sensors k := { probe := probes k }

/-- The session that a request finds. -/
def session (d : Desk ι κ) (q : Request ι κ) : Session where
  recording := d.recordings q.recording
  sensor := d.sensors q.sensor

section serving

variable [DecidableEq ι] [DecidableEq κ]

/-- Serve a request: the recording and the sensor that it names may change, and no other. -/
def serve (d : Desk ι κ) (q : Request ι κ) : Step (Desk ι κ) (Except SessionFault Reply) :=
  let step := (d.session q).serve q.operation q.now
  { answer := step.answer
    state :=
      { recordings := Function.update d.recordings q.recording step.state.recording
        sensors := Function.update d.sensors q.sensor step.state.sensor }
    notices := step.notices }

/-- The desk after these requests. -/
def after (d : Desk ι κ) : List (Request ι κ) → Desk ι κ
  | [] => d
  | q :: requests => (d.serve q).state.after requests

/-- What a recording answers to those of the requests that are for it, in their order. -/
def answers (d : Desk ι κ) (i : ι) : List (Request ι κ) → List (Except SessionFault Reply)
  | [] => []
  | q :: requests =>
    let rest := (d.serve q).state.answers i requests
    if q.recording = i then (d.serve q).answer :: rest else rest

end serving

/-- Two requests ask the same, at the same time or not. -/
structure Request.Same (q q' : Request ι κ) : Prop where
  recording_eq : q.recording = q'.recording
  sensor_eq : q.sensor = q'.sensor
  operation_eq : q.operation = q'.operation

/-- Two requests ask the same, and the probe answers both alike, however often it was called. -/
structure Request.Alike (f : Instant → Instant) (probes : κ → Probe) (q q' : Request ι κ) : Prop
    extends q.Same q' where
  outcome_eq : ∀ call call',
    ((probes q.sensor).respond call q.now).outcome.map (Snapshot.restamp f) =
      ((probes q.sensor).respond call' q'.now).outcome.map (Snapshot.restamp f)

/-- A recording is alike on two desks with these probes; the other recordings may be anything. -/
structure AlikeAt (f : Instant → Instant) (probes : κ → Probe) (i : ι) (d d' : Desk ι κ) :
    Prop where
  recording : (d.recordings i).Alike f (d'.recordings i)
  probe_left : ∀ k, (d.sensors k).probe = probes k
  probe_right : ∀ k, (d'.sensors k).probe = probes k

private theorem alikeAt_new (f : Instant → Instant) (ids : ι → Nat) (settings : ι → Settings)
    (probes : κ → Probe) (i : ι) :
    AlikeAt f probes i (new ids settings probes) (new ids settings probes) :=
  ⟨Recording.alike_refl f _, fun _ => rfl, fun _ => rfl⟩

variable {f : Instant → Instant} {probes : κ → Probe} {i : ι} {d d' : Desk ι κ}
  {q q' : Request ι κ} [DecidableEq ι] [DecidableEq κ]

/-- A request exchanges no probe of the desk. -/
theorem probe_serve (d : Desk ι κ) (q : Request ι κ) (k : κ) :
    ((d.serve q).state.sensors k).probe = (d.sensors k).probe := by
  simp only [serve]
  by_cases hk : k = q.sensor
  · subst hk
    rw [Function.update_self, Session.probe_serve]
    rfl
  · rw [Function.update_of_ne hk]

/-- A request for another recording goes unnoticed. -/
theorem AlikeAt.serve_other (h : AlikeAt f probes i d d') (hq : q.recording ≠ i) :
    AlikeAt f probes i (d.serve q).state d' where
  recording := by
    simp only [serve]
    rw [Function.update_of_ne hq.symm]
    exact h.recording
  probe_left k := (d.probe_serve q k).trans (h.probe_left k)
  probe_right := h.probe_right

/-- The same request is answered alike on both desks and leaves the recording alike. -/
theorem AlikeAt.serve_own (h : AlikeAt f probes i d d') (hq : q.recording = i)
    (hs : q.Alike f probes q') :
    (d.serve q).answer.map (Reply.restamp f) = (d'.serve q').answer.map (Reply.restamp f) ∧
    AlikeAt f probes i (d.serve q).state (d'.serve q').state := by
  have hq' : q'.recording = i := hs.recording_eq.symm.trans hq
  have hr : (d.session q).recording.Alike f (d'.session q').recording := by
    simp only [session, hq, hq']
    exact h.recording
  have ho : ((d.session q).outcome q.now).map (Snapshot.restamp f) =
      ((d'.session q').outcome q'.now).map (Snapshot.restamp f) := by
    simp only [Session.outcome, session, h.probe_left, h.probe_right, ← hs.sensor_eq]
    exact hs.outcome_eq _ _
  obtain ⟨ha, hstate⟩ := hr.perform ho q.operation
  obtain ⟨hanswer, hleft⟩ := (d.session q).serve_eq_perform q.operation q.now
  obtain ⟨hanswer', hleft'⟩ := (d'.session q').serve_eq_perform q.operation q'.now
  refine ⟨?_, ?_, ?_, ?_⟩
  · simp only [serve, ← hs.operation_eq, hanswer, hanswer']
    exact ha
  · simp only [serve, ← hs.operation_eq, hq, hq', Function.update_self, hleft, hleft']
    exact hstate
  · exact fun k => (d.probe_serve q k).trans (h.probe_left k)
  · exact fun k => (d'.probe_serve q' k).trans (h.probe_right k)

/-- Whatever else is asked in between, a recording answers its own requests as it does alone. -/
theorem AlikeAt.run {requests own : List (Request ι κ)} (h : AlikeAt f probes i d d')
    (hown : List.Forall₂ (Request.Alike f probes)
      (requests.filter fun q => q.recording = i) own) :
    (d.answers i requests).map (Except.map (Reply.restamp f)) =
      (d'.answers i own).map (Except.map (Reply.restamp f)) ∧
    AlikeAt f probes i (d.after requests) (d'.after own) := by
  induction requests generalizing d d' own with
  | nil =>
    cases hown
    exact ⟨rfl, h⟩
  | cons q requests ih =>
    by_cases hq : q.recording = i
    · rw [List.filter_cons_of_pos (by simpa using hq)] at hown
      obtain ⟨q', own', hs, hrest, rfl⟩ := List.forall₂_cons_left_iff.mp hown
      have hq' : q'.recording = i := hs.recording_eq.symm.trans hq
      obtain ⟨ha, hnext⟩ := h.serve_own hq hs
      obtain ⟨has, hlast⟩ := ih hnext hrest
      refine ⟨?_, hlast⟩
      rw [answers, answers, if_pos hq, if_pos hq', List.map_cons, List.map_cons, ha, has]
    · rw [List.filter_cons_of_neg (by simpa using hq)] at hown
      obtain ⟨has, hlast⟩ := ih (h.serve_other hq) hown
      refine ⟨?_, hlast⟩
      rw [answers, if_neg hq, has]

/-! ### Main statement -/

/-- Whatever recordings there are and whatever is asked of them, in any order and with any sensors
in common: if no probe minds how often it was called, each recording answers its own requests and
ends as it does when they are the only ones. If the probes are constant, their own requests may even
come at other times, and only start times differ. -/
theorem sessions_do_not_interfere (ids : ι → Nat) (settings : ι → Settings) (probes : κ → Probe)
    (requests : List (Desk.Request ι κ)) (i : ι) :
    let desk := Desk.new ids settings probes
    let own := requests.filter fun q => q.recording = i
    let r := (desk.after requests).recordings i
    ((∀ k, (probes k).Forgetful) →
      let alone := (desk.after own).recordings i
      desk.answers i requests = desk.answers i own ∧
      r.phase = alone.phase ∧ r.size = alone.size ∧ r.dropped = alone.dropped ∧
      r.events = alone.events) ∧
    ((∀ k, (probes k).Constant) → ∀ retimed, List.Forall₂ Request.Same own retimed →
      let alone := (desk.after retimed).recordings i
      (desk.answers i requests).map (Except.map (Reply.restamp timeless)) =
        (desk.answers i retimed).map (Except.map (Reply.restamp timeless)) ∧
      r.phase = alone.phase ∧ r.size = alone.size ∧ r.dropped = alone.dropped ∧
      r.events.map (Event.restamp timeless) = alone.events.map (Event.restamp timeless)) := by
  intro desk own r
  constructor
  · intro hp alone
    have hsame : List.Forall₂ (Request.Alike id probes) own own := by
      refine List.forall₂_same.mpr fun q _ => ⟨⟨rfl, rfl, rfl⟩, fun call call' => ?_⟩
      rw [hp q.sensor call call']
    obtain ⟨ha, h⟩ := (alikeAt_new id ids settings probes i).run hsame
    have he := h.recording.events_eq
    rw [Reply.restamp_id, Except.map_id, List.map_id, List.map_id] at ha
    rw [Event.restamp_id, List.map_id, List.map_id] at he
    exact ⟨ha, h.recording.phase_eq, h.recording.size_eq, h.recording.dropped_eq, he⟩
  · intro hp retimed hretimed alone
    have hsame : List.Forall₂ (Request.Alike timeless probes) own retimed :=
      hretimed.imp fun q q' hs => ⟨hs, fun call call' => hp q.sensor call call' q.now q'.now⟩
    obtain ⟨ha, h⟩ := (alikeAt_new timeless ids settings probes i).run hsame
    exact ⟨ha, h.recording.phase_eq, h.recording.size_eq, h.recording.dropped_eq,
      h.recording.events_eq⟩

/-- One probe that answers and one that cannot. -/
def sharedProbes : Bool → Probe
  | true => .fixed (Clock.startingAt { seconds := 0, nanos := 0 }) 4 2 1 "ARM" "ARM"
  | false => .unsupported

/-- The first recording keeps a single event. -/
def smallFirst (i : Bool) : Settings := { maxRecords := if i then some 1 else none }

/-- Two fresh recordings that share both probes. -/
def sharedDesk : Desk Bool Bool := Desk.new Bool.toNat smallFirst sharedProbes

/-- Two recordings are asked in turn, with both probes. -/
def mixedRequests : List (Request Bool Bool) :=
  [⟨true, true, .start, 0⟩, ⟨false, false, .start, 1⟩, ⟨false, true, .sample, 2⟩,
    ⟨true, false, .sample, 3⟩, ⟨true, true, .sample, 4⟩, ⟨false, true, .stop, 5⟩,
    ⟨true, true, .stop, 6⟩, ⟨false, true, .sample, 7⟩, ⟨true, true, .read, 8⟩]

/-- The requests of the first recording, at later times. -/
def laterRequests : List (Request Bool Bool) :=
  [⟨true, true, .start, 10⟩, ⟨true, false, .sample, 20⟩, ⟨true, true, .sample, 30⟩,
    ⟨true, true, .stop, 40⟩, ⟨true, true, .read, 50⟩]

/-- The first recording keeps one event of two. Asked alone and later, it answers the same but for
start times. -/
theorem shared_probes_go_unnoticed :
    (∀ k, (sharedProbes k).Forgetful) ∧ (∀ k, (sharedProbes k).Constant) ∧
    List.Forall₂ Request.Same (mixedRequests.filter fun q => q.recording = true) laterRequests ∧
    sharedDesk.answers true mixedRequests =
      sharedDesk.answers true (mixedRequests.filter fun q => q.recording = true) ∧
    (sharedDesk.answers true mixedRequests).map (Except.map (Reply.restamp timeless)) =
      (sharedDesk.answers true laterRequests).map (Except.map (Reply.restamp timeless)) ∧
    ((sharedDesk.after mixedRequests).recordings true).dropped = 1 := by
  have hforgetful : ∀ k, (sharedProbes k).Forgetful
    | true => Probe.forgetful_fixed _ _ _ _ _ _
    | false => Probe.forgetful_unsupported
  have hconstant : ∀ k, (sharedProbes k).Constant
    | true => Probe.constant_fixed _ _ _ _ _ _
    | false => Probe.constant_unsupported
  have hown :
      List.Forall₂ Request.Same (mixedRequests.filter fun q => q.recording = true) laterRequests :=
    .cons ⟨rfl, rfl, rfl⟩ (.cons ⟨rfl, rfl, rfl⟩ (.cons ⟨rfl, rfl, rfl⟩
      (.cons ⟨rfl, rfl, rfl⟩ (.cons ⟨rfl, rfl, rfl⟩ .nil))))
  have hone : ((sharedDesk.after laterRequests).recordings true).dropped = 1 := by decide +kernel
  obtain ⟨hexact, hretimed⟩ :=
    sessions_do_not_interfere Bool.toNat smallFirst sharedProbes mixedRequests true
  rw [← sharedDesk] at hexact hretimed
  obtain ⟨he, -⟩ := hexact hforgetful
  obtain ⟨ha, -, -, hd, -⟩ := hretimed hconstant laterRequests hown
  exact ⟨hforgetful, hconstant, hown, he, ha, hd.trans hone⟩

end Desk

end CpuCensus
