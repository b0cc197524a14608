import CpuCensus.Proofs.Interleaving

/-!
# Timed samplers, turn by turn

A sampler that runs on a clock begins, wakes for every deadline that is due and leaves when it is
told to. Each of these is some turns of a sampler that runs beside others, with the same session and
the same course: `leads_begin`, `leads_attend`, `leads_leave`. Nobody else comes between the turns,
so they can be put into any run.
-/

namespace CpuCensus

/-! ### The times of a timed sampler -/

namespace Sampler

/-- No time comes before the deadline that it is for. -/
def Timely (s : Sampler) : List Nat → Prop
  | [] => True
  | now :: times => s.deadline ≤ now ∧ (s.rearm now).Timely times

/-- Deadlines do not depend on the snapshots that were taken. -/
theorem timely_taken (s : Sampler) (taken : Nat) (times : List Nat) :
    ({ s with taken } : Sampler).Timely times ↔ s.Timely times := by
  induction times generalizing s with
  | nil => rfl
  | cons now times ih =>
    rw [Timely, Timely]
    exact and_congr_right fun _ => ih (s.rearm now)

private theorem timely_resume {s next : Sampler} {wake : Wake} (h : s.resume wake = .ticking next)
    (times : List Nat) : next.Timely times ↔ s.Timely times := by
  cases wake with
  | taken =>
    cases h
    exact s.timely_taken (s.taken + 1) times
  | failed =>
    cases h
    rfl
  | refused => cases h

private theorem timely_wakeTimes (s : Sampler) (passage : Passage) (limit : Nat) :
    s.Timely (s.wakeTimes passage limit) := by
  fun_induction wakeTimes s passage limit with
  | case1 s hd now ih =>
    refine ⟨?_, ih⟩
    unfold now Passage.wakeTime
    split
    · exact Nat.le_refl _
    · exact hd
  | case2 => exact True.intro

end Sampler

/-! ### Turns in a row -/

namespace Worker

/-- The sampler has a turn that leads from one state of itself and its session to the other. -/
def Takes (before after : Worker × Session) : Prop :=
  ∃ turn, before.1.turn before.2 turn = some after

/-- Some turns in a row lead from one state to the other. -/
def Leads : Worker × Session → Worker × Session → Prop := Relation.ReflTransGen Takes

private theorem leads_refl (state : Worker × Session) : Leads state state := .refl

private theorem leads_of_turn {w : Worker} {session : Session} {after : Worker × Session}
    (turn : Turn) (h : w.turn session turn = some after) : Leads (w, session) after :=
  .single ⟨turn, h⟩

/-- A sampler that is launched can begin; any other one has begun. -/
theorem leads_begin (task : SamplerTask) (cancelled : Bool) (session : Session) (now : Nat) :
    Leads ({ task, cancelled }, session) ({ task := (task.begin now).1, cancelled }, session) := by
  cases task with
  | launched periodMs => exact leads_of_turn (.begin now) rfl
  | ticking sampler => exact leads_refl _
  | ended taken => exact leads_refl _
  | broken => exact leads_refl _

/-- A sampler that has begun and was told to end can leave; any other one has nothing to do. -/
theorem leads_leave (task : SamplerTask) (session : Session) :
    Leads ({ task, cancelled := true }, session)
      ({ task := task.cancel.1, cancelled := true }, session) := by
  cases task with
  | ticking sampler => exact leads_of_turn .leave rfl
  | launched periodMs => exact leads_refl _
  | ended taken => exact leads_refl _
  | broken => exact leads_refl _

/-- A sampler that was told to end begins, if it has not begun, and leaves. -/
theorem leads_ended (task : SamplerTask) (session : Session) (now : Nat) :
    Leads ({ task, cancelled := true }, session)
      ({ task := (task.begin now).1.cancel.1, cancelled := true }, session) :=
  (leads_begin task true session now).trans (leads_leave _ session)

/-- A sampler that has begun, if it had not, and is then cancelled has ended. -/
theorem live_of_cancel (task : SamplerTask) (now : Nat) (cancelled : Bool) :
    ({ task := (task.begin now).1.cancel.1, cancelled } : Worker).live = false := by
  cases task with
  | launched periodMs =>
    simp only [SamplerTask.begin]
    split <;> rfl
  | ticking sampler => rfl
  | ended taken => rfl
  | broken => rfl

/-- A sampler whose deadline has come looks up, wakes and takes its snapshot. -/
theorem leads_of_deadline {sampler : Sampler} {now : Nat} (hd : sampler.deadline ≤ now)
    (session : Session) :
    Leads ({ task := .ticking sampler }, session)
      ({ task := (sampler.rearm now).resume (Sampler.wake session now).answer },
        (Sampler.wake session now).state) := by
  let alert : Worker := { task := .ticking sampler, stance := .alert }
  let awake : Worker := { task := .ticking (sampler.rearm now), stance := .awake }
  have hlook : Leads ({ task := .ticking sampler }, session) (alert, session) :=
    leads_of_turn .look rfl
  have hwake : Leads (alert, session) (awake, session) := leads_of_turn (.wake now) (if_pos hd)
  exact (hlook.trans hwake).trans (leads_of_turn (.snapshot now) rfl)

/-- A sampler that wakes at these times does so turn by turn. -/
theorem leads_attend {sampler : Sampler} {times : List Nat} (ht : sampler.Timely times)
    (session : Session) :
    Leads ({ task := .ticking sampler }, session)
      ({ task := (sampler.attend session times).answer },
        (sampler.attend session times).state) := by
  induction times generalizing sampler session with
  | nil => exact leads_refl _
  | cons now times ih =>
    obtain ⟨hd, ht⟩ := ht
    have hwake := leads_of_deadline hd session
    cases hr : (sampler.rearm now).resume (Sampler.wake session now).answer with
    | ticking next =>
      rw [hr] at hwake
      -- A sampler that goes on keeps its deadlines, so the later times are still timely.
      have hrest := ih ((Sampler.timely_resume hr times).mpr ht) (Sampler.wake session now).state
      simp only [Sampler.attend, hr]
      exact hwake.trans hrest
    | launched periodMs => simpa only [Sampler.attend, hr] using hwake
    | ended taken => simpa only [Sampler.attend, hr] using hwake
    | broken => simpa only [Sampler.attend, hr] using hwake

/-- Time that passes is turns of the sampler. -/
theorem leads_pass (task : SamplerTask) (session : Session) (passage : Passage) (limit : Nat) :
    Leads ({ task }, session)
      ({ task := (task.pass session passage limit).answer },
        (task.pass session passage limit).state) := by
  cases task with
  | ticking sampler => exact leads_attend (sampler.timely_wakeTimes passage limit) session
  | launched periodMs => exact leads_refl _
  | ended taken => exact leads_refl _
  | broken => exact leads_refl _

end Worker

end CpuCensus
