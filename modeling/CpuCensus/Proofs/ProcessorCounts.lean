import CpuCensus.Topology.Counts
import Mathlib

/-!
# Counts of processors

The number of different values in a list is the size of the set of its values. So the counts of a
list of processors do not depend on its order, and there are at least as many hardware threads as
cores, at least as many cores as sockets, and at least one of each. What the processors are numbered
with does not matter either, as long as the same ones share numbers: `counted_by_shared_ids`.
-/

namespace CpuCensus

/-! ### Different values -/

section distinct

variable {ι α β : Type} [DecidableEq α] [DecidableEq β]

private theorem distinctCount_eq_card (as : List α) : distinctCount as = as.toFinset.card := by
  induction as with
  | nil => rfl
  | cons a as ih =>
    rw [distinctCount, ih, List.toFinset_cons]
    by_cases h : a ∈ as
    · rw [if_pos h, Finset.insert_eq_of_mem (List.mem_toFinset.mpr h), Nat.add_zero]
    · rw [if_neg h, Finset.card_insert_of_notMem fun hm => h (List.mem_toFinset.mp hm)]

theorem distinctCount_eq_ncard {as : List α} {s : Set α}
    (h : ∀ a, a ∈ as ↔ a ∈ s) : distinctCount as = s.ncard := by
  have hs : (as.toFinset : Set α) = s := by
    ext a
    rw [Finset.mem_coe, List.mem_toFinset, h]
  rw [distinctCount_eq_card, ← hs, Set.ncard_coe_finset]

theorem distinctCount_le_length (as : List α) : distinctCount as ≤ as.length := by
  rw [distinctCount_eq_card]
  exact List.toFinset_card_le as

theorem distinctCount_map (f : α → β) (as : List α) :
    distinctCount (as.map f) = (as.toFinset.image f).card := by
  have hf : (as.map f).toFinset = as.toFinset.image f := by
    ext b
    simp
  rw [distinctCount_eq_card, hf]

/-- Values that are told apart less finely are not more. -/
theorem distinctCount_map_le (f : α → β) (as : List α) :
    distinctCount (as.map f) ≤ distinctCount as := by
  rw [distinctCount_map, distinctCount_eq_card]
  exact Finset.card_image_le

private theorem distinctCount_pos {as : List α} (h : as ≠ []) : 0 < distinctCount as := by
  rw [distinctCount_eq_card, Finset.card_pos]
  exact (List.toFinset_nonempty_iff as).mpr h

/-- Two ways to tell values apart that agree on the list find as many different ones. -/
theorem distinctCount_map_congr {f : ι → α} {g : ι → β} {is : List ι}
    (h : ∀ i ∈ is, ∀ j ∈ is, f i = f j ↔ g i = g j) :
    distinctCount (is.map f) = distinctCount (is.map g) := by
  induction is with
  | nil => rfl
  | cons i is ih =>
    have hmem : f i ∈ is.map f ↔ g i ∈ is.map g := by
      rw [List.mem_map, List.mem_map]
      refine exists_congr fun j => and_congr_right fun hj => ?_
      exact h j (List.mem_cons_of_mem i hj) i List.mem_cons_self
    have hrest := ih fun j hj k hk => h j (List.mem_cons_of_mem i hj) k (List.mem_cons_of_mem i hk)
    simp only [List.map_cons, distinctCount, hrest, hmem]

private theorem distinctCount_cons_of_mem {a : α} {as : List α} (h : a ∈ as) :
    distinctCount (a :: as) = distinctCount as := by
  rw [distinctCount, if_pos h, Nat.add_zero]

private theorem distinctCount_perm {as bs : List α} (h : as.Perm bs) :
    distinctCount as = distinctCount bs := by
  rw [distinctCount_eq_card, distinctCount_eq_card, List.toFinset_eq_of_perm as bs h]

end distinct

theorem bound32_eq : Text.bound32 = 2 ^ 32 := rfl

private theorem capped_mono {m n : Nat} (h : m ≤ n) : capped m ≤ capped n := by
  unfold capped
  omega

private theorem capped_pos {n : Nat} (h : 0 < n) : 0 < capped n := by
  have hb : 1 < Text.bound32 := by decide
  unfold capped
  omega

theorem capped_eq_self {n : Nat} (h : n < 2 ^ 32) : capped n = n := by
  unfold capped
  rw [bound32_eq]
  omega

/-- One more is counted up to the cap. -/
theorem capped_succ (n : Nat) :
    capped (n + 1) = if n < 2 ^ 32 - 1 then capped n + 1 else capped n := by
  unfold capped
  rw [bound32_eq]
  split <;> omega

/-! ### Counts of a list -/

namespace Counts

/-- There is at least one socket, and what holds others is not more numerous than they are. -/
structure Ordered (c : Counts) : Prop where
  sockets_pos : 1 ≤ c.sockets
  sockets_le_cores : c.sockets ≤ c.cores
  cores_le_threads : c.cores ≤ c.threads

variable {source : String} {processors : List ProcessorId}

theorem ofProcessors_of_ne_nil (source : String) (h : processors ≠ []) :
    ofProcessors source processors = .ok {
      threads := capped processors.length
      cores := capped (distinctCount processors)
      sockets := capped (distinctCount (processors.map ProcessorId.package)) } := by
  rw [ofProcessors, if_neg (by simpa using h)]

theorem ne_nil_of_ofProcessors {c : Counts} (h : ofProcessors source processors = .ok c) :
    processors ≠ [] := by
  rintro rfl
  cases h

/-- Whatever processors are counted, the counts are ordered. -/
theorem ordered_of_ofProcessors {c : Counts} (h : ofProcessors source processors = .ok c) :
    c.Ordered := by
  have hne := ne_nil_of_ofProcessors h
  rw [ofProcessors_of_ne_nil source hne] at h
  cases h
  exact
    { sockets_pos := capped_pos (distinctCount_pos (by simpa using hne))
      sockets_le_cores := capped_mono (distinctCount_map_le _ _)
      cores_le_threads := capped_mono (distinctCount_le_length _) }

/-- Counting does not depend on the order of the processors, nor on who tells them. -/
theorem ofProcessors_perm {processors' : List ProcessorId} (hp : processors.Perm processors')
    (hne : processors ≠ []) (source source' : String) :
    ofProcessors source processors = ofProcessors source' processors' := by
  have hne' : processors' ≠ [] := fun he => hne (he ▸ hp).eq_nil
  rw [ofProcessors_of_ne_nil source hne, ofProcessors_of_ne_nil source' hne', hp.length_eq,
    distinctCount_perm hp, distinctCount_perm (hp.map ProcessorId.package)]

/-- Two ways to number the same processors are counted alike if the same processors share all their
numbers and the same share their package. -/
theorem ofProcessors_map_congr {ι : Type} {f g : ι → ProcessorId} {is : List ι}
    (hid : ∀ i ∈ is, ∀ j ∈ is, f i = f j ↔ g i = g j)
    (hpackage : ∀ i ∈ is, ∀ j ∈ is, (f i).package = (f j).package ↔ (g i).package = (g j).package)
    (source : String) :
    ofProcessors source (is.map f) = ofProcessors source (is.map g) := by
  by_cases hne : is = []
  · rw [hne, List.map_nil, List.map_nil]
  · rw [ofProcessors_of_ne_nil source (by simpa using hne),
      ofProcessors_of_ne_nil source (by simpa using hne), List.length_map, List.length_map,
      distinctCount_map_congr hid, List.map_map, List.map_map]
    simp only [Function.comp_def, distinctCount_map_congr hpackage]

/-- One more processor with numbers that occur already is one more hardware thread. -/
theorem ofProcessors_cons_of_mem {c : Counts} (h : ofProcessors source processors = .ok c)
    {p : ProcessorId} (hp : p ∈ processors) :
    ofProcessors source (p :: processors) =
      .ok (if processors.length < 2 ^ 32 - 1 then { c with threads := c.threads + 1 } else c) := by
  rw [ofProcessors_of_ne_nil source (ne_nil_of_ofProcessors h)] at h
  cases h
  rw [ofProcessors_of_ne_nil source (List.cons_ne_nil p processors), List.length_cons, capped_succ,
    distinctCount_cons_of_mem hp, List.map_cons,
    distinctCount_cons_of_mem (List.mem_map_of_mem hp)]
  split <;> rfl

end Counts

/-! ### Shared numbers -/

/-- The lists tell as many processors, and in both the same ones share their package and the same
ones share all their numbers. -/
structure SharedAlike (processors processors' : List ProcessorId) : Prop where
  length_eq : processors.length = processors'.length
  package_iff : ∀ a ∈ processors.zip processors', ∀ b ∈ processors.zip processors',
    a.1.package = b.1.package ↔ a.2.package = b.2.package
  id_iff : ∀ a ∈ processors.zip processors', ∀ b ∈ processors.zip processors',
    a.1 = b.1 ↔ a.2 = b.2

/-- Counting sees of the numbers only which processors share them. -/
theorem SharedAlike.ofProcessors_eq {processors processors' : List ProcessorId}
    (h : SharedAlike processors processors') (source : String) :
    Counts.ofProcessors source processors = Counts.ofProcessors source processors' := by
  have heq := Counts.ofProcessors_map_congr h.id_iff h.package_iff source
  rwa [List.map_fst_zip h.length_eq.le, List.map_snd_zip h.length_eq.ge] at heq

/-- Where a processor sits in its package: its die, its cluster and its core. -/
def ProcessorId.place (p : ProcessorId) : Nat × Nat × Nat := (p.die, p.cluster, p.core)

private theorem ProcessorId.eq_of_place {p q : ProcessorId} (hpackage : p.package = q.package)
    (hplace : p.place = q.place) : p = q := by
  cases p
  cases q
  simp only [place, Prod.mk.injEq] at hplace
  simp only [mk.injEq]
  exact ⟨hpackage, hplace⟩

/-- New numbers for packages and, package by package, for the places in them. -/
structure Relabelling where
  package : Nat → Nat
  place : Nat → Nat × Nat × Nat → Nat × Nat × Nat

namespace Relabelling

/-- The processor under its new numbers. -/
def apply (r : Relabelling) (p : ProcessorId) : ProcessorId where
  package := r.package p.package
  die := (r.place p.package p.place).1
  cluster := (r.place p.package p.place).2.1
  core := (r.place p.package p.place).2.2

/-- The packages of the processors keep apart, and so do the places within each package. -/
structure KeepsApart (r : Relabelling) (processors : List ProcessorId) : Prop where
  package : Set.InjOn r.package {n | ∃ p ∈ processors, p.package = n}
  place : ∀ n, Set.InjOn (r.place n) {t | ∃ p ∈ processors, p.package = n ∧ p.place = t}

variable {r : Relabelling} {processors : List ProcessorId} {p q : ProcessorId}

private theorem KeepsApart.package_apply_iff (h : r.KeepsApart processors) (hp : p ∈ processors)
    (hq : q ∈ processors) : p.package = q.package ↔ (r.apply p).package = (r.apply q).package :=
  (h.package.eq_iff ⟨p, hp, rfl⟩ ⟨q, hq, rfl⟩).symm

private theorem KeepsApart.apply_iff (h : r.KeepsApart processors) (hp : p ∈ processors)
    (hq : q ∈ processors) : p = q ↔ r.apply p = r.apply q := by
  refine ⟨congrArg r.apply, fun he => ?_⟩
  have hpackage : p.package = q.package :=
    (h.package_apply_iff hp hq).mpr (congrArg ProcessorId.package he)
  have hnew : r.place p.package p.place = r.place p.package q.place := by
    have hplace := congrArg ProcessorId.place he
    simpa only [apply, ProcessorId.place, hpackage] using hplace
  exact ProcessorId.eq_of_place hpackage
    (h.place p.package ⟨p, hp, rfl, rfl⟩ ⟨q, hq, hpackage.symm, rfl⟩ hnew)

private theorem KeepsApart.sharedAlike (h : r.KeepsApart processors) :
    SharedAlike processors (processors.map r.apply) := by
  have hzip : processors.zip (processors.map r.apply) = processors.map fun p => (p, r.apply p) := by
    rw [← List.zip_map', List.map_id']
  refine ⟨by rw [List.length_map], ?_, ?_⟩
  all_goals
    rw [hzip]
    simp only [List.forall_mem_map]
    intro p hp q hq
  · exact h.package_apply_iff hp hq
  · exact h.apply_iff hp hq

end Relabelling

/-- A list of processors can be counted once it is not empty, however long it is: there is at least
one socket, there are no more sockets than cores and no more cores than threads, and each count is
the size of a set up to the largest that is reported. The counts depend only on which processors
share their numbers: neither another order nor new numbers matter, where these keep the packages
and the places within each package apart. One more processor with numbers that occur already is one
more hardware thread up to the cap, and nothing else. -/
theorem counted_by_shared_ids (source : String) (processors : List ProcessorId)
    (h : processors ≠ []) :
    ∃ c : Counts, Counts.ofProcessors source processors = .ok c ∧
      1 ≤ c.sockets ∧ c.sockets ≤ c.cores ∧ c.cores ≤ c.threads ∧
      c.threads = min processors.length (2 ^ 32 - 1) ∧
      c.cores = min processors.toFinset.card (2 ^ 32 - 1) ∧
      c.sockets = min (processors.toFinset.image ProcessorId.package).card (2 ^ 32 - 1) ∧
      (∀ processors', processors.Perm processors' →
        Counts.ofProcessors source processors' = .ok c) ∧
      (∀ processors', SharedAlike processors processors' →
        Counts.ofProcessors source processors' = .ok c) ∧
      (∀ r : Relabelling, r.KeepsApart processors →
        Counts.ofProcessors source (processors.map r.apply) = .ok c) ∧
      (∀ p ∈ processors, ∀ processors', processors'.Perm (p :: processors) →
        Counts.ofProcessors source processors' =
          .ok (if processors.length < 2 ^ 32 - 1 then { c with threads := c.threads + 1 }
            else c)) := by
  have hc := Counts.ofProcessors_of_ne_nil source h
  have hordered := Counts.ordered_of_ofProcessors hc
  refine ⟨_, hc, hordered.sockets_pos, hordered.sockets_le_cores, hordered.cores_le_threads,
    rfl, ?_, ?_, ?_, ?_, ?_, ?_⟩
  · simp only [distinctCount_eq_card]
    rfl
  · simp only [distinctCount_map]
    rfl
  · intro processors' hperm
    rw [← Counts.ofProcessors_perm hperm h source source, hc]
  · intro processors' halike
    rw [← halike.ofProcessors_eq source, hc]
  · intro r hr
    rw [← hr.sharedAlike.ofProcessors_eq source, hc]
  · intro p hp processors' hperm
    rw [← Counts.ofProcessors_perm hperm.symm (List.cons_ne_nil p processors) source source]
    exact Counts.ofProcessors_cons_of_mem hc hp

/-- Two packages: the first has two clusters that number their cores alike, and a core with two
threads. -/
def twoPackages : List ProcessorId :=
  [⟨0, 0, 0, 0⟩, ⟨0, 0, 1, 0⟩, ⟨0, 0, 1, 0⟩, ⟨1, 0, 0, 0⟩]

/-- The packages change places, and the clusters of package 0 become dies. -/
def crossed : Relabelling where
  package n := 1 - n
  place n t := if n = 0 then (t.2.1, 0, t.2.2) else t

theorem crossed_packages_counted_alike :
    twoPackages ≠ [] ∧ crossed.KeepsApart twoPackages ∧
    Counts.ofProcessors "list" (twoPackages.map crossed.apply) =
      .ok { threads := 4, cores := 3, sockets := 2 } := by
  have hne : twoPackages ≠ [] := List.cons_ne_nil _ _
  have hapart : crossed.KeepsApart twoPackages := by
    constructor
    · rintro m ⟨p, hp, rfl⟩ n ⟨q, hq, rfl⟩
      revert p q
      decide
    · rintro n t ⟨p, hp, rfl, rfl⟩ u ⟨q, hq, hpackage, rfl⟩
      revert p q
      decide
  obtain ⟨c, hc, -, -, -, -, -, -, -, -, hnew, -⟩ := counted_by_shared_ids "list" twoPackages hne
  have hcounts : Counts.ofProcessors "list" twoPackages =
      .ok { threads := 4, cores := 3, sockets := 2 } := by decide
  rw [hcounts] at hc
  cases hc
  exact ⟨hne, hapart, hnew crossed hapart⟩

end CpuCensus
