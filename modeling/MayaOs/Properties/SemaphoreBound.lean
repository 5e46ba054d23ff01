import MayaOs.Lib.Run
import MayaOs.Kernel.Semaphore

/-!
# Semaphores do not over-admit

At every point the waits that have returned are covered by the initial value and the signals,
provided that each of them took a unit. A wait that was blocked, and one that got no memory for its
entry, return without taking one.

* `semaphore_bound` — the bound holds in every run whose waits all take a unit, and any other run
  can be continued to one that breaks it
* `semaphore_overadmits` — two waits return after a single signal
-/

namespace MayaOs.Kernel

open MayaOs.Lib

/-! ## The bound -/

/-- No more waits have returned than there were units. -/
def Bounded (n : Nat) (s : SemSystem) : Prop := s.returned ≤ n + s.signals

/-- No wait returns in this step without taking a unit. -/
def Takes (s : SemSystem) (a : SemAction) (_ : SemSystem) : Prop :=
  match a with
  | .wait _ allocated => 0 < s.sem.value ∨ allocated = true
  | .leave _ => False
  | _ => True

/-- What one step does to value and counters. -/
theorem semStep_cases {s s' : SemSystem} {a : SemAction} (h : semStep s a = some s') :
    (0 < s.sem.value ∧ s'.sem.value = s.sem.value - 1 ∧ s'.returned = s.returned + 1 ∧
      s'.signals = s.signals ∧ Takes s a s') ∨
    (a = .signal ∧ s'.sem.value = int32 (s.sem.value + 1) ∧ s'.returned = s.returned ∧
      s'.signals = s.signals + 1) ∨
    (a ≠ .signal ∧ s'.sem.value = s.sem.value ∧ s'.signals = s.signals ∧
      (s'.returned = s.returned ∧ Takes s a s' ∨ s'.returned = s.returned + 1 ∧ ¬ Takes s a s')) := by
  cases a with
  | wait p allocated =>
    simp only [semStep, semaphoreWaitEnter] at h
    by_cases hphase : s.phase p ≠ .outside
    · rw [if_pos hphase] at h
      cases h
    · rw [if_neg hphase] at h
      by_cases hv : s.sem.value > 0
      · simp only [if_pos hv, if_true] at h
        cases h
        exact Or.inl ⟨hv, rfl, rfl, rfl, Or.inl hv⟩
      · cases allocated with
        | false =>
          simp only [if_neg hv, if_true] at h
          cases h
          refine Or.inr (Or.inr ⟨by simp, rfl, rfl, Or.inr ⟨rfl, ?_⟩⟩)
          rintro (ht | ht)
          · exact hv ht
          · cases ht
        | true =>
          simp only [if_neg hv, Bool.true_eq_false, Bool.false_eq_true, if_false] at h
          cases h
          exact Or.inr (Or.inr ⟨by simp, rfl, rfl, Or.inl ⟨rfl, Or.inr rfl⟩⟩)
  | block p =>
    simp only [semStep] at h
    split at h
    · cases h
    · cases h
      exact Or.inr (Or.inr ⟨by simp, rfl, rfl, Or.inl ⟨rfl, trivial⟩⟩)
  | leave p =>
    simp only [semStep] at h
    split at h
    · cases h
    · cases h
      exact Or.inr (Or.inr ⟨by simp, rfl, rfl, Or.inr ⟨rfl, id⟩⟩)
  | tryWait =>
    simp only [semStep, semaphoreTryWait] at h
    by_cases hv : s.sem.value > 0
    · simp only [if_pos hv, if_true] at h
      cases h
      exact Or.inl ⟨hv, rfl, rfl, rfl, trivial⟩
    · simp only [if_neg hv, Bool.false_eq_true, if_false] at h
      cases h
      exact Or.inr (Or.inr ⟨by simp, rfl, rfl, Or.inl ⟨rfl, trivial⟩⟩)
  | signal =>
    cases h
    exact Or.inr (Or.inl ⟨rfl, rfl, rfl, rfl⟩)

/-! ## Runs whose waits take a unit -/

/-- The units still there and the units taken do not exceed those provided. -/
structure Covered (n : Nat) (s : SemSystem) : Prop where
  bounded : Bounded n s
  units : s.returned + s.sem.value ≤ n + s.signals
  low : -2 ^ 31 ≤ s.sem.value

theorem covered_boot (n : Nat) : Covered n (SemSystem.boot n) := by
  have hv : (SemSystem.boot n).sem.value = n := by
    unfold SemSystem.boot semaphoreInit
    rw [if_neg (by omega)]
  refine ⟨Nat.zero_le _, ?_, ?_⟩
  · rw [hv]
    show ((0 : Nat) : Int) + n ≤ n + ((0 : Nat) : Int)
    omega
  · rw [hv]
    omega

/-- **One step** that returns from no wait without a unit keeps the units covered. -/
theorem covered_step {n : Nat} {s s' : SemSystem} {a : SemAction} (h : Covered n s)
    (hs : semStep s a = some s') (ht : Takes s a s') : Covered n s' := by
  obtain ⟨hb, hu, hl⟩ := h
  unfold Bounded at hb
  rcases semStep_cases hs with ⟨hpos, hv, hr, hsig, -⟩ | ⟨-, hv, hr, hsig⟩ |
    ⟨-, hv, hsig, ⟨hr, -⟩ | ⟨-, hno⟩⟩
  · refine ⟨?_, by rw [hr, hv, hsig]; omega, by rw [hv]; omega⟩
    unfold Bounded
    rw [hr, hsig]
    omega
  · -- a signal; the addition may overflow, which only loses units
    have hle := int32_le (x := s.sem.value + 1) (by omega)
    refine ⟨?_, by rw [hr, hv, hsig]; omega, by rw [hv]; exact int32_ge _⟩
    unfold Bounded
    rw [hr, hsig]
    omega
  · refine ⟨?_, by rw [hr, hv, hsig]; exact hu, by rw [hv]; exact hl⟩
    unfold Bounded
    rw [hr, hsig]
    exact hb
  · exact absurd ht hno

/-! ## Runs with a wait that takes no unit -/

/-- The number of calls of `semaphore_signal`. -/
def signalCount (as : List SemAction) : Nat := as.count .signal

/-- `c` units more have been taken or are left than were provided. -/
structure Surplus (n c : Nat) (s : SemSystem) : Prop where
  units : n + s.signals + c ≤ s.returned + s.sem.value
  high : s.sem.value ≤ n + s.signals
  low : -2 ^ 31 ≤ s.sem.value

theorem surplus_boot (n : Nat) : Surplus n 0 (SemSystem.boot n) := by
  have hv : (SemSystem.boot n).sem.value = n := by
    unfold SemSystem.boot semaphoreInit
    rw [if_neg (by omega)]
  have hsig : (SemSystem.boot n).signals = 0 := rfl
  have hr : (SemSystem.boot n).returned = 0 := rfl
  refine ⟨?_, ?_, ?_⟩ <;> rw [hv] <;> omega

/-- Below the overflow of the value no step loses a surplus; one that takes no unit adds to it. -/
theorem surplus_step {n c : Nat} {s s' : SemSystem} {a : SemAction} (h : Surplus n c s)
    (hs : semStep s a = some s') (hov : n + s'.signals < 2 ^ 31) :
    Surplus n c s' ∧ (¬ Takes s a s' → Surplus n (c + 1) s') := by
  obtain ⟨hu, hh, hl⟩ := h
  rcases semStep_cases hs with ⟨hpos, hv, hr, hsig, ht⟩ | ⟨ha, hv, hr, hsig⟩ |
    ⟨-, hv, hsig, ⟨hr, ht⟩ | ⟨hr, -⟩⟩
  · refine ⟨⟨?_, ?_, ?_⟩, fun hno => absurd ht hno⟩ <;> rw [hv] <;> omega
  · have heq : int32 (s.sem.value + 1) = s.sem.value + 1 := int32_eq_self (by omega) (by omega)
    refine ⟨⟨?_, ?_, ?_⟩, fun hno => absurd ?_ hno⟩
    · rw [hv, heq]; omega
    · rw [hv, heq]; omega
    · rw [hv, heq]; omega
    · rw [ha]; trivial
  · refine ⟨⟨?_, ?_, ?_⟩, fun hno => absurd ht hno⟩ <;> rw [hv] <;> omega
  · refine ⟨⟨?_, ?_, ?_⟩, fun _ => ⟨?_, ?_, ?_⟩⟩ <;> rw [hv] <;> omega

theorem signals_step {s s' : SemSystem} {a : SemAction} (hs : semStep s a = some s') :
    s'.signals = s.signals + signalCount [a] := by
  rcases semStep_cases hs with ⟨-, -, -, hsig, -⟩ | ⟨ha, -, -, hsig⟩ | ⟨ha, -, hsig, -⟩
  · cases a with
    | signal => cases hs; simp at hsig
    | _ => exact hsig
  · rw [hsig, ha]
    rfl
  · rw [hsig, signalCount, List.count_singleton, if_neg (by simpa using ha)]
    rfl

/-- The run of a whole list of actions, with the surplus of the waits that took no unit. -/
theorem surplus_run {n : Nat} : ∀ {as : List SemAction} {c : Nat} {s t : SemSystem},
    Surplus n c s → n + s.signals + signalCount as < 2 ^ 31 → run semStep s as = some t →
      Surplus n c t ∧ (¬ Along semStep Takes s as → Surplus n (c + 1) t) := by
  intro as
  induction as with
  | nil =>
    intro c s t h _ hrun
    cases hrun
    exact ⟨h, fun hno => absurd trivial hno⟩
  | cons a as ih =>
    intro c s t h hov hrun
    obtain ⟨s', hs', hrest⟩ := run_cons_eq_some.mp hrun
    have hsig := signals_step hs'
    have hcount : signalCount (a :: as) = signalCount [a] + signalCount as := by
      unfold signalCount
      rw [← List.singleton_append, List.count_append]
    obtain ⟨hkeep, hadd⟩ := surplus_step h hs' (by omega)
    refine ⟨(ih hkeep (by omega) hrest).1, fun hno => ?_⟩
    by_cases ht : Takes s a s'
    · -- the wait that took no unit is a later one
      refine (ih hkeep (by omega) hrest).2 fun halong => hno fun u hu => ?_
      cases hs'.symm.trans hu
      exact ⟨ht, halong⟩
    · exact (ih (hadd ht) (by omega) hrest).1

/-- `semaphore_try_wait` can take all units that are left. -/
theorem run_tryWait (k : Nat) : ∀ s : SemSystem, k ≤ s.sem.value →
    ∃ t, run semStep s (List.replicate k .tryWait) = some t ∧ t.returned = s.returned + k ∧
      t.signals = s.signals := by
  induction k with
  | zero => intro s _; exact ⟨s, rfl, rfl, rfl⟩
  | succ k ih =>
    intro s hk
    have hpos : s.sem.value > 0 := by omega
    obtain ⟨t, ht, hr, hsig⟩ := ih
      { s with sem := { s.sem with value := s.sem.value - 1 }, returned := s.returned + 1 }
      (by show (k : Int) ≤ s.sem.value - 1; omega)
    refine ⟨t, ?_, by rw [hr]; show s.returned + 1 + k = _; omega, hsig⟩
    rw [List.replicate_succ, run_cons]
    simp only [semStep, semaphoreTryWait, if_pos hpos, if_true, Option.bind_some]
    exact ht

/-! ## The result -/

/--
**The semaphore over-admits exactly through waits that return without taking a unit.**

In a run without such a wait the bound holds in every state. A run with one can be continued by
calls of `semaphore_try_wait` until the bound is broken, as long as the value cannot have overflowed.
-/
theorem semaphore_bound (n : Nat) (as : List SemAction) :
    (Along semStep Takes (SemSystem.boot n) as →
      Always semStep (Bounded n) (SemSystem.boot n) as) ∧
    (n + signalCount as < 2 ^ 31 → (run semStep (SemSystem.boot n) as).isSome →
      ¬ Along semStep Takes (SemSystem.boot n) as →
        ∃ k, ¬ Always semStep (Bounded n) (SemSystem.boot n) (as ++ List.replicate k .tryWait)) := by
  constructor
  · intro h
    refine ⟨(covered_boot n).bounded, ?_⟩
    exact Along.of_invariant (I := Covered n)
      (fun s a s' hs hstep ht => (covered_step hs hstep ht).bounded)
      (fun s a s' hs hstep ht => covered_step hs hstep ht) (covered_boot n) h
  · intro hov hsome hno
    obtain ⟨t, ht⟩ := Option.isSome_iff_exists.mp hsome
    have hsur := (surplus_run (surplus_boot n)
      (by rw [show (SemSystem.boot n).signals = 0 from rfl]; omega) ht).2 hno
    obtain ⟨hu, hh, hl⟩ := hsur
    by_cases hpos : 0 ≤ t.sem.value
    · -- taking the units that are left turns the surplus into returned waits
      obtain ⟨k, hk⟩ := Int.eq_ofNat_of_zero_le hpos
      obtain ⟨u, hrun, hr, hsig⟩ := run_tryWait k t (by omega)
      refine ⟨k, fun halways => ?_⟩
      have hb : Bounded n u := by
        refine always_iff_forall_initial.mp halways _ [] u (List.append_nil _).symm ?_
        rw [run_append, ht]
        exact hrun
      unfold Bounded at hb
      omega
    · -- with a negative value the bound is broken already
      refine ⟨0, fun halways => ?_⟩
      have hb : Bounded n t := by
        refine always_iff_forall_initial.mp halways as _ t rfl ht
      unfold Bounded at hb
      omega

/-- A process waits for a signal and gets it; another one finds the value still at 1. -/
def overadmitRun : List SemAction :=
  [.wait 0xD0000010 true, .block 0xD0000010, .signal, .leave 0xD0000010, .tryWait]

/-- **Two waits return after a single signal.** -/
theorem semaphore_overadmits :
    ∃ s, run semStep (SemSystem.boot 0) overadmitRun = some s ∧
      s.returned = 2 ∧ s.signals = 1 ∧ ¬ Bounded 0 s := by
  refine ⟨_, rfl, rfl, rfl, ?_⟩
  show ¬ (2 ≤ 0 + 1)
  decide

end MayaOs.Kernel
