import Mathlib.Data.List.Nodup
import MayaOs.Lib.Run
import MayaOs.Kernel.Semaphore

/-!
# Units and sleeping waiters

While the value is positive and nobody is on the way out of `semaphore_wait`, nobody should be
asleep in the waiter list. Three things break this. A process can call `process_block` after the
signal that was meant for it; a woken process leaves without taking the unit, so that it stays
there for the next one, who is not woken; and a signal can be addressed to a process that does not
sleep yet.

* `noneAsleep_iff_timely` — these are the only ways
* `unit_leaves_sleeper` — a process sleeps although the value is 1
-/

namespace MayaOs.Kernel

open MayaOs.Lib

/-! ## Waiters -/

/-- Some process has been woken and not yet left. -/
def SomeWoken (s : SemSystem) : Prop := ∃ p, s.phase p = .woken

/-- Some process sleeps in the waiter list. -/
def SomeBlocked (s : SemSystem) : Prop := ∃ p ∈ s.sem.waiters, s.phase p = .blocked

/-- A unit that nobody is about to use leaves nobody asleep. -/
def NoneAsleep (s : SemSystem) : Prop := 0 < s.sem.value → ¬ SomeWoken s → ¬ SomeBlocked s

/-- The waiter list holds exactly the processes inside `semaphore_wait`, each once. -/
structure Listed (s : SemSystem) : Prop where
  mem_iff : ∀ p, p ∈ s.sem.waiters ↔ s.phase p ≠ .outside
  nodup : s.sem.waiters.Nodup

theorem listed_boot (n : Int) : Listed (SemSystem.boot n) := by
  have hw : (SemSystem.boot n).sem.waiters = [] := by
    unfold SemSystem.boot semaphoreInit
    split <;> rfl
  refine ⟨fun p => ?_, ?_⟩
  · rw [hw]
    simp [SemSystem.boot]
  · rw [hw]
    exact List.nodup_nil

/-! ## wake -/

theorem wake_blocked {phase : ProcessPtr → WaitPhase} {p : ProcessPtr} (h : phase p = .blocked) :
    wake phase p p = .woken := by
  simp [wake, h]

theorem wake_of_not_blocked {phase : ProcessPtr → WaitPhase} {p : ProcessPtr}
    (h : phase p ≠ .blocked) : wake phase p = phase := by
  simp [wake, h]

/-- A process enters or leaves `semaphore_wait` only by its own steps. -/
theorem wake_eq_outside (phase : ProcessPtr → WaitPhase) (p q : ProcessPtr) :
    wake phase p q = .outside ↔ phase q = .outside := by
  by_cases hp : phase p = .blocked
  · rcases eq_or_ne q p with rfl | hq
    · simp [wake, hp]
    · simp [wake, hp, hq]
  · rw [wake_of_not_blocked hp]

/-! ## Steps -/

/-- **What a step does** to value, waiter list and phases. -/
inductive SemEffect (s s' : SemSystem) : SemAction → Prop where
  | took (p : ProcessPtr) (allocated : Bool) (hpos : 0 < s.sem.value)
      (hvalue : s'.sem.value = s.sem.value - 1) (hwaiters : s'.sem.waiters = s.sem.waiters)
      (hphase : s'.phase = s.phase) : SemEffect s s' (.wait p allocated)
  | noMemory (p : ProcessPtr) (hsem : s'.sem = s.sem) (hphase : s'.phase = s.phase) :
      SemEffect s s' (.wait p false)
  | queued (p : ProcessPtr) (hout : s.phase p = .outside) (hvalue : s.sem.value ≤ 0)
      (hvalue' : s'.sem.value = s.sem.value) (hwaiters : s'.sem.waiters = s.sem.waiters ++ [p])
      (hphase : s'.phase = Function.update s.phase p .enqueued) : SemEffect s s' (.wait p true)
  | slept (p : ProcessPtr) (henq : s.phase p = .enqueued) (hsem : s'.sem = s.sem)
      (hphase : s'.phase = Function.update s.phase p .blocked) : SemEffect s s' (.block p)
  | left (p : ProcessPtr) (hwoken : s.phase p = .woken) (hvalue : s'.sem.value = s.sem.value)
      (hwaiters : s'.sem.waiters = s.sem.waiters.erase p)
      (hphase : s'.phase = Function.update s.phase p .outside) : SemEffect s s' (.leave p)
  | tried (hvalue : s'.sem.value ≤ s.sem.value) (hwaiters : s'.sem.waiters = s.sem.waiters)
      (hphase : s'.phase = s.phase) : SemEffect s s' .tryWait
  | signalled (hvalue : s'.sem.value = int32 (s.sem.value + 1))
      (hwaiters : s'.sem.waiters = s.sem.waiters)
      (hphase : s'.phase = match s.sem.waiters.head? with
        | some p => wake s.phase p
        | none => s.phase) : SemEffect s s' .signal

theorem semStep_effect {s s' : SemSystem} {a : SemAction} (h : semStep s a = some s') :
    SemEffect s s' a := by
  cases a with
  | wait p allocated =>
    simp only [semStep, semaphoreWaitEnter] at h
    by_cases hout : s.phase p = .outside
    · by_cases hpos : s.sem.value > 0
      · simp [hout, hpos] at h
        subst h
        exact .took p allocated hpos rfl rfl rfl
      · cases allocated with
        | false =>
          simp [hout, hpos] at h
          subst h
          exact .noMemory p rfl rfl
        | true =>
          simp [hout, hpos] at h
          subst h
          exact .queued p hout (by omega) rfl rfl rfl
    · simp [hout] at h
  | block p =>
    simp only [semStep] at h
    by_cases henq : s.phase p = .enqueued
    · simp [henq] at h
      subst h
      exact .slept p henq rfl rfl
    · simp [henq] at h
  | leave p =>
    simp only [semStep] at h
    by_cases hwoken : s.phase p = .woken
    · simp [hwoken] at h
      subst h
      exact .left p hwoken rfl rfl rfl
    · simp [hwoken] at h
  | tryWait =>
    simp only [semStep, semaphoreTryWait, Option.some.injEq] at h
    subst h
    by_cases hpos : s.sem.value > 0
    · exact .tried (by simp only [if_pos hpos]; omega) (by simp [hpos]) rfl
    · exact .tried (by simp [hpos]) (by simp [hpos]) rfl
  | signal =>
    simp only [semStep, semaphoreSignal, Option.some.injEq] at h
    subst h
    exact .signalled rfl rfl rfl

theorem listed_step {s s' : SemSystem} {a : SemAction} (h : Listed s) (hs : semStep s a = some s') :
    Listed s' := by
  obtain ⟨hmem, hnd⟩ := h
  cases semStep_effect hs with
  | took p allocated hpos hv hw hph => exact ⟨by rw [hw, hph]; exact hmem, by rw [hw]; exact hnd⟩
  | noMemory p hsem hph => exact ⟨by rw [hsem, hph]; exact hmem, by rw [hsem]; exact hnd⟩
  | queued p hout hv hv' hw hph =>
    have hp : p ∉ s.sem.waiters := by simp [hmem, hout]
    refine ⟨fun q => ?_, ?_⟩
    · rw [hw, hph]
      rcases eq_or_ne q p with rfl | hq
      · simp
      · simp [hq, hmem]
    · rw [hw, ← List.concat_eq_append]
      exact List.Nodup.concat hp hnd
  | slept p henq hsem hph =>
    refine ⟨fun q => ?_, by rw [hsem]; exact hnd⟩
    rw [hsem, hph, hmem]
    rcases eq_or_ne q p with rfl | hq
    · simp [henq]
    · simp [hq]
  | left p hwoken hv hw hph =>
    refine ⟨fun q => ?_, by rw [hw]; exact hnd.erase p⟩
    rw [hw, hph, hnd.mem_erase_iff, hmem]
    rcases eq_or_ne q p with rfl | hq
    · simp
    · simp [hq]
  | tried hv hw hph => exact ⟨by rw [hw, hph]; exact hmem, by rw [hw]; exact hnd⟩
  | signalled hv hw hph =>
    refine ⟨fun q => ?_, by rw [hw]; exact hnd⟩
    rw [hw, hph, hmem]
    cases s.sem.waiters.head? with
    | none => rfl
    | some p => exact not_congr (wake_eq_outside s.phase p q).symm

/-! ## When a step leaves a sleeper behind -/

/--
The step is taken in time: no unit is left that nobody is about to use, or nobody sleeps.

Only these three steps can leave a sleeper behind: going to sleep, leaving without the unit, and a
signal to a process that does not sleep.
-/
def Timely (s : SemSystem) (a : SemAction) (_ : SemSystem) : Prop :=
  match a with
  | .block _ => s.sem.value ≤ 0 ∨ SomeWoken s
  | .leave p => s.sem.value ≤ 0 ∨ (∃ q, q ≠ p ∧ s.phase q = .woken) ∨ ¬ SomeBlocked s
  | .signal =>
    int32 (s.sem.value + 1) ≤ 0 ∨ (∃ p, s.sem.waiters.head? = some p ∧ s.phase p = .blocked) ∨
      SomeWoken s ∨ ¬ SomeBlocked s
  | _ => True

/-- The property in the form in which the steps are compared with it. -/
theorem noneAsleep_iff {s : SemSystem} :
    NoneAsleep s ↔ s.sem.value ≤ 0 ∨ SomeWoken s ∨ ¬ SomeBlocked s := by
  unfold NoneAsleep
  rw [← Int.not_lt]
  tauto

theorem someWoken_congr {s s' : SemSystem} (h : s'.phase = s.phase) :
    SomeWoken s' ↔ SomeWoken s := by
  unfold SomeWoken
  rw [h]

theorem someBlocked_congr {s s' : SemSystem} (hw : s'.sem.waiters = s.sem.waiters)
    (hph : s'.phase = s.phase) : SomeBlocked s' ↔ SomeBlocked s := by
  unfold SomeBlocked
  rw [hw, hph]

/-- A step that changes neither list nor phases and does not raise the value. -/
theorem noneAsleep_of_same {s s' : SemSystem} (h : NoneAsleep s)
    (hv : s'.sem.value ≤ s.sem.value) (hw : s'.sem.waiters = s.sem.waiters)
    (hph : s'.phase = s.phase) : NoneAsleep s' := by
  intro hpos hnone
  rw [someWoken_congr hph] at hnone
  rw [someBlocked_congr hw hph]
  exact h (by omega) hnone

/-- The phases after another process has moved to a phase that is neither. -/
theorem someWoken_update {s s' : SemSystem} {p : ProcessPtr} {ph : WaitPhase}
    (hph : s'.phase = Function.update s.phase p ph) (hnew : ph ≠ .woken) :
    SomeWoken s' ↔ ∃ q, q ≠ p ∧ s.phase q = .woken := by
  unfold SomeWoken
  rw [hph]
  constructor
  · rintro ⟨q, hq⟩
    rcases eq_or_ne q p with rfl | hne
    · rw [Function.update_self] at hq
      exact absurd hq hnew
    · rw [Function.update_of_ne hne] at hq
      exact ⟨q, hne, hq⟩
  · rintro ⟨q, hne, hq⟩
    exact ⟨q, by rw [Function.update_of_ne hne]; exact hq⟩

/-- Going to sleep. -/
theorem noneAsleep_block {s s' : SemSystem} {p : ProcessPtr} (hl : Listed s)
    (henq : s.phase p = .enqueued) (hsem : s'.sem = s.sem)
    (hph : s'.phase = Function.update s.phase p .blocked) :
    NoneAsleep s' ↔ s.sem.value ≤ 0 ∨ SomeWoken s := by
  have hmem : p ∈ s.sem.waiters := by simp [hl.mem_iff, henq]
  have hblocked : SomeBlocked s' := ⟨p, by rw [hsem]; exact hmem, by rw [hph]; simp⟩
  have hwoken : SomeWoken s' ↔ SomeWoken s := by
    rw [someWoken_update hph (by simp)]
    constructor
    · rintro ⟨q, -, hq⟩
      exact ⟨q, hq⟩
    · rintro ⟨q, hq⟩
      refine ⟨q, ?_, hq⟩
      rintro rfl
      rw [henq] at hq
      cases hq
  rw [noneAsleep_iff, hwoken, hsem]
  simp [hblocked]

/-- Leaving, with the unit still there. -/
theorem noneAsleep_leave {s s' : SemSystem} {p : ProcessPtr} (hl : Listed s)
    (hwoken : s.phase p = .woken) (hv : s'.sem.value = s.sem.value)
    (hw : s'.sem.waiters = s.sem.waiters.erase p)
    (hph : s'.phase = Function.update s.phase p .outside) :
    NoneAsleep s' ↔
      s.sem.value ≤ 0 ∨ (∃ q, q ≠ p ∧ s.phase q = .woken) ∨ ¬ SomeBlocked s := by
  have hblocked : SomeBlocked s' ↔ SomeBlocked s := by
    unfold SomeBlocked
    rw [hw, hph]
    constructor
    · rintro ⟨q, hq, hb⟩
      rw [hl.nodup.mem_erase_iff] at hq
      rw [Function.update_of_ne hq.1] at hb
      exact ⟨q, hq.2, hb⟩
    · rintro ⟨q, hq, hb⟩
      have hne : q ≠ p := by
        rintro rfl
        rw [hwoken] at hb
        cases hb
      exact ⟨q, hl.nodup.mem_erase_iff.mpr ⟨hne, hq⟩, by rw [Function.update_of_ne hne]; exact hb⟩
  rw [noneAsleep_iff, someWoken_update hph (by simp), hblocked, hv]

/-- A signal. The addressee may be anywhere in `semaphore_wait`. -/
theorem noneAsleep_signal {s s' : SemSystem}
    (hv : s'.sem.value = int32 (s.sem.value + 1)) (hw : s'.sem.waiters = s.sem.waiters)
    (hph : s'.phase = match s.sem.waiters.head? with
      | some p => wake s.phase p
      | none => s.phase) :
    NoneAsleep s' ↔ int32 (s.sem.value + 1) ≤ 0 ∨
      (∃ p, s.sem.waiters.head? = some p ∧ s.phase p = .blocked) ∨
      SomeWoken s ∨ ¬ SomeBlocked s := by
  rw [noneAsleep_iff, hv]
  by_cases hb : ∃ p, s.sem.waiters.head? = some p ∧ s.phase p = .blocked
  · obtain ⟨p, hp, hblocked⟩ := hb
    have hwoken : SomeWoken s' := ⟨p, by rw [hph, hp]; exact wake_blocked hblocked⟩
    simp [hwoken, hp, hblocked]
  · have hsame : s'.phase = s.phase := by
      rw [hph]
      cases hp : s.sem.waiters.head? with
      | none => rfl
      | some p => exact wake_of_not_blocked fun hblocked => hb ⟨p, hp, hblocked⟩
    rw [someWoken_congr hsame, someBlocked_congr hw hsame, or_iff_right hb]

/-- **One step** keeps the property exactly when it is taken in time. -/
theorem noneAsleep_step {s s' : SemSystem} {a : SemAction} (hl : Listed s) (h : NoneAsleep s)
    (hs : semStep s a = some s') : NoneAsleep s' ↔ Timely s a s' := by
  cases semStep_effect hs with
  | took p allocated hpos hv hw hph =>
    exact iff_of_true (noneAsleep_of_same h (by omega) hw hph) trivial
  | noMemory p hsem hph =>
    exact iff_of_true (noneAsleep_of_same h (by simp [hsem]) (by simp [hsem]) hph) trivial
  | queued p hout hv hv' hw hph =>
    exact iff_of_true (noneAsleep_iff.mpr (Or.inl (by omega))) trivial
  | slept p henq hsem hph => exact noneAsleep_block hl henq hsem hph
  | left p hwoken hv hw hph => exact noneAsleep_leave hl hwoken hv hw hph
  | tried hv hw hph => exact iff_of_true (noneAsleep_of_same h hv hw hph) trivial
  | signalled hv hw hph => exact noneAsleep_signal hv hw hph

/-! ## Runs -/

theorem noneAsleep_boot (n : Int) : NoneAsleep (SemSystem.boot n) := by
  rintro - - ⟨p, -, hp⟩
  cases hp

/--
**No sleeper is left with a unit in any state of a run iff every step is taken in time.**

The run is any interleaving of waits, signals and attempts, from any initial value.
-/
theorem noneAsleep_iff_timely (n : Int) (as : List SemAction) :
    Always semStep NoneAsleep (SemSystem.boot n) as ↔
      Along semStep Timely (SemSystem.boot n) as := by
  refine always_iff_along (I := fun s => Listed s ∧ NoneAsleep s) ?_ ?_
    ⟨listed_boot n, noneAsleep_boot n⟩ (noneAsleep_boot n)
  · rintro s a s' ⟨hl, h⟩ hs
    exact noneAsleep_step hl h hs
  · rintro s a s' ⟨hl, h⟩ hs ht
    exact ⟨listed_step hl hs, (noneAsleep_step hl h hs).mpr ht⟩

/-- A process is about to sleep when the signal comes; waking it has no effect. -/
def lateSleepRun : List SemAction :=
  [.wait 0xD0000010 true, .signal, .block 0xD0000010]

/-- **A process sleeps in front of a unit**, and nobody is there to wake it. -/
theorem unit_leaves_sleeper :
    ∃ s, run semStep (SemSystem.boot 0) lateSleepRun = some s ∧
      s.sem.value = 1 ∧ s.sem.waiters = [0xD0000010] ∧ s.phase 0xD0000010 = .blocked ∧
      ¬ NoneAsleep s := by
  obtain ⟨s, hrun, hv, hw, hb⟩ : ∃ s, run semStep (SemSystem.boot 0) lateSleepRun = some s ∧
      s.sem.value = 1 ∧ s.sem.waiters = [0xD0000010] ∧ s.phase 0xD0000010 = .blocked :=
    ⟨_, rfl, rfl, rfl, rfl⟩
  have hl : Listed s := invariant_run (fun _ _ _ => listed_step) (listed_boot 0) hrun
  refine ⟨s, hrun, hv, hw, hb, fun h => h (by omega) ?_ ⟨_, by simp [hw], hb⟩⟩
  rintro ⟨p, hp⟩
  have hmem : p ∈ s.sem.waiters := by simp [hl.mem_iff, hp]
  obtain rfl : p = 0xD0000010 := by simpa [hw] using hmem
  rw [hb] at hp
  cases hp

end MayaOs.Kernel
