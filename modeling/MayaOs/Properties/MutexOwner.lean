import MayaOs.Lib.Run
import MayaOs.Kernel.Mutex

/-!
# Mutual exclusion

* `owner_iff_allocated` — whoever is inside owns the mutex, as long as no `mutex_lock` that has to
  wait runs out of memory
* `lock_without_memory` — two processes are inside
-/

namespace MayaOs.Kernel

open MayaOs.Lib

/-! ## The property -/

/-- At most one process is inside, and it is the owner. -/
structure Exclusive (s : MutexSystem) : Prop where
  unique : ∀ p q, s.phase p = .inside → s.phase q = .inside → p = q
  owner : ∀ p, s.phase p = .inside → s.mutex.owner = p

theorem Exclusive.of_owner {s : MutexSystem} (h : ∀ p, s.phase p = .inside → s.mutex.owner = p) :
    Exclusive s :=
  ⟨fun p q hp hq => (h p hp).symm.trans (h q hq), h⟩

/-- A call that finds the mutex taken gets memory for its entry. -/
def EntryAllocated (s : MutexSystem) (a : MutexAction) (_ : MutexSystem) : Prop :=
  match a with
  | .lock _ allocated => s.mutex.locked = false ∨ allocated = true
  | _ => True

/-- The mutex is taken exactly while its owner is inside, and nobody else is. -/
structure Owned (s : MutexSystem) : Prop where
  held : s.mutex.locked = true → s.phase s.mutex.owner = .inside
  inside : ∀ p, s.phase p = .inside → s.mutex.locked = true ∧ s.mutex.owner = p

theorem Owned.exclusive {s : MutexSystem} (h : Owned s) : Exclusive s :=
  .of_owner fun p hp => (h.inside p hp).2

theorem owned_boot : Owned MutexSystem.boot := by
  refine ⟨fun h => ?_, fun p hp => ?_⟩
  · cases h
  · cases hp

/-! ## Steps -/

variable {s s' : MutexSystem} {p : ProcessPtr}

/-- The mutex was free and `p` has taken it. -/
theorem Owned.taken (h : Owned s) (hfree : s.mutex.locked = false)
    (hlocked : s'.mutex.locked = true) (howner : s'.mutex.owner = p)
    (hphase : s'.phase = Function.update s.phase p .inside) : Owned s' := by
  refine ⟨fun _ => ?_, fun q hq => ⟨hlocked, ?_⟩⟩
  · rw [howner, hphase, Function.update_self]
  · rw [hphase] at hq
    rcases eq_or_ne q p with rfl | hne
    · exact howner
    · rw [Function.update_of_ne hne] at hq
      have := (h.inside q hq).1
      simp [hfree] at this

/-- `p`, which is not inside, goes on waiting. -/
theorem Owned.waits (h : Owned s) (hp : s.phase p ≠ .inside)
    (hlocked : s'.mutex.locked = s.mutex.locked) (howner : s'.mutex.owner = s.mutex.owner)
    (hphase : s'.phase = Function.update s.phase p .waiting) : Owned s' := by
  refine ⟨fun hl => ?_, fun q hq => ?_⟩
  · rw [hlocked] at hl
    have hin := h.held hl
    have hne : s.mutex.owner ≠ p := by
      rintro rfl
      exact hp hin
    rw [howner, hphase, Function.update_of_ne hne]
    exact hin
  · rw [hphase] at hq
    rcases eq_or_ne q p with rfl | hne
    · rw [Function.update_self] at hq
      cases hq
    · rw [Function.update_of_ne hne] at hq
      rw [hlocked, howner]
      exact h.inside q hq

/-- A turn of the loop takes a free mutex and leaves a taken one as it is. -/
theorem mutexLockTurn_cases (m : Mutex) (p : ProcessPtr) :
    (m.locked = false ∧ mutexLockTurn m p =
      (true, { locked := true, owner := p, waiters := m.waiters.erase p })) ∨
    (m.locked = true ∧ mutexLockTurn m p = (false, m)) := by
  cases hl : m.locked with
  | false => exact Or.inl ⟨rfl, by simp [mutexLockTurn, mutexTryLock, hl]⟩
  | true => exact Or.inr ⟨rfl, by simp [mutexLockTurn, mutexTryLock, hl]⟩

/-- The first section of `mutex_lock`, called by a process that is not the owner. -/
theorem mutexLock_cases {m : Mutex} {p : ProcessPtr} (hp : m.locked = true → m.owner ≠ p)
    (allocated : Bool) :
    (m.locked = false ∧ mutexLock m p allocated = (true, { m with locked := true, owner := p })) ∨
    (m.locked = true ∧ allocated = true ∧
      mutexLock m p allocated = (false, { m with waiters := m.waiters ++ [p] })) ∨
    (m.locked = true ∧ allocated = false ∧ mutexLock m p allocated = (true, m)) := by
  cases hl : m.locked with
  | false => exact Or.inl ⟨rfl, by simp [mutexLock, mutexTryLock, hl]⟩
  | true =>
    have hne := hp hl
    cases allocated with
    | true =>
      exact Or.inr (Or.inl ⟨rfl, rfl, by simp [mutexLock, mutexLockTurn, mutexTryLock, hl, hne]⟩)
    | false => exact Or.inr (Or.inr ⟨rfl, rfl, by simp [mutexLock, mutexTryLock, hl, hne]⟩)

/-- **One step** keeps the owner right, unless a waiting call runs out of memory. -/
theorem owned_step {a : MutexAction} (h : Owned s) (hs : mutexStep s a = some s') :
    (EntryAllocated s a s' → Owned s') ∧ (Exclusive s' → EntryAllocated s a s') := by
  cases a with
  | lock p allocated =>
    simp only [mutexStep] at hs
    split at hs
    · cases hs
    · rename_i hout
      rw [not_not] at hout
      have hp : s.phase p ≠ .inside := by simp [hout]
      have hother : s.mutex.locked = true → s.mutex.owner ≠ p := by
        rintro hl rfl
        exact hp (h.held hl)
      cases hs
      rcases mutexLock_cases hother allocated with ⟨hl, heq⟩ | ⟨hl, ha, heq⟩ | ⟨hl, ha, heq⟩
      · rw [heq]
        exact ⟨fun _ => h.taken (p := p) hl rfl rfl rfl, fun _ => Or.inl hl⟩
      · rw [heq]
        exact ⟨fun _ => h.waits hp rfl rfl rfl, fun _ => Or.inr ha⟩
      · -- the call returns without the mutex, whose owner is another process
        rw [heq]
        refine ⟨fun hc => ?_, fun hex => ?_⟩
        · rcases hc with hc | hc
          · simp [hl] at hc
          · simp [ha] at hc
        · exact absurd (hex.owner p (by simp [MutexSystem.after])) (hother hl)
  | turn p =>
    simp only [mutexStep] at hs
    split at hs
    · cases hs
    · rename_i hwait
      rw [not_not] at hwait
      have hp : s.phase p ≠ .inside := by simp [hwait]
      cases hs
      refine ⟨fun _ => ?_, fun _ => trivial⟩
      rcases mutexLockTurn_cases s.mutex p with ⟨hl, heq⟩ | ⟨hl, heq⟩
      · rw [heq]
        exact h.taken (p := p) hl rfl rfl rfl
      · rw [heq]
        exact h.waits hp rfl rfl rfl
  | unlock p =>
    simp only [mutexStep] at hs
    split at hs
    · cases hs
    · rename_i hin
      rw [not_not] at hin
      obtain ⟨hl, howner⟩ := h.inside p hin
      cases hs
      refine ⟨fun _ => ⟨fun hl' => ?_, fun q hq => ?_⟩, fun _ => trivial⟩
      · simp [mutexUnlock, howner] at hl'
      · rcases eq_or_ne q p with rfl | hne
        · simp at hq
        · simp only [Function.update_of_ne hne] at hq
          exact absurd ((h.inside q hq).2.symm.trans howner) hne

/-! ## Runs -/

/--
**Mutual exclusion holds throughout a run iff no call that has to wait runs out of memory.**

The run is any interleaving of the sections of `mutex_lock` and `mutex_unlock`.
-/
theorem owner_iff_allocated (as : List MutexAction) :
    Always mutexStep Exclusive MutexSystem.boot as ↔
      Along mutexStep EntryAllocated MutexSystem.boot as := by
  refine always_iff_along (I := Owned) ?_ ?_ owned_boot owned_boot.exclusive
  · intro s a s' h hs
    obtain ⟨hkeep, hneeds⟩ := owned_step h hs
    exact ⟨hneeds, fun hc => (hkeep hc).exclusive⟩
  · intro s a s' h hs hc
    exact (owned_step h hs).1 hc

/-- The second process gets no memory for its entry. -/
def noMemoryRun : List MutexAction := [.lock 0xD0000010 true, .lock 0xD0000200 false]

/-- **Two processes are inside**, one of which does not own the mutex. -/
theorem lock_without_memory :
    ∃ s, run mutexStep MutexSystem.boot noMemoryRun = some s ∧
      s.phase 0xD0000010 = .inside ∧ s.phase 0xD0000200 = .inside ∧
      s.mutex.owner = 0xD0000010 ∧ ¬ Exclusive s := by
  refine ⟨_, rfl, rfl, rfl, rfl, fun h => ?_⟩
  exact absurd (h.unique 0xD0000010 0xD0000200 rfl rfl) (by decide)

end MayaOs.Kernel
