import MayaOs.Kernel.Condition
import MayaOs.Lib.Run
import MayaOs.Properties.MutexOwner

/-!
# A signal before process_block

`condition_wait` releases its locks before it suspends the process. A signal that comes in between
takes the entry and wakes nobody; `process_block` then suspends a process that no later signal or
broadcast can find.

* `unstranded_of_wakesSuspended` — while signals and broadcasts only take the entries of suspended
  processes, nobody is suspended without an entry; a run in which one does not can be continued to
  such a state by one step
* `signal_lost` — a process that stays suspended whatever is done
-/

namespace MayaOs.Kernel

open MayaOs.Lib

/-! ## The property -/

/-- A process whose entry has been removed by a signal or a broadcast is not suspended. -/
def Unstranded (s : ConditionSystem) : Prop :=
  ∀ p, s.removed p = true → ∀ c m, s.phase p ≠ .suspended c m

def ConditionPhase.isSuspended : ConditionPhase → Bool
  | .suspended _ _ => true
  | _ => false

/-- A signal and a broadcast remove only the entries of processes that `process_block` has suspended. -/
def WakesSuspended (s : ConditionSystem) (a : ConditionAction) (_ : ConditionSystem) : Prop :=
  match a with
  | .signal _ c => ∀ p ∈ (conditionSignal (s.waiters c)).1, (s.phase p).isSuspended = true
  | .broadcast _ c => ∀ p ∈ (conditionBroadcast (s.waiters c)).1, (s.phase p).isSuspended = true
  | _ => True

/-! ## process_wake -/

/-- The condition variable a process is waiting for. -/
def ConditionPhase.condition : ConditionPhase → Option ConditionPtr
  | .enqueued c _ => some c
  | .suspended c _ => some c
  | _ => none

theorem ConditionPhase.wake_wake (phase : ConditionPhase) : phase.wake.wake = phase.wake := by
  cases phase <;> rfl

/-- **Waking a list of processes** changes the suspended ones among them. -/
theorem foldl_wakeSuspended_apply (q : ProcessPtr) : ∀ (l : List ProcessPtr)
    (phase : ProcessPtr → ConditionPhase),
    l.foldl wakeSuspended phase q = if q ∈ l then (phase q).wake else phase q := by
  intro l
  induction l with
  | nil => intro phase; rfl
  | cons p l ih =>
    intro phase
    rw [List.foldl_cons, ih]
    rcases eq_or_ne q p with rfl | hne
    · rw [if_pos List.mem_cons_self, wakeSuspended, Function.update_self, ConditionPhase.wake_wake,
        ite_self]
    · rw [wakeSuspended, Function.update_of_ne hne]
      simp only [List.mem_cons, hne, false_or]

/-! ## The invariant -/

/-- Every entry belongs to a process that is waiting for that condition variable. -/
structure CondInv (s : ConditionSystem) : Prop where
  entries : ∀ c, ∀ p ∈ s.waiters c, s.removed p = false ∧ (s.phase p).condition = some c
  nodup : ∀ c, (s.waiters c).Nodup
  lockers : ∀ m, ∀ p ∈ (s.mutexes m).waiters, s.phase p = .locking m
  lockersNodup : ∀ m, (s.mutexes m).waiters.Nodup

/-- No process that is waiting has lost its entry. -/
def Kept (s : ConditionSystem) : Prop :=
  ∀ p, (s.phase p).condition.isSome = true → s.removed p = false

theorem Kept.unstranded {s : ConditionSystem} (h : Kept s) : Unstranded s := by
  intro p hremoved c m hp
  have hkept := h p (by rw [hp]; rfl)
  rw [hkept] at hremoved
  simp at hremoved

theorem condInv_boot : CondInv ConditionSystem.boot where
  entries := by intro c p hp; cases hp
  nodup := fun _ => List.nodup_nil
  lockers := by intro m p hp; cases hp
  lockersNodup := fun _ => List.nodup_nil

theorem kept_boot : Kept ConditionSystem.boot := fun _ _ => rfl

/-! ### mutex_lock and mutex_unlock -/

/-- The waiters of a mutex after a section of `mutex_lock`: `p` is one of them iff it goes on. -/
structure Queues (mu : Mutex) (p : ProcessPtr) (r : Bool × Mutex) : Prop where
  nodup : r.2.waiters.Nodup
  others : ∀ q ∈ r.2.waiters, q ≠ p → q ∈ mu.waiters
  leaves : r.1 = true → p ∉ r.2.waiters

theorem queues_mutexLockTurn {mu : Mutex} {p : ProcessPtr} (hn : mu.waiters.Nodup) :
    Queues mu p (mutexLockTurn mu p) := by
  rcases mutexLockTurn_cases mu p with ⟨-, h⟩ | ⟨-, h⟩
  · rw [h]
    exact ⟨hn.erase p, fun q hq _ => List.mem_of_mem_erase hq, fun _ => hn.not_mem_erase⟩
  · rw [h]
    exact ⟨hn, fun q hq _ => hq, fun hr => by cases hr⟩

theorem queues_mutexLock {mu : Mutex} {p : ProcessPtr} (hn : mu.waiters.Nodup)
    (hp : p ∉ mu.waiters) (allocated : Bool) : Queues mu p (mutexLock mu p allocated) := by
  have hsame : ∀ mu' : Mutex, mu'.waiters = mu.waiters → Queues mu p (true, mu') := by
    intro mu' hw
    exact ⟨by rw [hw]; exact hn, fun q hq _ => by rw [← hw]; exact hq, fun _ => by rw [hw]; exact hp⟩
  unfold mutexLock
  simp only []
  split
  · next htry =>
    unfold mutexTryLock at htry ⊢
    split
    · exact hsame _ rfl
    · next hlocked => rw [if_neg hlocked] at htry; cases htry
  · split
    · exact hsame mu rfl
    · split
      · exact hsame mu rfl
      · -- the new entry is the last one
        have hn' : (mu.waiters ++ [p]).Nodup := by
          rw [List.nodup_append]
          refine ⟨hn, by simp, ?_⟩
          rintro a ha b hb rfl
          exact hp (List.mem_singleton.mp hb ▸ ha)
        have h : Queues { mu with waiters := mu.waiters ++ [p] } p
            (mutexLockTurn { mu with waiters := mu.waiters ++ [p] } p) := queues_mutexLockTurn hn'
        refine ⟨h.nodup, fun q hq hne => ?_, h.leaves⟩
        have hq' := h.others q hq hne
        simpa [hne] using hq'

/-- **A section of `mutex_lock`** does not touch the condition variables. -/
theorem CondInv.afterLock {s : ConditionSystem} (h : CondInv s) {p : ProcessPtr} {m : MutexPtr}
    {r : Bool × Mutex} (hr : Queues (s.mutexes m) p r) (hp : (s.phase p).condition = none)
    (hother : ∀ m', m' ≠ m → p ∉ (s.mutexes m').waiters) : CondInv (s.afterLock p m r) where
  entries := by
    intro c q hq
    obtain ⟨hremoved, hphase⟩ := h.entries c q hq
    have hqp : q ≠ p := by
      rintro rfl
      rw [hp] at hphase
      simp at hphase
    refine ⟨hremoved, ?_⟩
    show (Function.update s.phase p _ q).condition = some c
    rw [Function.update_of_ne hqp]
    exact hphase
  nodup := h.nodup
  lockers := by
    intro m' q hq
    show Function.update s.phase p _ q = _
    have hq' : q ∈ (Function.update s.mutexes m r.2 m').waiters := hq
    by_cases hm : m' = m
    · subst hm
      rw [Function.update_self] at hq'
      rcases eq_or_ne q p with rfl | hne
      · rw [Function.update_self, if_neg fun hret => hr.leaves hret hq']
      · rw [Function.update_of_ne hne]
        exact h.lockers m' q (hr.others q hq' hne)
    · rw [Function.update_of_ne hm] at hq'
      rw [Function.update_of_ne (fun he : q = p => hother m' hm (he ▸ hq'))]
      exact h.lockers m' q hq'
  lockersNodup := by
    intro m'
    show (Function.update s.mutexes m r.2 m').waiters.Nodup
    by_cases hm : m' = m
    · subst hm
      rw [Function.update_self]
      exact hr.nodup
    · rw [Function.update_of_ne hm]
      exact h.lockersNodup m'

theorem mutexUnlock_waiters (mu : Mutex) (p : ProcessPtr) :
    (mutexUnlock mu p).2.waiters = mu.waiters ∧ ∀ q ∈ (mutexUnlock mu p).1, q ∈ mu.waiters := by
  unfold mutexUnlock
  split
  · exact ⟨rfl, fun q hq => by cases hq⟩
  · exact ⟨rfl, fun q hq => List.mem_of_mem_head? hq⟩

/-- **`mutex_unlock` wakes nobody**: the waiters of a mutex are in `mutex_lock`. -/
theorem CondInv.unlock_phase {s : ConditionSystem} (h : CondInv s) (m : MutexPtr) (p : ProcessPtr) :
    (s.afterUnlock m (mutexUnlock (s.mutexes m) p)).phase = s.phase := by
  funext q
  show ((mutexUnlock (s.mutexes m) p).1.toList.foldl wakeSuspended s.phase) q = s.phase q
  rw [foldl_wakeSuspended_apply]
  split
  · next hq =>
    rw [h.lockers m q ((mutexUnlock_waiters _ p).2 q (Option.mem_toList.mp hq))]
    rfl
  · rfl

theorem CondInv.unlock_waiters {s : ConditionSystem} (m m' : MutexPtr) (p : ProcessPtr) :
    ((s.afterUnlock m (mutexUnlock (s.mutexes m) p)).mutexes m').waiters
      = (s.mutexes m').waiters := by
  show (Function.update s.mutexes m _ m').waiters = _
  by_cases hm : m' = m
  · subst hm
    rw [Function.update_self]
    exact (mutexUnlock_waiters _ p).1
  · rw [Function.update_of_ne hm]

/-- A process outside of the functions has an entry nowhere. -/
theorem CondInv.no_entry {s : ConditionSystem} (h : CondInv s) {p : ProcessPtr}
    (hp : (s.phase p).condition = none) (c : ConditionPtr) : p ∉ s.waiters c := by
  intro hin
  have hc := (h.entries c p hin).2
  rw [hp] at hc
  simp at hc

theorem CondInv.no_lock {s : ConditionSystem} (h : CondInv s) {p : ProcessPtr} {m : MutexPtr}
    (hp : s.phase p ≠ .locking m) : p ∉ (s.mutexes m).waiters :=
  fun hin => hp (h.lockers m p hin)

/-! ### Condition variables -/

/-- **`condition_wait` up to the release of its locks.** -/
theorem CondInv.wait {s t : ConditionSystem} (h : CondInv s) {p : ProcessPtr} {c : ConditionPtr}
    {m : MutexPtr} (hp : s.phase p = .outside)
    (hwaiters : t.waiters = Function.update s.waiters c (s.waiters c ++ [p]))
    (hmutexes : ∀ m', (t.mutexes m').waiters = (s.mutexes m').waiters)
    (hphase : t.phase = Function.update s.phase p (.enqueued c m))
    (hremoved : t.removed = Function.update s.removed p false) : CondInv t := by
  have hnot := h.no_entry (p := p) (by rw [hp]; rfl)
  have hne : ∀ c', ∀ q ∈ s.waiters c', q ≠ p := fun c' q hq he => hnot c' (he ▸ hq)
  refine ⟨?_, ?_, ?_, ?_⟩
  · intro c' q hq
    rw [hremoved, hphase]
    rcases eq_or_ne q p with rfl | hqp
    · rw [Function.update_self, Function.update_self]
      -- the new entry is in the list of `c` only
      by_cases hc : c' = c
      · rw [hc]
        exact ⟨rfl, rfl⟩
      · rw [hwaiters, Function.update_of_ne hc] at hq
        exact absurd hq (hnot c')
    · rw [Function.update_of_ne hqp, Function.update_of_ne hqp]
      refine h.entries c' q ?_
      rw [hwaiters] at hq
      by_cases hc : c' = c
      · subst hc
        rw [Function.update_self] at hq
        simpa [hqp] using hq
      · rwa [Function.update_of_ne hc] at hq
  · intro c'
    rw [hwaiters]
    by_cases hc : c' = c
    · subst hc
      rw [Function.update_self, List.nodup_append]
      refine ⟨h.nodup c', by simp, ?_⟩
      intro a ha b hb
      rw [List.mem_singleton.mp hb]
      exact hne c' a ha
    · rw [Function.update_of_ne hc]
      exact h.nodup c'
  · intro m' q hq
    rw [hmutexes] at hq
    have hlock := h.lockers m' q hq
    have hqp : q ≠ p := by
      rintro rfl
      rw [hp] at hlock
      simp at hlock
    rw [hphase, Function.update_of_ne hqp]
    exact hlock
  · intro m'
    rw [hmutexes]
    exact h.lockersNodup m'

/-- **A signal or a broadcast**: `rest` is what it leaves of the waiters. -/
theorem CondInv.afterWake {s : ConditionSystem} (h : CondInv s) {c : ConditionPtr}
    {woken rest : List ProcessPtr} (hsplit : s.waiters c = woken ++ rest) :
    CondInv (s.afterWake c (woken, rest)) := by
  have hphase : ∀ q, (s.afterWake c (woken, rest)).phase q
      = if q ∈ woken then (s.phase q).wake else s.phase q :=
    fun q => foldl_wakeSuspended_apply q woken s.phase
  have hnodup := h.nodup c
  rw [hsplit, List.nodup_append] at hnodup
  have hold : ∀ c', ∀ q ∈ (s.afterWake c (woken, rest)).waiters c', q ∈ s.waiters c' ∧ q ∉ woken := by
    intro c' q hq
    have hq' : q ∈ Function.update s.waiters c rest c' := hq
    by_cases hc : c' = c
    · subst hc
      rw [Function.update_self] at hq'
      refine ⟨by rw [hsplit]; exact List.mem_append_right _ hq', fun hw => ?_⟩
      exact hnodup.2.2 q hw q hq' rfl
    · rw [Function.update_of_ne hc] at hq'
      refine ⟨hq', fun hw => hc ?_⟩
      -- a process waits for one condition variable only
      have hq₁ := (h.entries c' q hq').2
      have hq₂ := (h.entries c q (by rw [hsplit]; exact List.mem_append_left _ hw)).2
      rw [hq₁] at hq₂
      exact Option.some.inj hq₂
  refine ⟨?_, ?_, ?_, h.lockersNodup⟩
  · intro c' q hq
    obtain ⟨hin, hw⟩ := hold c' q hq
    obtain ⟨hremoved, hcond⟩ := h.entries c' q hin
    refine ⟨?_, by rw [hphase, if_neg hw]; exact hcond⟩
    show (if q ∈ woken then true else s.removed q) = false
    rw [if_neg hw]
    exact hremoved
  · intro c'
    show (Function.update s.waiters c rest c').Nodup
    by_cases hc : c' = c
    · subst hc
      rw [Function.update_self]
      exact hnodup.2.1
    · rw [Function.update_of_ne hc]
      exact h.nodup c'
  · intro m q hq
    have hlock := h.lockers m q hq
    rw [hphase, hlock]
    exact ite_self _

theorem conditionSignal_append (waiters : List ProcessPtr) :
    waiters = (conditionSignal waiters).1 ++ (conditionSignal waiters).2 :=
  (List.take_append_drop 1 waiters).symm

theorem conditionBroadcast_append (waiters : List ProcessPtr) :
    waiters = (conditionBroadcast waiters).1 ++ (conditionBroadcast waiters).2 :=
  (List.append_nil waiters).symm

/-- `process_block` of a process that waits. -/
theorem CondInv.block {s : ConditionSystem} (h : CondInv s) {p : ProcessPtr} {c : ConditionPtr}
    {m : MutexPtr} (hp : s.phase p = .enqueued c m) :
    CondInv { s with phase := Function.update s.phase p (.suspended c m) } := by
  refine ⟨?_, h.nodup, ?_, h.lockersNodup⟩
  · intro c' q hq
    obtain ⟨hremoved, hcond⟩ := h.entries c' q hq
    refine ⟨hremoved, ?_⟩
    rcases eq_or_ne q p with rfl | hqp
    · rw [hp] at hcond
      show (Function.update s.phase q _ q).condition = _
      rw [Function.update_self]
      exact hcond
    · show (Function.update s.phase p _ q).condition = _
      rw [Function.update_of_ne hqp]
      exact hcond
  · intro m' q hq
    have hlock := h.lockers m' q hq
    have hqp : q ≠ p := by
      rintro rfl
      rw [hp] at hlock
      simp at hlock
    show Function.update s.phase p _ q = _
    rw [Function.update_of_ne hqp]
    exact hlock

/-! ## Steps -/

/-- **What a step does** to the places of the processes and to their entries. -/
inductive ConditionEffect (s t : ConditionSystem) : ConditionAction → Prop where
  /-- a section of `mutex_lock`, or `condition_wait` without memory for its entry -/
  | moves (a : ConditionAction) (p : ProcessPtr) (x : ConditionPhase) (ha : WakesSuspended s a t)
      (hp : (s.phase p).condition = none) (hx : x.condition = none)
      (hphase : t.phase = Function.update s.phase p x) (hremoved : t.removed = s.removed) :
      ConditionEffect s t a
  | enqueues (a : ConditionAction) (p : ProcessPtr) (c : ConditionPtr) (m : MutexPtr)
      (ha : WakesSuspended s a t) (hp : s.phase p = .outside) (hphase : t.phase = Function.update s.phase p (.enqueued c m))
      (hremoved : t.removed = Function.update s.removed p false) : ConditionEffect s t a
  | blocks (p : ProcessPtr) (c : ConditionPtr) (m : MutexPtr) (hp : s.phase p = .enqueued c m)
      (hphase : t.phase = Function.update s.phase p (.suspended c m))
      (hremoved : t.removed = s.removed) : ConditionEffect s t (.block p)
  | signals (p : ProcessPtr) (c : ConditionPtr)
      (ht : t = s.afterWake c (conditionSignal (s.waiters c))) : ConditionEffect s t (.signal p c)
  | broadcasts (p : ProcessPtr) (c : ConditionPtr)
      (ht : t = s.afterWake c (conditionBroadcast (s.waiters c))) :
      ConditionEffect s t (.broadcast p c)

/-- A section of `mutex_lock` of a process that is in none of the lists of other mutexes. -/
theorem CondInv.lock_step {s : ConditionSystem} (h : CondInv s) {a : ConditionAction}
    {p : ProcessPtr} {m : MutexPtr} {r : Bool × Mutex} (hr : Queues (s.mutexes m) p r)
    (ha : WakesSuspended s a (s.afterLock p m r)) (hp : (s.phase p).condition = none)
    (hother : ∀ m', m' ≠ m → p ∉ (s.mutexes m').waiters) :
    CondInv (s.afterLock p m r) ∧ ConditionEffect s (s.afterLock p m r) a := by
  refine ⟨h.afterLock hr hp hother, .moves a p _ ha hp ?_ rfl rfl⟩
  split <;> rfl

theorem CondInv.wait_step {s t : ConditionSystem} (h : CondInv s) {p : ProcessPtr}
    {c : ConditionPtr} {m : MutexPtr} {allocated : Bool}
    (hs : conditionStep s (.wait p c m allocated) = some t) :
    CondInv t ∧ ConditionEffect s t (.wait p c m allocated) := by
  simp only [conditionStep] at hs
  split at hs
  · cases hs
  · next hp =>
    have hout : s.phase p = .outside := not_not.mp hp
    unfold conditionEnqueue at hs
    cases allocated with
    | false =>
      cases hs
      exact ⟨h, .moves _ p .outside trivial (by rw [hout]; rfl) rfl (by rw [← hout, Function.update_eq_self])
        rfl⟩
    | true =>
      have ht := (Option.some.inj hs).symm
      have hphase : t.phase = Function.update s.phase p (.enqueued c m) := by
        rw [ht]
        show Function.update (s.afterUnlock m _).phase p _ = _
        rw [h.unlock_phase]
      have hremoved : t.removed = Function.update s.removed p false := by rw [ht]; rfl
      refine ⟨h.wait hout (by rw [ht]; rfl) ?_ hphase hremoved, .enqueues _ p c m trivial hout hphase
        hremoved⟩
      intro m'
      rw [ht]
      exact CondInv.unlock_waiters m m' p

theorem CondInv.unlock_step {s t : ConditionSystem} (h : CondInv s) {p : ProcessPtr} {m : MutexPtr}
    (hs : conditionStep s (.unlock p m) = some t) : CondInv t ∧ ConditionEffect s t (.unlock p m) := by
  simp only [conditionStep] at hs
  split at hs
  · cases hs
  · next hp =>
    cases hs
    have hphase := h.unlock_phase m p
    have hw := fun m' => CondInv.unlock_waiters (s := s) m m' p
    refine ⟨⟨?_, h.nodup, ?_, ?_⟩, .moves _ p (s.phase p) trivial ?_ ?_ ?_ rfl⟩
    · rw [hphase]
      exact h.entries
    · intro m' q hq
      rw [hw] at hq
      rw [hphase]
      exact h.lockers m' q hq
    · intro m'
      rw [hw]
      exact h.lockersNodup m'
    · rw [not_not.mp hp]
      rfl
    · rw [not_not.mp hp]
      rfl
    · rw [hphase, Function.update_eq_self]

/-- **Every step keeps the invariant**, and is one of the listed ones. -/
theorem conditionStep_effect {s t : ConditionSystem} {a : ConditionAction} (h : CondInv s)
    (hs : conditionStep s a = some t) : CondInv t ∧ ConditionEffect s t a := by
  cases a with
  | lock p m allocated =>
    simp only [conditionStep] at hs
    split at hs
    · cases hs
    · next hp =>
      cases hs
      have hout : s.phase p = .outside := not_not.mp hp
      have hno : ∀ m', p ∉ (s.mutexes m').waiters := fun m' => h.no_lock (by rw [hout]; simp)
      exact h.lock_step (queues_mutexLock (h.lockersNodup m) (hno m) allocated) trivial
        (by rw [hout]; rfl) fun m' _ => hno m'
  | turn p =>
    simp only [conditionStep] at hs
    split at hs
    · next m hp =>
      cases hs
      refine h.lock_step (queues_mutexLockTurn (h.lockersNodup m)) trivial (by rw [hp]; rfl) ?_
      intro m' hm
      refine h.no_lock ?_
      rw [hp]
      exact fun he => hm (ConditionPhase.locking.inj he).symm
    · cases hs
  | unlock p m => exact h.unlock_step hs
  | wait p c m allocated => exact h.wait_step hs
  | block p =>
    simp only [conditionStep] at hs
    split at hs
    · next c m hp =>
      cases hs
      exact ⟨h.block hp, .blocks p c m hp rfl rfl⟩
    · cases hs
  | relock p allocated =>
    simp only [conditionStep] at hs
    split at hs
    · next m hp =>
      cases hs
      have hno : ∀ m', p ∉ (s.mutexes m').waiters := fun m' => h.no_lock (by rw [hp]; simp)
      exact h.lock_step (queues_mutexLock (h.lockersNodup m) (hno m) allocated) trivial
        (by rw [hp]; rfl) fun m' _ => hno m'
    · cases hs
  | signal p c =>
    simp only [conditionStep] at hs
    split at hs
    · cases hs
    · cases hs
      exact ⟨h.afterWake (conditionSignal_append _), .signals p c rfl⟩
  | broadcast p c =>
    simp only [conditionStep] at hs
    split at hs
    · cases hs
    · cases hs
      exact ⟨h.afterWake (conditionBroadcast_append _), .broadcasts p c rfl⟩

/-- Suspended processes that are woken wait no longer. -/
theorem Kept.afterWake {s : ConditionSystem} (h : Kept s) (c : ConditionPtr)
    {r : List ProcessPtr × List ProcessPtr}
    (hwoken : ∀ p ∈ r.1, (s.phase p).isSuspended = true) : Kept (s.afterWake c r) := by
  intro p hp
  have hp' : ((r.1.foldl wakeSuspended s.phase) p).condition.isSome = true := hp
  show (if p ∈ r.1 then true else s.removed p) = false
  rw [foldl_wakeSuspended_apply] at hp'
  by_cases hin : p ∈ r.1
  · exfalso
    rw [if_pos hin] at hp'
    have hsus := hwoken p hin
    cases hphase : s.phase p with
    | suspended c' m => rw [hphase] at hp'; cases hp'
    | _ => rw [hphase] at hsus; cases hsus
  · rw [if_neg hin] at hp' ⊢
    exact h p hp'

/-- **A step that takes the entries of suspended processes only.** -/
theorem kept_step {s t : ConditionSystem} {a : ConditionAction} (h : CondInv s) (hk : Kept s)
    (hs : conditionStep s a = some t) (hwakes : WakesSuspended s a t) : Kept t := by
  cases (conditionStep_effect h hs).2 with
  | moves _ p x _ hp hx hphase hremoved =>
    intro q hq
    rw [hphase] at hq
    rw [hremoved]
    rcases eq_or_ne q p with rfl | hne
    · rw [Function.update_self, hx] at hq
      simp at hq
    · rw [Function.update_of_ne hne] at hq
      exact hk q hq
  | enqueues _ p c m _ hp hphase hremoved =>
    intro q hq
    rw [hphase] at hq
    rw [hremoved]
    rcases eq_or_ne q p with rfl | hne
    · rw [Function.update_self]
    · rw [Function.update_of_ne hne] at hq ⊢
      exact hk q hq
  | blocks p c m hp hphase hremoved =>
    intro q hq
    rw [hphase] at hq
    rw [hremoved]
    rcases eq_or_ne q p with rfl | hne
    · exact hk q (by rw [hp]; rfl)
    · rw [Function.update_of_ne hne] at hq
      exact hk q hq
  | signals p c ht =>
    rw [ht]
    exact hk.afterWake c hwakes
  | broadcasts p c ht =>
    rw [ht]
    exact hk.afterWake c hwakes

/-! ## Stranded processes -/

/-- `p` is suspended, and its entry is gone. -/
def Stranded (p : ProcessPtr) (s : ConditionSystem) : Prop :=
  s.removed p = true ∧ (s.phase p).isSuspended = true

/-- **Nobody wakes a stranded process.** -/
theorem stranded_step {s t : ConditionSystem} {a : ConditionAction} {p : ProcessPtr}
    (h : CondInv s) (hp : Stranded p s) (hs : conditionStep s a = some t) : Stranded p t := by
  obtain ⟨hremoved, hsus⟩ := hp
  -- whoever acts is in another phase
  have hne : ∀ q, (s.phase q).isSuspended = false → p ≠ q := by
    rintro q hq rfl
    rw [hq] at hsus
    simp at hsus
  have hwake : ∀ (c : ConditionPtr) (r : List ProcessPtr × List ProcessPtr),
      s.waiters c = r.1 ++ r.2 → Stranded p (s.afterWake c r) := by
    intro c r hsplit
    have hnot : p ∉ r.1 := by
      intro hin
      have hentry := (h.entries c p (by rw [hsplit]; exact List.mem_append_left _ hin)).1
      rw [hremoved] at hentry
      simp at hentry
    refine ⟨?_, ?_⟩
    · show (if p ∈ r.1 then true else s.removed p) = true
      rw [if_neg hnot]
      exact hremoved
    · show ((r.1.foldl wakeSuspended s.phase) p).isSuspended = true
      rw [foldl_wakeSuspended_apply, if_neg hnot]
      exact hsus
  cases (conditionStep_effect h hs).2 with
  | moves _ q x _ hq hx hphase hrem =>
    have hpq : p ≠ q := hne q (by
      cases hphase' : s.phase q with
      | suspended c m => rw [hphase'] at hq; cases hq
      | _ => rfl)
    unfold Stranded
    rw [hrem, hphase, Function.update_of_ne hpq]
    exact ⟨hremoved, hsus⟩
  | enqueues _ q c m _ hq hphase hrem =>
    have hpq := hne q (by rw [hq]; rfl)
    unfold Stranded
    rw [hrem, hphase, Function.update_of_ne hpq, Function.update_of_ne hpq]
    exact ⟨hremoved, hsus⟩
  | blocks q c m hq hphase hrem =>
    have hpq := hne q (by rw [hq]; rfl)
    unfold Stranded
    rw [hrem, hphase, Function.update_of_ne hpq]
    exact ⟨hremoved, hsus⟩
  | signals q c ht =>
    rw [ht]
    exact hwake c _ (conditionSignal_append _)
  | broadcasts q c ht =>
    rw [ht]
    exact hwake c _ (conditionBroadcast_append _)

/-! ## Runs -/

/-- A process whose entry is taken before it is suspended gets stranded by its next step. -/
theorem stranded_block {s : ConditionSystem} (h : CondInv s) {c : ConditionPtr} {q : ProcessPtr}
    {r : List ProcessPtr × List ProcessPtr} (hsplit : s.waiters c = r.1 ++ r.2) (hq : q ∈ r.1)
    (hphase : ¬ (s.phase q).isSuspended = true) :
    ∃ t, conditionStep (s.afterWake c r) (.block q) = some t ∧ Stranded q t := by
  have hcond := (h.entries c q (by rw [hsplit]; exact List.mem_append_left _ hq)).2
  obtain ⟨m, hm⟩ : ∃ m, s.phase q = .enqueued c m := by
    cases hx : s.phase q with
    | enqueued c' m =>
      rw [hx] at hcond
      cases hcond
      exact ⟨m, rfl⟩
    | suspended c' m => rw [hx] at hphase; exact absurd rfl hphase
    | _ => rw [hx] at hcond; cases hcond
  have hafter : (s.afterWake c r).phase q = .enqueued c m := by
    show (r.1.foldl wakeSuspended s.phase) q = _
    rw [foldl_wakeSuspended_apply, if_pos hq, hm]
    rfl
  refine ⟨{ s.afterWake c r with
    phase := Function.update (s.afterWake c r).phase q (.suspended c m) }, ?_, ?_, ?_⟩
  · simp only [conditionStep, hafter]
  · show (if q ∈ r.1 then true else s.removed q) = true
    rw [if_pos hq]
  · show (Function.update (s.afterWake c r).phase q (.suspended c m) q).isSuspended = true
    rw [Function.update_self]
    rfl

theorem Stranded.not_unstranded {p : ProcessPtr} {s : ConditionSystem} (h : Stranded p s) :
    ¬ Unstranded s := by
  intro hu
  obtain ⟨hremoved, hsus⟩ := h
  cases hphase : s.phase p with
  | suspended c m => exact hu p hremoved c m hphase
  | _ => rw [hphase] at hsus; cases hsus

/-- A signal or broadcast that takes the entry of a process which is not yet suspended. -/
theorem exists_stranding {s t : ConditionSystem} {a : ConditionAction} (h : CondInv s)
    (hs : conditionStep s a = some t) (hno : ¬ WakesSuspended s a t) :
    ∃ q u, conditionStep t (.block q) = some u ∧ Stranded q u := by
  have hwake : ∀ (c : ConditionPtr) (r : List ProcessPtr × List ProcessPtr),
      s.waiters c = r.1 ++ r.2 → (¬ ∀ p ∈ r.1, (s.phase p).isSuspended = true) →
        ∃ q u, conditionStep (s.afterWake c r) (.block q) = some u ∧ Stranded q u := by
    intro c r hsplit hex
    simp only [not_forall] at hex
    obtain ⟨q, hq, hsus⟩ := hex
    obtain ⟨u, hu, hstr⟩ := stranded_block h hsplit hq hsus
    exact ⟨q, u, hu, hstr⟩
  cases (conditionStep_effect h hs).2 with
  | moves _ p x ha hp hx hphase hremoved => exact absurd ha hno
  | enqueues _ p c m ha hp hphase hremoved => exact absurd ha hno
  | blocks p c m hp hphase hremoved => exact absurd trivial hno
  | signals p c ht =>
    rw [ht]
    exact hwake c _ (conditionSignal_append _) hno
  | broadcasts p c ht =>
    rw [ht]
    exact hwake c _ (conditionBroadcast_append _) hno

theorem condInv_run {as : List ConditionAction} {s : ConditionSystem}
    (hrun : run conditionStep ConditionSystem.boot as = some s) : CondInv s :=
  invariant_run (fun _ _ _ h hs => (conditionStep_effect h hs).1) condInv_boot hrun

/--
**While signals and broadcasts only take the entries of suspended processes, nobody whose entry
they took is suspended.** A run in which one of them takes another entry strands a process as soon
as that process goes on.
-/
theorem unstranded_of_wakesSuspended (as : List ConditionAction) :
    (Along conditionStep WakesSuspended ConditionSystem.boot as →
      Always conditionStep Unstranded ConditionSystem.boot as) ∧
    (¬ Along conditionStep WakesSuspended ConditionSystem.boot as →
      ∃ pre post q, as = pre ++ post ∧
        ¬ Always conditionStep Unstranded ConditionSystem.boot (pre ++ [.block q])) := by
  constructor
  · intro h
    refine ⟨kept_boot.unstranded, ?_⟩
    refine Along.of_invariant (I := fun s => CondInv s ∧ Kept s) ?_ ?_ ⟨condInv_boot, kept_boot⟩ h
    · rintro s a t ⟨hinv, hk⟩ hs hw
      exact (kept_step hinv hk hs hw).unstranded
    · rintro s a t ⟨hinv, hk⟩ hs hw
      exact ⟨(conditionStep_effect hinv hs).1, kept_step hinv hk hs hw⟩
  · intro h
    obtain ⟨pre, a, post, s, t, heq, hpre, hs, hno⟩ := exists_of_not_along h
    obtain ⟨q, u, hu, hstr⟩ := exists_stranding (condInv_run hpre) hs hno
    refine ⟨pre ++ [a], post, q, by rw [heq, List.append_cons], fun halways => ?_⟩
    refine hstr.not_unstranded (always_iff_forall_initial.mp halways _ [] u (List.append_nil _).symm ?_)
    rw [run_append, run_append, hpre]
    show (run conditionStep s [a]).bind _ = _
    rw [run_cons, hs]
    exact run_cons_eq_some.mpr ⟨u, hu, rfl⟩

/-- A waiter is signalled once it is suspended, and goes on. -/
theorem signal_after_block_unstranded :
    Always conditionStep Unstranded ConditionSystem.boot
      [.lock 0xD0000010 1 true, .wait 0xD0000010 2 1 true, .block 0xD0000010,
        .signal 0xD0000200 2, .relock 0xD0000010 true] := by
  refine (unstranded_of_wakesSuspended _).1 ?_
  intro s₁ h₁
  cases h₁
  refine ⟨trivial, fun s₂ h₂ => ?_⟩
  cases h₂
  refine ⟨trivial, fun s₃ h₃ => ?_⟩
  cases h₃
  refine ⟨trivial, fun s₄ h₄ => ?_⟩
  refine ⟨?_, fun s₅ _ => ⟨trivial, trivial⟩⟩
  unfold WakesSuspended
  decide

/-- The waiter has released its locks when the signal comes. -/
def lostSignalRun : List ConditionAction :=
  [.lock 0xD0000010 1 true, .wait 0xD0000010 2 1 true, .lock 0xD0000200 1 true,
    .signal 0xD0000200 2, .unlock 0xD0000200 1, .block 0xD0000010]

/-- **The waiter is suspended without an entry, and stays so whatever is done afterwards.** -/
theorem signal_lost :
    ¬ Always conditionStep Unstranded ConditionSystem.boot lostSignalRun ∧
    (∃ s, run conditionStep ConditionSystem.boot lostSignalRun = some s) ∧
    ∀ more t, run conditionStep ConditionSystem.boot (lostSignalRun ++ more) = some t →
      Stranded 0xD0000010 t := by
  obtain ⟨s, hrun, hremoved, hsus⟩ : ∃ s,
      run conditionStep ConditionSystem.boot lostSignalRun = some s ∧
        s.removed 0xD0000010 = true ∧ (s.phase 0xD0000010).isSuspended = true :=
    ⟨_, rfl, rfl, rfl⟩
  have hstr : Stranded 0xD0000010 s := ⟨hremoved, hsus⟩
  refine ⟨fun h => ?_, ⟨s, hrun⟩, fun more t ht => ?_⟩
  · exact hstr.not_unstranded
      (always_iff_forall_initial.mp h _ [] s (List.append_nil _).symm hrun)
  · rw [run_append, hrun] at ht
    refine (invariant_run (I := fun s => CondInv s ∧ Stranded 0xD0000010 s) ?_
      ⟨condInv_run hrun, hstr⟩ ht).2
    rintro s a s' ⟨hinv, hs⟩ hstep
    exact ⟨(conditionStep_effect hinv hstep).1, stranded_step hinv hs hstep⟩

end MayaOs.Kernel
