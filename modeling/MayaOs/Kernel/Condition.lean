import MayaOs.Kernel.Mutex

/-!
# Condition variables (`kernel/condition.c`)

`condition_wait` is cut where it gives its locks up. The section under the spinlock puts an entry
into the waiter list and unlocks the mutex; `process_block` comes after it, and `mutex_lock` when
the process runs again. `condition_signal` and `condition_broadcast` are one section each.

`process_block` and `process_wake` are not part of the repository: a process that is suspended does
not run until it is woken, and waking a process that is not suspended has no effect.

The pointers are not NULL. `condition_destroy` has the body of `condition_broadcast`.
-/

namespace MayaOs.Kernel

abbrev ConditionPtr := Nat

abbrev MutexPtr := Nat

/-! ## Waiter lists -/

/-- "Create waiter entry" and "Add to waiter list", if there is memory for the entry. -/
def conditionEnqueue (waiters : List ProcessPtr) (current : ProcessPtr) (allocated : Bool) :
    Bool × List ProcessPtr :=
  if allocated = false then (false, waiters) else (true, waiters ++ [current])

/-- The process to be woken and the waiters afterwards. -/
def conditionSignal (waiters : List ProcessPtr) : List ProcessPtr × List ProcessPtr :=
  (waiters.take 1, waiters.drop 1)

def conditionBroadcast (waiters : List ProcessPtr) : List ProcessPtr × List ProcessPtr :=
  (waiters, [])

/-! ## Processes -/

/-- Where a process is. -/
inductive ConditionPhase where
  /-- in none of the functions -/
  | outside
  /-- in the loop of `mutex_lock`, called on its own or at the end of `condition_wait` -/
  | locking (mutex : MutexPtr)
  /-- in `condition_wait`, the locks released, `process_block` not yet called -/
  | enqueued (cond : ConditionPtr) (mutex : MutexPtr)
  /-- in `process_block` -/
  | suspended (cond : ConditionPtr) (mutex : MutexPtr)
  /-- behind `process_block`, `mutex_lock` not yet called -/
  | woken (mutex : MutexPtr)
  deriving Repr, DecidableEq

/-- What `process_wake` does to the process it is called for. -/
def ConditionPhase.wake : ConditionPhase → ConditionPhase
  | .suspended _ mutex => .woken mutex
  | phase => phase

/-- `process_wake`. -/
def wakeSuspended (phase : ProcessPtr → ConditionPhase) (p : ProcessPtr) :
    ProcessPtr → ConditionPhase :=
  Function.update phase p (phase p).wake

/--
Condition variables, mutexes and their users. `removed` says of a process whether a signal or a
broadcast has taken the entry that its last `condition_wait` made.
-/
structure ConditionSystem where
  waiters : ConditionPtr → List ProcessPtr
  mutexes : MutexPtr → Mutex
  phase : ProcessPtr → ConditionPhase
  removed : ProcessPtr → Bool

/-- After `condition_init` and `mutex_init`. -/
def ConditionSystem.boot : ConditionSystem where
  waiters := fun _ => []
  mutexes := fun _ => mutexInit
  phase := fun _ => .outside
  removed := fun _ => false

inductive ConditionAction where
  | lock (process : ProcessPtr) (mutex : MutexPtr) (allocated : Bool)
  | turn (process : ProcessPtr)
  | unlock (process : ProcessPtr) (mutex : MutexPtr)
  /-- `condition_wait` up to the release of the spinlock -/
  | wait (process : ProcessPtr) (cond : ConditionPtr) (mutex : MutexPtr) (allocated : Bool)
  | block (process : ProcessPtr)
  /-- "Reacquire mutex when woken up" -/
  | relock (process : ProcessPtr) (allocated : Bool)
  | signal (process : ProcessPtr) (cond : ConditionPtr)
  | broadcast (process : ProcessPtr) (cond : ConditionPtr)
  deriving Repr, DecidableEq

/-- The system after a section of `mutex_lock`. -/
def ConditionSystem.afterLock (s : ConditionSystem) (p : ProcessPtr) (m : MutexPtr)
    (r : Bool × Mutex) : ConditionSystem :=
  { s with
    mutexes := Function.update s.mutexes m r.2
    phase := Function.update s.phase p (if r.1 then .outside else .locking m) }

/-- The system after `mutex_unlock`. -/
def ConditionSystem.afterUnlock (s : ConditionSystem) (m : MutexPtr)
    (r : Option ProcessPtr × Mutex) : ConditionSystem :=
  { s with
    mutexes := Function.update s.mutexes m r.2
    phase := r.1.toList.foldl wakeSuspended s.phase }

/-- The system after a signal or a broadcast: the processes to be woken, and the waiters left. -/
def ConditionSystem.afterWake (s : ConditionSystem) (c : ConditionPtr)
    (r : List ProcessPtr × List ProcessPtr) : ConditionSystem :=
  { s with
    waiters := Function.update s.waiters c r.2
    phase := r.1.foldl wakeSuspended s.phase
    removed := fun p => if p ∈ r.1 then true else s.removed p }

/-- One section of one process, which calls a function only from outside all of them. -/
def conditionStep (s : ConditionSystem) : ConditionAction → Option ConditionSystem
  | .lock p m allocated =>
    if s.phase p ≠ .outside then none
    else some (s.afterLock p m (mutexLock (s.mutexes m) p allocated))
  | .turn p =>
    match s.phase p with
    | .locking m => some (s.afterLock p m (mutexLockTurn (s.mutexes m) p))
    | _ => none
  | .unlock p m =>
    if s.phase p ≠ .outside then none
    else some (s.afterUnlock m (mutexUnlock (s.mutexes m) p))
  | .wait p c m allocated =>
    if s.phase p ≠ .outside then none
    else
      let r := conditionEnqueue (s.waiters c) p allocated
      if r.1 = false then some s
      else
        let s := s.afterUnlock m (mutexUnlock (s.mutexes m) p)
        some { s with
          waiters := Function.update s.waiters c r.2
          phase := Function.update s.phase p (.enqueued c m)
          removed := Function.update s.removed p false }
  | .block p =>
    match s.phase p with
    | .enqueued c m => some { s with phase := Function.update s.phase p (.suspended c m) }
    | _ => none
  | .relock p allocated =>
    match s.phase p with
    | .woken m => some (s.afterLock p m (mutexLock (s.mutexes m) p allocated))
    | _ => none
  | .signal p c =>
    if s.phase p ≠ .outside then none
    else some (s.afterWake c (conditionSignal (s.waiters c)))
  | .broadcast p c =>
    if s.phase p ≠ .outside then none
    else some (s.afterWake c (conditionBroadcast (s.waiters c)))

end MayaOs.Kernel
