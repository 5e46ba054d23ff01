import MayaOs.Kernel.State

/-!
# Mutexes (`kernel/mutex.c`)

Each function is cut where interrupts are enabled. `mutex_lock` is one section up to its first
`interrupt_restore`; a process that has to wait yields and runs one more section for each turn of
its loop. `process_wake` has no effect here, because nobody blocks in `mutex_lock`.

The mutex pointer is not NULL.
-/

namespace MayaOs.Kernel

/-- `mutex_t`; a process has one entry in the list at most, which is named by the process. -/
structure Mutex where
  locked : Bool
  owner : ProcessPtr
  waiters : List ProcessPtr
  deriving Repr, DecidableEq

def mutexInit : Mutex where
  locked := false
  owner := null
  waiters := []

/-- `mutex_try_lock` with interrupts disabled. -/
def mutexTryLock (mutex : Mutex) (current : ProcessPtr) : Bool × Mutex :=
  if mutex.locked = false then (true, { mutex with locked := true, owner := current })
  else (false, mutex)

/-- One test of the loop of `mutex_lock`, with "Remove from waiter list" when it succeeds. -/
def mutexLockTurn (mutex : Mutex) (current : ProcessPtr) : Bool × Mutex :=
  let r := mutexTryLock mutex current
  if r.1 then (true, { r.2 with waiters := r.2.waiters.erase current }) else r

/-- The first section of `mutex_lock`, and whether the call returns after it. -/
def mutexLock (mutex : Mutex) (current : ProcessPtr) (allocated : Bool) : Bool × Mutex :=
  let r := mutexTryLock mutex current
  if r.1 then r
  -- "If already owned by current process, deadlock"
  else if mutex.owner = current then (true, mutex)
  -- without memory for the entry the call returns as if it had the mutex
  else if allocated = false then (true, mutex)
  else mutexLockTurn { mutex with waiters := mutex.waiters ++ [current] } current

/-- The process to be woken, if any, and the mutex afterwards. -/
def mutexUnlock (mutex : Mutex) (current : ProcessPtr) : Option ProcessPtr × Mutex :=
  if mutex.owner ≠ current then (none, mutex)
  else (mutex.waiters.head?, { mutex with owner := null, locked := false })

/-! ## Processes -/

/-- Where a process is. -/
inductive LockPhase where
  /-- not in `mutex_lock`, and has not returned from it since its last unlock -/
  | outside
  /-- in the loop of `mutex_lock` -/
  | waiting
  /-- between the return of `mutex_lock` and `mutex_unlock` -/
  | inside
  deriving Repr, DecidableEq

/-- A mutex and its users. -/
structure MutexSystem where
  mutex : Mutex
  phase : ProcessPtr → LockPhase

inductive MutexAction where
  | lock (process : ProcessPtr) (allocated : Bool)
  | turn (process : ProcessPtr)
  | unlock (process : ProcessPtr)
  deriving Repr, DecidableEq

/-- After `mutex_init`. -/
def MutexSystem.boot : MutexSystem where
  mutex := mutexInit
  phase := fun _ => .outside

/-- The system after a section of `mutex_lock`. -/
def MutexSystem.after (s : MutexSystem) (p : ProcessPtr) (r : Bool × Mutex) : MutexSystem where
  mutex := r.2
  phase := Function.update s.phase p (if r.1 then .inside else .waiting)

/-- One section of one process, which locks only from outside and unlocks only from inside. -/
def mutexStep (s : MutexSystem) : MutexAction → Option MutexSystem
  | .lock p allocated =>
    if s.phase p ≠ .outside then none else some (s.after p (mutexLock s.mutex p allocated))
  | .turn p =>
    if s.phase p ≠ .waiting then none else some (s.after p (mutexLockTurn s.mutex p))
  | .unlock p =>
    if s.phase p ≠ .inside then none
    else
      some {
        mutex := (mutexUnlock s.mutex p).2
        phase := Function.update s.phase p .outside }

end MayaOs.Kernel
