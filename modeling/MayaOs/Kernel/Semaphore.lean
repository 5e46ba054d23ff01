import MayaOs.Kernel.State
import MayaOs.Lib.MachineInt

/-!
# Counting semaphores (`kernel/semaphore.c`)

Each function is cut at its spinlock sections. A process that finds the value at 0 puts an entry
into the waiter list, blocks after releasing the lock, and removes the entry when it runs again.
`process_block` and `process_wake` are not part of the repository: a blocked process does not run
until it is woken, and waking a process that is not blocked has no effect.
-/

namespace MayaOs.Kernel

open MayaOs.Lib

/-- `semaphore_t`; a process has one entry in the list at most, which is named by the process. -/
structure Semaphore where
  value : Int
  waiters : List ProcessPtr
  deriving Repr, DecidableEq

def semaphoreInit (sem : Semaphore) (value : Int) : Semaphore :=
  if value < 0 then sem else { value := value, waiters := [] }

/-- The first section of `semaphore_wait`, and whether the call returns after it. -/
def semaphoreWaitEnter (sem : Semaphore) (current : ProcessPtr) (allocated : Bool) :
    Bool × Semaphore :=
  if sem.value > 0 then (true, { sem with value := sem.value - 1 })
  -- without memory for the entry the call just returns
  else if allocated = false then (true, sem)
  else (false, { sem with waiters := sem.waiters ++ [current] })

/-- "When woken up, clean up waiter entry". -/
def semaphoreWaitLeave (sem : Semaphore) (current : ProcessPtr) : Semaphore :=
  { sem with waiters := sem.waiters.erase current }

def semaphoreTryWait (sem : Semaphore) : Bool × Semaphore :=
  if sem.value > 0 then (true, { sem with value := sem.value - 1 }) else (false, sem)

/-- The process to be woken, if any, and the semaphore afterwards. -/
def semaphoreSignal (sem : Semaphore) : Option ProcessPtr × Semaphore :=
  (sem.waiters.head?, { sem with value := int32 (sem.value + 1) })

/-! ## Processes -/

/-- Where a process is in `semaphore_wait`. -/
inductive WaitPhase where
  /-- not in it -/
  | outside
  /-- the entry is in the list, `process_block` not yet called -/
  | enqueued
  | blocked
  /-- woken, the entry not yet removed -/
  | woken
  deriving Repr, DecidableEq

/-- `process_wake`. -/
def wake (phase : ProcessPtr → WaitPhase) (p : ProcessPtr) : ProcessPtr → WaitPhase :=
  if phase p = .blocked then Function.update phase p .woken else phase

/-- A semaphore and its users; the counters count returned waits and calls of `semaphore_signal`. -/
structure SemSystem where
  sem : Semaphore
  phase : ProcessPtr → WaitPhase
  returned : Nat
  signals : Nat

inductive SemAction where
  | wait (process : ProcessPtr) (allocated : Bool)
  | block (process : ProcessPtr)
  | leave (process : ProcessPtr)
  | tryWait
  | signal
  deriving Repr, DecidableEq

/-- After `semaphore_init(sem, value)`. -/
def SemSystem.boot (value : Int) : SemSystem where
  sem := semaphoreInit { value := 0, waiters := [] } value
  phase := fun _ => .outside
  returned := 0
  signals := 0

/-- One section of one process. `tryWait` and `signal` are over at once, whoever calls them. -/
def semStep (s : SemSystem) : SemAction → Option SemSystem
  | .wait p allocated =>
    if s.phase p ≠ .outside then none
    else
      let r := semaphoreWaitEnter s.sem p allocated
      if r.1 then some { s with sem := r.2, returned := s.returned + 1 }
      else some { s with sem := r.2, phase := Function.update s.phase p .enqueued }
  | .block p =>
    if s.phase p ≠ .enqueued then none
    else some { s with phase := Function.update s.phase p .blocked }
  | .leave p =>
    if s.phase p ≠ .woken then none
    else
      some { s with
        sem := semaphoreWaitLeave s.sem p
        phase := Function.update s.phase p .outside
        returned := s.returned + 1 }
  | .tryWait =>
    let r := semaphoreTryWait s.sem
    some { s with sem := r.2, returned := if r.1 then s.returned + 1 else s.returned }
  | .signal =>
    let r := semaphoreSignal s.sem
    some { s with
      sem := r.2
      phase := match r.1 with
        | some p => wake s.phase p
        | none => s.phase
      signals := s.signals + 1 }

end MayaOs.Kernel
