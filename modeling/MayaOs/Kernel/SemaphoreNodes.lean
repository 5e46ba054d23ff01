import Mathlib.Logic.Function.Basic
import MayaOs.Kernel.State
import MayaOs.Lib.MachineInt

/-!
# The waiter entries of a semaphore (`kernel/semaphore.c`)

The functions of `Kernel.Semaphore` with the linked list of `semaphore_waiter_t` in memory. Reading
through `NULL` or through an entry that was freed is a fault, and so is freeing an entry twice. A
loop over the list gets as many turns as there are entries in memory; one that is not over by then
goes round in circles.

`kmalloc` is an argument of `semaphore_wait`, 0 on failure. The semaphore pointer is not NULL.
-/

namespace MayaOs.Kernel

open MayaOs.Lib

abbrev WaiterPtr := Nat

/-- `semaphore_waiter_t`. -/
structure SemaphoreWaiter where
  process : ProcessPtr
  next : WaiterPtr
  deriving Repr, DecidableEq

/-- `semaphore_t`, the entries in memory, and the addresses of those not freed. -/
structure NodeSemaphore where
  value : Int
  waiters : WaiterPtr
  mem : WaiterPtr → SemaphoreWaiter
  allocated : List WaiterPtr

inductive MemoryFault where
  | nullDereference
  | freedDereference
  | doubleFree
  | endlessLoop
  deriving Repr, DecidableEq

/-! ## Memory -/

/-- The entry behind a pointer. -/
def NodeSemaphore.deref (sem : NodeSemaphore) (node : WaiterPtr) :
    Except MemoryFault SemaphoreWaiter :=
  if node = null then .error .nullDereference
  else if node ∉ sem.allocated then .error .freedDereference
  else .ok (sem.mem node)

/-- `node->next = next`. -/
def NodeSemaphore.setNext (sem : NodeSemaphore) (node next : WaiterPtr) : NodeSemaphore :=
  { sem with mem := Function.update sem.mem node { sem.mem node with next := next } }

/-- `kfree(node)`. -/
def NodeSemaphore.free (sem : NodeSemaphore) (node : WaiterPtr) : Except MemoryFault NodeSemaphore :=
  if node ∉ sem.allocated then .error .doubleFree
  else .ok { sem with allocated := sem.allocated.erase node }

/-- How many turns a loop over the list gets. -/
def NodeSemaphore.turns (sem : NodeSemaphore) : Nat := sem.allocated.length + 1

/-! ## semaphore_wait -/

/-- `while (last->next) last = last->next;` -/
def NodeSemaphore.findLast (sem : NodeSemaphore) :
    Nat → WaiterPtr → Except MemoryFault WaiterPtr
  | 0, _ => .error .endlessLoop
  | n + 1, last => do
    let entry ← sem.deref last
    if entry.next = null then .ok last else sem.findLast n entry.next

/-- "Add to waiter list". -/
def appendWaiter (sem : NodeSemaphore) (waiter : WaiterPtr) : Except MemoryFault NodeSemaphore :=
  if sem.waiters = null then .ok { sem with waiters := waiter }
  else do
    let last ← sem.findLast sem.turns sem.waiters
    .ok (sem.setNext last waiter)

/-- "Create waiter entry"; the entry is at the address `waiter`. -/
def createWaiter (sem : NodeSemaphore) (current : ProcessPtr) (waiter : WaiterPtr) :
    NodeSemaphore :=
  { sem with
    mem := Function.update sem.mem waiter { process := current, next := null }
    allocated := waiter :: sem.allocated }

/-- The first section of `semaphore_wait`, and whether the call returns after it. -/
def nodeWaitEnter (sem : NodeSemaphore) (current : ProcessPtr) (waiter : WaiterPtr) :
    Except MemoryFault (Bool × NodeSemaphore) :=
  if sem.value > 0 then .ok (true, { sem with value := sem.value - 1 })
  else if waiter = null then .ok (true, sem)
  else (appendWaiter (createWaiter sem current waiter) waiter).map fun sem => (false, sem)

/-- `while (prev->next != waiter) prev = prev->next;` -/
def NodeSemaphore.findPrev (sem : NodeSemaphore) (waiter : WaiterPtr) :
    Nat → WaiterPtr → Except MemoryFault WaiterPtr
  | 0, _ => .error .endlessLoop
  | n + 1, prev => do
    let entry ← sem.deref prev
    if entry.next = waiter then .ok prev else sem.findPrev waiter n entry.next

/-- "Remove from waiter list". -/
def unlinkWaiter (sem : NodeSemaphore) (waiter : WaiterPtr) : Except MemoryFault NodeSemaphore :=
  if sem.waiters = waiter then do
    let entry ← sem.deref waiter
    .ok { sem with waiters := entry.next }
  else do
    let prev ← sem.findPrev waiter sem.turns sem.waiters
    let entry ← sem.deref waiter
    .ok (sem.setNext prev entry.next)

/-- "When woken up, clean up waiter entry". -/
def nodeWaitLeave (sem : NodeSemaphore) (waiter : WaiterPtr) : Except MemoryFault NodeSemaphore := do
  let sem ← unlinkWaiter sem waiter
  sem.free waiter

/-! ## The other functions -/

def nodeTryWait (sem : NodeSemaphore) : NodeSemaphore :=
  if sem.value > 0 then { sem with value := sem.value - 1 } else sem

/-- The processes to be woken and the semaphore afterwards. -/
def nodeSignal (sem : NodeSemaphore) : Except MemoryFault (List ProcessPtr × NodeSemaphore) :=
  let sem := { sem with value := int32 (sem.value + 1) }
  if sem.waiters = null then .ok ([], sem)
  else do
    let entry ← sem.deref sem.waiters
    .ok ([entry.process], sem)

/-- The loop "Wake up all waiters". -/
def destroyLoop : Nat → NodeSemaphore → WaiterPtr →
    Except MemoryFault (List ProcessPtr × NodeSemaphore)
  | 0, _, _ => .error .endlessLoop
  | n + 1, sem, waiter =>
    if waiter = null then .ok ([], sem)
    else do
      let entry ← sem.deref waiter
      let sem ← sem.free waiter
      let r ← destroyLoop n sem entry.next
      .ok (entry.process :: r.1, r.2)

def nodeDestroy (sem : NodeSemaphore) : Except MemoryFault (List ProcessPtr × NodeSemaphore) := do
  let r ← destroyLoop sem.turns sem sem.waiters
  .ok (r.1, { r.2 with waiters := null, value := 0 })

/-! ## Processes -/

/-- Where a process is in `semaphore_wait`, with its entry. -/
inductive WaiterPhase where
  /-- not in it -/
  | outside
  /-- the entry is in the list, `process_block` not yet called -/
  | enqueued (waiter : WaiterPtr)
  | blocked (waiter : WaiterPtr)
  /-- woken, the entry not yet removed -/
  | woken (waiter : WaiterPtr)
  deriving Repr, DecidableEq

/-- What `process_wake` does to the process it is called for. -/
def WaiterPhase.wake : WaiterPhase → WaiterPhase
  | .blocked waiter => .woken waiter
  | phase => phase

/-- `process_wake`. -/
def wakeWaiter (phase : ProcessPtr → WaiterPhase) (p : ProcessPtr) : ProcessPtr → WaiterPhase :=
  Function.update phase p (phase p).wake

/-- A semaphore and its users, and the first fault of one of them. -/
structure NodeSystem where
  sem : NodeSemaphore
  phase : ProcessPtr → WaiterPhase
  fault : Option MemoryFault

inductive NodeAction where
  /-- `waiter` is what `kmalloc` returns -/
  | wait (process : ProcessPtr) (waiter : WaiterPtr)
  | block (process : ProcessPtr)
  | leave (process : ProcessPtr)
  | tryWait
  | signal
  | destroy
  deriving Repr, DecidableEq

/-- After `semaphore_init(sem, value)`. -/
def NodeSystem.boot (value : Int) : NodeSystem where
  sem :=
    { value := if value < 0 then 0 else value
      waiters := null
      mem := fun _ => { process := null, next := null }
      allocated := [] }
  phase := fun _ => .outside
  fault := none

/-- The system after a section, or after the fault in it. -/
def NodeSystem.after {α : Type} (s : NodeSystem) (r : Except MemoryFault α)
    (f : α → NodeSystem) : NodeSystem :=
  match r with
  | .error fault => { s with fault := some fault }
  | .ok a => f a

/-- One section of one process. After a fault there are no more steps. -/
def nodeStep (s : NodeSystem) (a : NodeAction) : Option NodeSystem :=
  if s.fault.isSome then none
  else
    match a with
    | .wait p waiter =>
      if s.phase p ≠ .outside ∨ waiter ∈ s.sem.allocated then none
      else
        some (s.after (nodeWaitEnter s.sem p waiter) fun r =>
          if r.1 then { s with sem := r.2 }
          else { s with sem := r.2, phase := Function.update s.phase p (.enqueued waiter) })
    | .block p =>
      match s.phase p with
      | .enqueued waiter =>
        some { s with phase := Function.update s.phase p (.blocked waiter) }
      | _ => none
    | .leave p =>
      match s.phase p with
      | .woken waiter =>
        some (s.after (nodeWaitLeave s.sem waiter) fun sem =>
          { s with sem := sem, phase := Function.update s.phase p .outside })
      | _ => none
    | .tryWait => some { s with sem := nodeTryWait s.sem }
    | .signal =>
      some (s.after (nodeSignal s.sem) fun r =>
        { s with sem := r.2, phase := r.1.foldl wakeWaiter s.phase })
    | .destroy =>
      some (s.after (nodeDestroy s.sem) fun r =>
        { s with sem := r.2, phase := r.1.foldl wakeWaiter s.phase })

end MayaOs.Kernel
