import Mathlib.Logic.Function.Basic
import Mathlib.Data.List.Basic

/-!
# Process records and the tables that point to them (`kernel/process.h`)

The static variables of `process.c`, `scheduler.c` and `timer.c` and the `process_t` records on the heap.
A `process_t*` is the number of the address, `null` is 0. The two tables are fixed arrays of
pointers; only their first `processCount` and `taskCount` cells are in use.

Left out of `process_t`: the fields no modelled function reads or writes
(`eip`, `page_directory`, `fd_table`, `caps`, `next`).
-/

namespace MayaOs.Kernel

abbrev ProcessPtr := Nat

def null : ProcessPtr := 0

/-- `process_state_t`. -/
inductive ProcessState where
  | ready
  | running
  | blocked
  | terminated
  deriving Repr, DecidableEq

structure Process where
  pid : Nat
  state : ProcessState
  esp : UInt32
  ebp : UInt32
  priority : UInt8
  quantumRemaining : Nat
  totalRuntime : UInt32
  lastRun : UInt32
  entry : UInt32
  stack : UInt32
  name : List UInt8
  deriving Repr, DecidableEq

/-- A `process_t` after `memset(process, 0, sizeof(process_t))`. -/
def Process.zero : Process where
  pid := 0
  state := .ready
  esp := 0
  ebp := 0
  priority := 0
  quantumRemaining := 0
  totalRuntime := 0
  lastRun := 0
  entry := 0
  stack := 0
  name := []

def maxProcesses : Nat := 256

/-- `process_manager_t pm`. -/
structure ProcessManager where
  processes : List ProcessPtr
  currentProcess : ProcessPtr
  processCount : Nat
  initialized : Bool
  deriving Repr, DecidableEq

def maxTasks : Nat := 256

/-- `scheduler_state`. -/
structure SchedulerState where
  tasks : List ProcessPtr
  currentProcess : ProcessPtr
  idleProcess : ProcessPtr
  taskCount : Nat
  totalSwitches : UInt32
  initialized : Bool
  deriving Repr, DecidableEq

/-- The table after `memset(&scheduler_state, 0, sizeof(scheduler_state))`. -/
def SchedulerState.zero : SchedulerState where
  tasks := List.replicate maxTasks null
  currentProcess := null
  idleProcess := null
  taskCount := 0
  totalSwitches := 0
  initialized := false

/-- `timer_state`; the only callback ever registered is `scheduler_timer_callback`. -/
structure TimerState where
  ticks : UInt32
  callback : Bool
  initialized : Bool
  deriving Repr, DecidableEq

/-- The registers that `process_switch` saves and loads. -/
structure Cpu where
  esp : UInt32
  ebp : UInt32
  deriving Repr, DecidableEq

/--
Everything process management touches.

`mem` is the contents of memory at each `process_t*`. `live` lists the records that have been
created and not destroyed: no function of the source reads or writes it, the runs keep it beside
the calls (`noteCreated`, `noteDestroyed`).
-/
structure KernelState where
  pm : ProcessManager
  sched : SchedulerState
  mem : ProcessPtr → Process
  live : List ProcessPtr
  cpu : Cpu
  timer : TimerState

/-- The state at boot: every static variable is zero. -/
def KernelState.boot : KernelState where
  pm :=
    { processes := List.replicate maxProcesses null
      currentProcess := null
      processCount := 0
      initialized := false }
  sched := SchedulerState.zero
  mem := fun _ => Process.zero
  live := []
  cpu := { esp := 0, ebp := 0 }
  timer := { ticks := 0, callback := false, initialized := false }

/-- Writes to the record at `p`. -/
def KernelState.modify (k : KernelState) (p : ProcessPtr) (f : Process → Process) : KernelState :=
  { k with mem := Function.update k.mem p (f (k.mem p)) }

/-- `process_create` returned `p`: NULL, or a process that exists from now on. -/
def KernelState.noteCreated (k : KernelState) (p : ProcessPtr) : KernelState :=
  if p = null then k else { k with live := p :: k.live }

/-- `process_destroy` was given `p`: NULL, or a process that no longer exists. -/
def KernelState.noteDestroyed (k : KernelState) (p : ProcessPtr) : KernelState :=
  if p = null then k else { k with live := k.live.erase p }

variable (k : KernelState) (p : ProcessPtr) (f : Process → Process)

@[simp] theorem KernelState.noteCreated_null : k.noteCreated null = k := if_pos rfl

@[simp] theorem KernelState.noteDestroyed_null : k.noteDestroyed null = k := if_pos rfl

@[simp] theorem KernelState.noteDestroyed_pm : (k.noteDestroyed p).pm = k.pm := by
  unfold noteDestroyed
  split <;> rfl

@[simp] theorem KernelState.noteDestroyed_sched : (k.noteDestroyed p).sched = k.sched := by
  unfold noteDestroyed
  split <;> rfl

@[simp] theorem KernelState.modify_pm : (k.modify p f).pm = k.pm := rfl
@[simp] theorem KernelState.modify_sched : (k.modify p f).sched = k.sched := rfl
@[simp] theorem KernelState.modify_live : (k.modify p f).live = k.live := rfl
@[simp] theorem KernelState.modify_cpu : (k.modify p f).cpu = k.cpu := rfl
@[simp] theorem KernelState.modify_timer : (k.modify p f).timer = k.timer := rfl

@[simp] theorem KernelState.modify_mem_self : (k.modify p f).mem p = f (k.mem p) :=
  Function.update_self ..

theorem KernelState.modify_mem_ne {q : ProcessPtr} (h : q ≠ p) : (k.modify p f).mem q = k.mem q :=
  Function.update_of_ne h ..

end MayaOs.Kernel
