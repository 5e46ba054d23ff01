import MayaOs.Kernel.Process
import MayaOs.Lib.Polling

/-!
# The scheduler, the timer and the exit call (`scheduler.c`, `timer.c`, `syscall.c`)

The task table is the used prefix of `scheduler_state.tasks`. What `scheduler_idle_task` does on
the CPU and the programming of the APIC are left out.
-/

namespace MayaOs.Kernel

open MayaOs.Lib

def schedulerQuantum : Nat := 10

/-! ## timer_init -/

def timerInit (k : KernelState) : KernelState :=
  if k.timer.initialized then k
  else { k with timer := { ticks := 0, callback := false, initialized := true } }

def timerSetCallback (k : KernelState) : KernelState :=
  if k.timer.initialized = false then k
  else { k with timer := { k.timer with callback := true } }

/-! ## scheduler_init -/

/-- The name of the idle process. -/
def idleName : List UInt8 := [0x69, 0x64, 0x6C, 0x65]

/-- `entry` is the address of `scheduler_idle_task`. -/
def schedulerInit (k : KernelState) (entry : UInt32) (block : ProcessPtr) (stack : UInt32) :
    Bool × KernelState :=
  if k.sched.initialized then (true, k)
  else
    let k := { k with sched := SchedulerState.zero }
    let r := processCreate k (some idleName) entry block stack
    if r.1 = null then (false, r.2)
    else
      let k := r.2.modify r.1 fun p =>
        { p with quantumRemaining := schedulerQuantum, priority := 0, state := .ready }
      let k := timerSetCallback k
      (true, { k with sched := { k.sched with idleProcess := r.1, initialized := true } })

/-! ## scheduler_add_task -/

/-- The loop "Sort tasks by priority": one pass of exchanges from index `i` down to 1. -/
def sortPass (mem : ProcessPtr → Process) : Nat → List ProcessPtr → List ProcessPtr
  | 0, tasks => tasks
  | i + 1, tasks =>
    let p := tasks.getD (i + 1) null
    let q := tasks.getD i null
    if (mem p).priority > (mem q).priority then
      sortPass mem i ((tasks.set (i + 1) q).set i p)
    else sortPass mem i tasks

def schedulerAddTask (k : KernelState) (process : ProcessPtr) (priority : UInt8) :
    Bool × KernelState :=
  if k.sched.initialized = false ∨ process = null ∨ maxTasks ≤ k.sched.taskCount then (false, k)
  else
    let k := k.modify process fun r =>
      { r with
        quantumRemaining := schedulerQuantum
        totalRuntime := 0
        lastRun := k.timer.ticks
        priority := priority
        state := .ready }
    let tasks := k.sched.tasks.set k.sched.taskCount process
    (true,
      { k with
        sched :=
          { k.sched with
            tasks := sortPass k.mem k.sched.taskCount tasks
            taskCount := k.sched.taskCount + 1 } })

/-! ## scheduler_remove_task -/

def schedulerRemoveTask (k : KernelState) (process : ProcessPtr) : KernelState :=
  if k.sched.initialized = false ∨ process = null then k
  else
    match (k.sched.tasks.take k.sched.taskCount).findIdx? (fun q => q == process) with
    | none => k
    | some i =>
      { k with
        sched :=
          { k.sched with
            tasks := shiftDown k.sched.tasks i (k.sched.taskCount - 1 - i)
            taskCount := k.sched.taskCount - 1 } }

/-! ## scheduler_switch_task -/

/-- "Update current task statistics". -/
def accountCurrent (k : KernelState) : KernelState :=
  if k.sched.currentProcess = null then k
  else
    k.modify k.sched.currentProcess fun r =>
      { r with
        totalRuntime := r.totalRuntime + (k.timer.ticks - r.lastRun)
        lastRun := k.timer.ticks
        state := .ready }

/-- "Find next task to run": the first one that is ready, else the idle process. -/
def pickNext (k : KernelState) : ProcessPtr :=
  ((k.sched.tasks.take k.sched.taskCount).find? fun p => (k.mem p).state = .ready).getD
    k.sched.idleProcess

/-- The updates of the record that is about to run. -/
def startRunning (k : KernelState) (next : ProcessPtr) : KernelState :=
  let k := k.modify next fun r =>
    { r with quantumRemaining := schedulerQuantum, state := .running, lastRun := k.timer.ticks }
  { k with
    sched :=
      { k.sched with
        currentProcess := next
        totalSwitches := k.sched.totalSwitches + 1 } }

def schedulerSwitchTask (k : KernelState) : KernelState :=
  if k.sched.initialized = false ∨ k.sched.taskCount = 0 then k
  else
    let k := accountCurrent k
    let next := pickNext k
    processSwitch (startRunning k next) next

/-! ## timer ticks -/

def schedulerTimerCallback (k : KernelState) : KernelState :=
  let p := k.sched.currentProcess
  if k.sched.initialized = false ∨ p = null then k
  else
    -- the quantum stays at 0 once it is there
    let k := k.modify p fun r => { r with quantumRemaining := r.quantumRemaining - 1 }
    if (k.mem p).quantumRemaining = 0 then schedulerSwitchTask k else k

def timerHandler (k : KernelState) : KernelState :=
  let k := { k with timer := { k.timer with ticks := k.timer.ticks + 1 } }
  if k.timer.callback then schedulerTimerCallback k else k

def KernelState.ticked (k : KernelState) : KernelState :=
  { k with timer := { k.timer with ticks := k.timer.ticks + 1 } }

/-- A tick that takes from the quantum of the current process. -/
def KernelState.counted (k : KernelState) : KernelState :=
  k.ticked.modify k.sched.currentProcess fun r =>
    { r with quantumRemaining := r.quantumRemaining - 1 }

/-- **What a timer interrupt can do.** -/
theorem timerHandler_cases (k : KernelState) :
    timerHandler k = k.ticked ∨ timerHandler k = k.counted ∨
      timerHandler k = schedulerSwitchTask k.counted := by
  unfold timerHandler
  dsimp only
  split
  · unfold schedulerTimerCallback
    dsimp only
    split
    · exact Or.inl rfl
    · split
      · exact Or.inr (Or.inr rfl)
      · exact Or.inr (Or.inl rfl)
  · exact Or.inl rfl

/-! ## sys_exit -/

def sysExit (k : KernelState) (args : List UInt32) : UInt32 × KernelState :=
  if args.length < 1 then (0xFFFFFFFF, k)
  else if k.pm.currentProcess = null then (0, k)
  else (0, processDestroy k k.pm.currentProcess)

/-!
## timer_sleep

Interrupts come while it halts, any number of them before each test of its loop.
-/

/-- `TIMER_FREQUENCY` -/
def timerFrequency : UInt32 := 1000

def targetTicks (k : KernelState) (milliseconds : UInt32) : UInt32 :=
  k.timer.ticks + milliseconds * timerFrequency / 1000

/-- The condition of the loop. -/
def sleepGoing (target : UInt32) (k : KernelState) : Bool := k.timer.ticks < target

/-- `timer_sleep` when it has come to its loop, or has returned before it. -/
def timerSleep (k : KernelState) : Polling KernelState where
  clock := k
  waiting := k.timer.initialized

end MayaOs.Kernel
