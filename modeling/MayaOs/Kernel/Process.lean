import MayaOs.Kernel.State
import MayaOs.Lib.Prefix

/-!
# The process manager (`kernel/process.c`)

`kmalloc` is an argument: the addresses it returns for the record and for the stack, 0 on failure.
`process->id` in `process_create` is read as the field `pid`.
-/

namespace MayaOs.Kernel

open MayaOs.Lib

/-! ## process_init and process_create -/

def processInit (k : KernelState) : KernelState :=
  if k.pm.initialized then k
  else
    { k with
      pm :=
        { processes := List.replicate maxProcesses null
          currentProcess := null
          processCount := 0
          initialized := true } }

def processStackSize : Nat := 16384

/-- The words `process_create` pushes on the new stack, in the order they are pushed. -/
def initialFrame (entry : UInt32) : List UInt32 :=
  [0x202, 0x08, entry, 0, 0, 0, 0, 0, 0, 0, 0, 0, 0, 0x10, 0x10, 0x10, 0x10]

/-- The stack pointer below the initial frame. -/
def initialEsp (stack entry : UInt32) : UInt32 :=
  stack + UInt32.ofNat processStackSize - UInt32.ofNat (4 * (initialFrame entry).length)

/-- The record before its stack is allocated. -/
def newProcess (pid : Nat) (name : List UInt8) (entry : UInt32) : Process :=
  { Process.zero with
    name := (name.takeWhile fun c => c != 0).take 255
    pid := pid
    state := .ready
    priority := 1
    quantumRemaining := 10
    totalRuntime := 0
    lastRun := 0
    entry := entry }

/-- `process_create(name, entry)`; `block` and `stack` are the results of the two `kmalloc` calls. -/
def processCreate (k : KernelState) (name : Option (List UInt8)) (entry : UInt32)
    (block : ProcessPtr) (stack : UInt32) : ProcessPtr × KernelState :=
  match name with
  | none => (null, k)
  | some name =>
    if k.pm.initialized = false ∨ entry = 0 ∨ maxProcesses ≤ k.pm.processCount then (null, k)
    else if block = null then (null, k)
    else
      let pid := k.pm.processCount
      let k := k.modify block fun _ => newProcess pid name entry
      -- on failure the record is freed and the counter taken back
      if stack = 0 then (null, k)
      else
        let k := k.modify block fun r => { r with stack := stack, esp := initialEsp stack entry }
        (block,
          { k with
            pm :=
              { k.pm with
                processes := k.pm.processes.set pid block
                processCount := pid + 1 } })

/-! ## process_destroy -/

/-- "Shift remaining processes": `n` iterations from index `j`, renumbering what is moved. -/
def shiftProcesses (k : KernelState) (j : Nat) : Nat → KernelState
  | 0 => k
  | n + 1 =>
    let q := k.pm.processes.getD (j + 1) null
    let k := { k with pm := { k.pm with processes := k.pm.processes.set j q } }
    shiftProcesses (k.modify q fun r => { r with pid := j }) (j + 1) n

/-- "Remove from process list". -/
def removeProcess (k : KernelState) (process : ProcessPtr) : KernelState :=
  match (k.pm.processes.take k.pm.processCount).findIdx? (fun q => q == process) with
  | none => k
  | some i =>
    let k := shiftProcesses k i (k.pm.processCount - 1 - i)
    { k with pm := { k.pm with processCount := k.pm.processCount - 1 } }

def processDestroy (k : KernelState) (process : ProcessPtr) : KernelState :=
  if k.pm.initialized = false ∨ process = null then k
  else
    let k := removeProcess k process
    if k.pm.currentProcess = process then
      { k with pm := { k.pm with currentProcess := null } }
    else k

/-! ## process_switch and process_schedule -/

/-- "Save current process state". -/
def saveContext (k : KernelState) : KernelState :=
  if k.pm.currentProcess = null then k
  else k.modify k.pm.currentProcess fun r => { r with esp := k.cpu.esp, ebp := k.cpu.ebp }

def processSwitch (k : KernelState) (next : ProcessPtr) : KernelState :=
  if k.pm.initialized = false ∨ next = null then k
  else
    let k := saveContext k
    { k with
      cpu := { esp := (k.mem next).esp, ebp := (k.mem next).ebp }
      pm := { k.pm with currentProcess := next } }

@[simp] theorem saveContext_pm (k : KernelState) : (saveContext k).pm = k.pm := by
  unfold saveContext
  split <;> rfl

@[simp] theorem saveContext_sched (k : KernelState) : (saveContext k).sched = k.sched := by
  unfold saveContext
  split <;> rfl

@[simp] theorem saveContext_live (k : KernelState) : (saveContext k).live = k.live := by
  unfold saveContext
  split <;> rfl

@[simp] theorem processSwitch_sched (k : KernelState) (p : ProcessPtr) :
    (processSwitch k p).sched = k.sched := by
  unfold processSwitch
  split
  · rfl
  · exact saveContext_sched k

@[simp] theorem processSwitch_live (k : KernelState) (p : ProcessPtr) :
    (processSwitch k p).live = k.live := by
  unfold processSwitch
  split
  · rfl
  · exact saveContext_live k

/-- `process_switch` changes nothing of the process manager but the current process. -/
theorem processSwitch_pm (k : KernelState) (p : ProcessPtr) :
    ∃ cur, (processSwitch k p).pm = { k.pm with currentProcess := cur } := by
  unfold processSwitch
  split
  · exact ⟨k.pm.currentProcess, rfl⟩
  · refine ⟨p, ?_⟩
    show { (saveContext k).pm with currentProcess := p } = _
    rw [saveContext_pm]

/-- The table entry that `process_schedule` selects. -/
def scheduleTarget (k : KernelState) : ProcessPtr :=
  if k.pm.currentProcess = null then k.pm.processes.getD 0 null
  else
    k.pm.processes.getD (((k.mem k.pm.currentProcess).pid + 1) % k.pm.processCount) null

/-- `pm.current_process` is overwritten before `process_switch` runs. -/
def processSchedule (k : KernelState) : KernelState :=
  if k.pm.initialized = false ∨ k.pm.processCount = 0 then k
  else
    let k := { k with pm := { k.pm with currentProcess := scheduleTarget k } }
    processSwitch k k.pm.currentProcess

end MayaOs.Kernel
