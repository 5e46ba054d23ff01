import MayaOs.Properties.TaskRefs

/-!
# Saved contexts

Every process that is switched out gets its stack and frame pointers back when it runs again.
`process_switch` saves the registers into the record `pm.current_process` points to, and
`process_schedule` has already changed that pointer.

* `contexts_iff_schedulesSelf` — a sequence of calls restores every context, for all register
  values, iff `process_schedule` never selects a process other than the current one
* `context_overwritten` — `process_schedule` starts a new process on another one's stack
-/

namespace MayaOs.Kernel

open MayaOs.Lib

/-! ## Calls and contexts -/

inductive SwitchCall where
  | create (name : Option (List UInt8)) (entry : UInt32) (block : ProcessPtr) (stack : UInt32)
  | schedulerInit (entry : UInt32) (block : ProcessPtr) (stack : UInt32)
  | addTask (process : ProcessPtr) (priority : UInt8)
  | removeTask (process : ProcessPtr)
  | schedule
  | switchTask

def callStep (k : KernelState) : SwitchCall → Option KernelState
  | .create name entry block stack =>
    if block ∈ k.live then none else some (createProcess k name entry block stack)
  | .schedulerInit entry block stack =>
    if block ∈ k.live then none else some (initScheduler k entry block stack)
  | .addTask p priority =>
    if p = null ∨ p ∈ k.live then some (schedulerAddTask k p priority).2 else none
  | .removeTask p => some (schedulerRemoveTask k p)
  | .schedule => some (processSchedule k)
  | .switchTask => some (schedulerSwitchTask k)

/-- The process that a call makes the running one. -/
def activates (k : KernelState) : SwitchCall → Option ProcessPtr
  | .schedule =>
    if k.pm.initialized = false ∨ k.pm.processCount = 0 then none else some (scheduleTarget k)
  | .switchTask =>
    if k.sched.initialized = false ∨ k.sched.taskCount = 0 then none
    else some (pickNext (accountCurrent k))
  | _ => none

/--
The kernel, and what its bookkeeping is for: the registers each process had when it was last
switched out, and the stack pointer `process_create` stored for it.
-/
structure CtxSystem where
  kernel : KernelState
  left : ProcessPtr → Option Cpu
  initial : ProcessPtr → UInt32

/-- After `process_init`. -/
def CtxSystem.boot : CtxSystem where
  kernel := processInit KernelState.boot
  left := fun _ => none
  initial := fun _ => 0

/-- A process that is switched out leaves the registers of that moment; a new one has left none. -/
def leftAfter (s : CtxSystem) (a : SwitchCall × Cpu) (k' : KernelState) (p : ProcessPtr) :
    Option Cpu :=
  if p ∉ s.kernel.live ∧ p ∈ k'.live then none
  else if (activates { s.kernel with cpu := a.2 } a.1).isSome ∧ p = s.kernel.pm.currentProcess then
    some a.2
  else s.left p

/-- The stack pointer `process_create` stored. -/
def initialAfter (s : CtxSystem) (k' : KernelState) (p : ProcessPtr) : UInt32 :=
  if p ∉ s.kernel.live ∧ p ∈ k'.live then (k'.mem p).esp else s.initial p

/-- A call, with the registers the CPU has at that moment. -/
def ctxStep (s : CtxSystem) (a : SwitchCall × Cpu) : Option CtxSystem :=
  (callStep { s.kernel with cpu := a.2 } a.1).map fun k' =>
    { kernel := k', left := leftAfter s a k', initial := initialAfter s k' }

/-- `c` is the context the process left, or it has the initial stack pointer. -/
def Agrees (left : Option Cpu) (initial : UInt32) (c : Cpu) : Prop :=
  match left with
  | some d => c = d
  | none => c.esp = initial

/-- The process a call activates has its context in the CPU afterwards. -/
def Restored (s : CtxSystem) (a : SwitchCall × Cpu) (s' : CtxSystem) : Prop :=
  ∀ p, activates { s.kernel with cpu := a.2 } a.1 = some p →
    s'.kernel.pm.currentProcess = p ∧ Agrees (s'.left p) (s'.initial p) s'.kernel.cpu

/-- `process_schedule` selects the process that is already current. -/
def SchedulesSelf (s : CtxSystem) (a : SwitchCall × Cpu) (_ : CtxSystem) : Prop :=
  a.1 = .schedule → s.kernel.pm.processCount ≠ 0 →
    scheduleTarget s.kernel = s.kernel.pm.currentProcess

/-! ## process_switch -/

/-- The context in the record at `p`. -/
def context (k : KernelState) (p : ProcessPtr) : Cpu :=
  { esp := (k.mem p).esp, ebp := (k.mem p).ebp }

theorem context_saveContext (k : KernelState) {p : ProcessPtr} (hp : p ≠ null) :
    context (saveContext k) p = if p = k.pm.currentProcess then k.cpu else context k p := by
  unfold saveContext
  by_cases hcur : k.pm.currentProcess = null
  · rw [if_pos hcur, if_neg (fun he => hp (he.trans hcur))]
  · rw [if_neg hcur]
    by_cases he : p = k.pm.currentProcess
    · rw [if_pos he, he, context, KernelState.modify_mem_self]
    · rw [if_neg he, context, KernelState.modify_mem_ne _ _ _ he]
      rfl

/-- **`process_switch` saves the registers for the current process and loads those of `next`.** -/
theorem processSwitch_spec {k : KernelState} {next : ProcessPtr} (hinit : k.pm.initialized = true)
    (hnext : next ≠ null) :
    (processSwitch k next).pm.currentProcess = next ∧
    (processSwitch k next).cpu
      = (if next = k.pm.currentProcess then k.cpu else context k next) ∧
    ∀ p, p ≠ null → context (processSwitch k next) p
      = if p = k.pm.currentProcess then k.cpu else context k p := by
  unfold processSwitch
  rw [if_neg (by simp [hinit, hnext])]
  exact ⟨rfl, context_saveContext k hnext, fun p hp => context_saveContext k hp⟩

theorem context_accountCurrent (k : KernelState) (p : ProcessPtr) :
    context (accountCurrent k) p = context k p := by
  unfold accountCurrent
  split
  · rfl
  · by_cases he : p = k.sched.currentProcess
    · rw [he, context, KernelState.modify_mem_self]
      rfl
    · rw [context, KernelState.modify_mem_ne _ _ _ he]
      rfl

theorem context_startRunning (k : KernelState) (next p : ProcessPtr) :
    context (startRunning k next) p = context k p := by
  unfold startRunning
  by_cases he : p = next
  · rw [he, context]
    simp only [KernelState.modify_mem_self]
    rfl
  · rw [context]
    simp only [KernelState.modify_mem_ne _ _ _ he]
    rfl

/-- `scheduler_switch_task` switches with the current process still in place. -/
theorem schedulerSwitchTask_spec {k : KernelState} (hi : SchedInv k) (h : RefsLive k)
    (hnull : null ∉ k.live) (hsinit : k.sched.initialized = true) (hcount : k.sched.taskCount ≠ 0) :
    pickNext (accountCurrent k) ∈ k.live ∧
    (schedulerSwitchTask k).pm.currentProcess = pickNext (accountCurrent k) ∧
    (schedulerSwitchTask k).cpu
      = (if pickNext (accountCurrent k) = k.pm.currentProcess then k.cpu
         else context k (pickNext (accountCurrent k))) ∧
    ∀ p, p ≠ null → context (schedulerSwitchTask k) p
      = if p = k.pm.currentProcess then k.cpu else context k p := by
  obtain ⟨hpm, hsched, hlive, hcpu⟩ := accountCurrent_frame k
  have hnext : pickNext (accountCurrent k) ∈ k.live := by
    rw [← hlive]
    exact (h.congr hsched hlive).pickNext (by rw [hsched]; exact hsinit)
  have hne : pickNext (accountCurrent k) ≠ null := fun he => hnull (he ▸ hnext)
  have hpm' : (startRunning (accountCurrent k) (pickNext (accountCurrent k))).pm = k.pm := hpm
  have hcpu' : (startRunning (accountCurrent k) (pickNext (accountCurrent k))).cpu = k.cpu := hcpu
  obtain ⟨hcur, hload, hsave⟩ := processSwitch_spec
    (k := startRunning (accountCurrent k) (pickNext (accountCurrent k)))
    (by rw [hpm']; exact hi.initialized) hne
  unfold schedulerSwitchTask
  rw [if_neg (by simp [hsinit, hcount])]
  simp only [hpm', hcpu', context_startRunning, context_accountCurrent] at hload hsave
  exact ⟨hnext, hcur, hload, hsave⟩

/-! ## Calls that do not switch -/

/-- Process table and contexts are the same. -/
structure SameRecords (k k' : KernelState) : Prop where
  pm : k'.pm = k.pm
  live : k'.live = k.live
  pid : ∀ p, (k'.mem p).pid = (k.mem p).pid
  context : ∀ p, context k' p = context k p

theorem SameRecords.refl (k : KernelState) : SameRecords k k :=
  ⟨rfl, rfl, fun _ => rfl, fun _ => rfl⟩

theorem SameRecords.trans {k₁ k₂ k₃ : KernelState} (h : SameRecords k₁ k₂)
    (h' : SameRecords k₂ k₃) : SameRecords k₁ k₃ where
  pm := h'.pm.trans h.pm
  live := h'.live.trans h.live
  pid := fun p => (h'.pid p).trans (h.pid p)
  context := fun p => (h'.context p).trans (h.context p)

theorem SameRecords.table {k k' : KernelState} (h : SameRecords k k') {l : List ProcessPtr}
    (ht : Table k l) : Table k' l :=
  ht.congr (by rw [h.pm]) (by rw [h.pm]) h.live fun p _ => h.pid p

/-- A write to other fields of a record. -/
theorem sameRecords_modify (k : KernelState) (p : ProcessPtr) {f : Process → Process}
    (hpid : ∀ r, (f r).pid = r.pid) (hesp : ∀ r, (f r).esp = r.esp)
    (hebp : ∀ r, (f r).ebp = r.ebp) : SameRecords k (k.modify p f) := by
  refine ⟨rfl, rfl, fun q => ?_, fun q => ?_⟩
  · by_cases he : q = p
    · rw [he, KernelState.modify_mem_self, hpid]
    · rw [KernelState.modify_mem_ne _ _ _ he]
  · unfold context
    by_cases he : q = p
    · rw [he, KernelState.modify_mem_self, hesp, hebp]
    · rw [KernelState.modify_mem_ne _ _ _ he]

theorem sameRecords_accountCurrent (k : KernelState) : SameRecords k (accountCurrent k) := by
  unfold accountCurrent
  split
  · exact SameRecords.refl k
  · exact sameRecords_modify k _ (fun _ => rfl) (fun _ => rfl) (fun _ => rfl)

theorem sameRecords_startRunning (k : KernelState) (next : ProcessPtr) :
    SameRecords k (startRunning k next) := by
  have hmod : SameRecords k (k.modify next fun r =>
      { r with
        quantumRemaining := schedulerQuantum, state := .running, lastRun := k.timer.ticks }) :=
    sameRecords_modify k next (fun _ => rfl) (fun _ => rfl) (fun _ => rfl)
  exact ⟨rfl, rfl, hmod.pid, hmod.context⟩

theorem sameRecords_addTask (k : KernelState) (p : ProcessPtr) (priority : UInt8) :
    SameRecords k (schedulerAddTask k p priority).2 := by
  unfold schedulerAddTask
  split
  · exact SameRecords.refl k
  · have hmod : SameRecords k (k.modify p fun r =>
        { r with
          quantumRemaining := schedulerQuantum, totalRuntime := 0, lastRun := k.timer.ticks
          priority := priority, state := .ready }) :=
      sameRecords_modify k p (fun _ => rfl) (fun _ => rfl) (fun _ => rfl)
    exact ⟨rfl, rfl, hmod.pid, hmod.context⟩

theorem sameRecords_removeTask (k : KernelState) (p : ProcessPtr) :
    SameRecords k (schedulerRemoveTask k p) := by
  unfold schedulerRemoveTask
  split
  · exact SameRecords.refl k
  · split <;> exact ⟨rfl, rfl, fun _ => rfl, fun _ => rfl⟩

theorem sameRecords_timerSetCallback (k : KernelState) : SameRecords k (timerSetCallback k) := by
  unfold timerSetCallback
  split <;> exact ⟨rfl, rfl, fun _ => rfl, fun _ => rfl⟩

/-- The current process and the contexts of the live processes are the same. -/
structure Quiet (k k' : KernelState) : Prop where
  current : k'.pm.currentProcess = k.pm.currentProcess
  context : ∀ p ∈ k.live, context k' p = context k p

theorem SameRecords.quiet {k k' : KernelState} (h : SameRecords k k') : Quiet k k' :=
  ⟨by rw [h.pm], fun p _ => h.context p⟩

theorem quiet_create (k : KernelState) (name : Option (List UInt8)) (entry : UInt32)
    {block : ProcessPtr} (stack : UInt32) (hfresh : block ∉ k.live) :
    Quiet k (createProcess k name entry block stack) := by
  have hmem : ∀ r : Process, ∀ p ∈ k.live, context (k.modify block fun _ => r) p = context k p := by
    intro r p hp
    unfold context
    rw [KernelState.modify_mem_ne _ _ _ (fun he : p = block => hfresh (he ▸ hp))]
  rcases createProcess_cases k name entry block stack with ⟨-, h | ⟨r, -, h⟩⟩ | ⟨-, nm, h⟩
  · rw [h]; exact ⟨rfl, fun _ _ => rfl⟩
  · rw [h]; exact ⟨rfl, hmem r⟩
  · rw [h]; exact ⟨rfl, hmem _⟩

theorem sameRecords_startIdle (k : KernelState) (idle : ProcessPtr) :
    SameRecords k (startIdle k idle) := by
  have hmod := sameRecords_modify k idle
    (f := fun p => { p with quantumRemaining := schedulerQuantum, priority := 0, state := .ready })
    (fun _ => rfl) (fun _ => rfl) (fun _ => rfl)
  have hset := hmod.trans (sameRecords_timerSetCallback _)
  exact ⟨hset.pm, hset.live, hset.pid, hset.context⟩

/-- `scheduler_init` is a creation, followed by writes to other fields of the new record. -/
theorem sameRecords_initScheduler (k : KernelState) (entry : UInt32) (block : ProcessPtr)
    (stack : UInt32) :
    initScheduler k entry block stack = k ∨
      SameRecords (createProcess { k with sched := SchedulerState.zero } (some idleName) entry block
        stack) (initScheduler k entry block stack) := by
  rcases initScheduler_cases k entry block stack with heq | heq | ⟨-, -, heq⟩
  · exact Or.inl heq
  · rw [heq]
    exact Or.inr (SameRecords.refl _)
  · rw [heq]
    exact Or.inr (sameRecords_startIdle _ block)

/-! ## Calls that switch -/

theorem saveContext_pid (k : KernelState) (p : ProcessPtr) :
    ((saveContext k).mem p).pid = (k.mem p).pid := by
  unfold saveContext
  split
  · rfl
  · by_cases he : p = k.pm.currentProcess
    · rw [he, KernelState.modify_mem_self]
    · rw [KernelState.modify_mem_ne _ _ _ he]

/-- Neither `process_switch` nor a change of the current process touches the table. -/
theorem Table.processSwitch {k : KernelState} {l : List ProcessPtr} (h : Table k l)
    (next : ProcessPtr) : Table (processSwitch k next) l := by
  obtain ⟨cur, hpm⟩ := processSwitch_pm k next
  refine h.congr (by rw [hpm]) (by rw [hpm]) (processSwitch_live k next) fun p _ => ?_
  unfold Kernel.processSwitch
  split
  · rfl
  · exact saveContext_pid k p

theorem Table.switchTask {k : KernelState} {l : List ProcessPtr} (h : Table k l) :
    Table (schedulerSwitchTask k) l := by
  unfold schedulerSwitchTask
  split
  · exact h
  · exact ((sameRecords_startRunning _ _).table ((sameRecords_accountCurrent k).table h)).processSwitch _

/-- `process_schedule` selects an entry of the table. -/
theorem Table.scheduleTarget_mem {k : KernelState} {l : List ProcessPtr} (h : Table k l)
    (hcount : k.pm.processCount ≠ 0) : scheduleTarget k ∈ k.live := by
  have hcell : ∀ i, i < k.pm.processCount → k.pm.processes.getD i null ∈ k.live := by
    intro i hi
    have hcap := h.capacity
    have hbound := h.bound
    rw [List.getD_eq_getElem?_getD, List.getElem?_eq_getElem (by omega), Option.getD_some]
    rw [← h.live, ← h.used, mem_take_iff_getElem?]
    exact ⟨i, hi, List.getElem?_eq_getElem (by omega)⟩
  unfold scheduleTarget
  split
  · exact hcell 0 (by omega)
  · exact hcell _ (Nat.mod_lt _ (by omega))

theorem processSchedule_frame (k : KernelState) :
    (processSchedule k).sched = k.sched ∧ (processSchedule k).live = k.live ∧
      (processSchedule k).pm.initialized = k.pm.initialized := by
  unfold processSchedule
  split
  · exact ⟨rfl, rfl, rfl⟩
  · simp only []
    obtain ⟨cur, hpm⟩ := processSwitch_pm
      { k with pm := { k.pm with currentProcess := scheduleTarget k } } (scheduleTarget k)
    exact ⟨processSwitch_sched _ _, processSwitch_live _ _, by rw [hpm]⟩

theorem Table.schedule {k : KernelState} {l : List ProcessPtr} (h : Table k l) :
    Table (processSchedule k) l := by
  unfold processSchedule
  split
  · exact h
  · have hcur : Table { k with pm := { k.pm with currentProcess := scheduleTarget k } } l :=
      h.congr rfl rfl rfl fun _ _ => rfl
    exact hcur.processSwitch _

/-- **`process_schedule` saves the registers for the process it selects and loads them back.** -/
theorem processSchedule_spec {k : KernelState} (hinit : k.pm.initialized = true)
    (hcount : k.pm.processCount ≠ 0) (htarget : scheduleTarget k ≠ null) :
    (processSchedule k).pm.currentProcess = scheduleTarget k ∧
    (processSchedule k).cpu = k.cpu ∧
    ∀ p, p ≠ null → context (processSchedule k) p
      = if p = scheduleTarget k then k.cpu else context k p := by
  obtain ⟨hcur, hload, hsave⟩ := processSwitch_spec
    (k := { k with pm := { k.pm with currentProcess := scheduleTarget k } }) hinit htarget
  unfold processSchedule
  rw [if_neg (by simp [hinit, hcount])]
  exact ⟨hcur, by rw [hload, if_pos rfl], hsave⟩

/-! ## The invariant -/

structure CtxInv (k : KernelState) : Prop where
  table : ∃ l, Table k l
  sched : SchedInv k
  refs : RefsLive k

/-- The records of all processes but the current one hold the contexts these left. -/
def Saved (s : CtxSystem) : Prop :=
  ∀ p ∈ s.kernel.live, p ≠ s.kernel.pm.currentProcess →
    Agrees (s.left p) (s.initial p) (context s.kernel p)

theorem CtxInv.null_not_live {k : KernelState} (h : CtxInv k) : null ∉ k.live := by
  obtain ⟨l, ht⟩ := h.table
  exact ht.null_not_live

/-- The registers of the CPU do not matter between calls. -/
theorem CtxInv.cpu {k : KernelState} (h : CtxInv k) (c : Cpu) : CtxInv { k with cpu := c } := by
  obtain ⟨l, ht⟩ := h.table
  exact ⟨⟨l, ht.congr rfl rfl rfl fun _ _ => rfl⟩, h.sched.congr rfl rfl rfl, h.refs.congr rfl rfl⟩

/-- Every call keeps the tables in order. -/
theorem ctxInv_callStep {k k' : KernelState} {call : SwitchCall} (h : CtxInv k)
    (hs : callStep k call = some k') : CtxInv k' := by
  obtain ⟨l, ht⟩ := h.table
  cases call with
  | create name entry block stack =>
    simp only [callStep] at hs
    split at hs
    · cases hs
    · next hfresh =>
      cases hs
      obtain ⟨hi, hr⟩ := refs_create h.sched h.refs name entry stack hfresh
      exact ⟨ht.createProcess name entry stack hfresh, hi, hr⟩
  | schedulerInit entry block stack =>
    simp only [callStep] at hs
    split at hs
    · cases hs
    · next hfresh =>
      cases hs
      obtain ⟨hi, hr⟩ := refs_schedulerInit h.sched h.refs entry stack hfresh
      refine ⟨?_, hi, hr⟩
      rcases sameRecords_initScheduler k entry block stack with heq | hsame
      · rw [heq]
        exact ⟨l, ht⟩
      · -- the table is cleared before the idle process is created
        have ht₀ : Table { k with sched := SchedulerState.zero } l :=
          ht.congr rfl rfl rfl fun _ _ => rfl
        obtain ⟨l', ht'⟩ := ht₀.createProcess (some idleName) entry stack hfresh
        exact ⟨l', hsame.table ht'⟩
  | addTask p priority =>
    simp only [callStep] at hs
    split at hs
    · next hp =>
      cases hs
      obtain ⟨hi, hr⟩ := refs_addTask h.sched h.refs hp priority
      exact ⟨⟨l, (sameRecords_addTask k p priority).table ht⟩, hi, hr⟩
    · cases hs
  | removeTask p =>
    cases hs
    obtain ⟨hi, hr⟩ := refs_removeTask h.sched h.refs p
    exact ⟨⟨l, (sameRecords_removeTask k p).table ht⟩, hi, hr⟩
  | schedule =>
    cases hs
    obtain ⟨hsched, hlive, hinit⟩ := processSchedule_frame k
    exact ⟨⟨l, ht.schedule⟩, h.sched.congr hinit hsched hlive, h.refs.congr hsched hlive⟩
  | switchTask =>
    cases hs
    obtain ⟨hi, hr⟩ := refs_switchTask h.sched h.refs
    exact ⟨⟨l, ht.switchTask⟩, hi, hr⟩

/-- A call that activates nobody is quiet. -/
theorem quiet_callStep {k k' : KernelState} {call : SwitchCall}
    (hs : callStep k call = some k') (hno : activates k call = none) : Quiet k k' := by
  cases call with
  | create name entry block stack =>
    simp only [callStep] at hs
    split at hs
    · cases hs
    · next hfresh => cases hs; exact quiet_create k name entry stack hfresh
  | schedulerInit entry block stack =>
    simp only [callStep] at hs
    split at hs
    · cases hs
    · next hfresh =>
      cases hs
      rcases sameRecords_initScheduler k entry block stack with heq | hsame
      · rw [heq]
        exact ⟨rfl, fun _ _ => rfl⟩
      · have hq := quiet_create { k with sched := SchedulerState.zero } (some idleName) entry stack
          hfresh
        refine ⟨by rw [hsame.pm]; exact hq.current, fun p hp => ?_⟩
        rw [hsame.context]
        exact hq.context p hp
  | addTask p priority =>
    simp only [callStep] at hs
    split at hs
    · cases hs; exact (sameRecords_addTask k p priority).quiet
    · cases hs
  | removeTask p => cases hs; exact (sameRecords_removeTask k p).quiet
  | schedule =>
    cases hs
    simp only [activates] at hno
    split at hno
    · next hg =>
      have hsame : processSchedule k = k := if_pos hg
      rw [hsame]
      exact ⟨rfl, fun _ _ => rfl⟩
    · cases hno
  | switchTask =>
    cases hs
    simp only [activates] at hno
    split at hno
    · next hg =>
      have hsame : schedulerSwitchTask k = k := if_pos hg
      rw [hsame]
      exact ⟨rfl, fun _ _ => rfl⟩
    · cases hno

/-! ## One call -/

/-- What a call that activates `p` does when it does not lose the current process on the way. -/
structure Switches (k k' : KernelState) (p : ProcessPtr) : Prop where
  mem : p ∈ k.live
  live : k'.live = k.live
  current : k'.pm.currentProcess = p
  load : k'.cpu = if p = k.pm.currentProcess then k.cpu else context k p
  save : ∀ q, q ≠ null → context k' q = if q = k.pm.currentProcess then k.cpu else context k q

/-- `scheduler_switch_task` switches, and `process_schedule` does when it selects the current one. -/
theorem switches_callStep {k k' : KernelState} {call : SwitchCall} {p : ProcessPtr} (h : CtxInv k)
    (hs : callStep k call = some k') (hp : activates k call = some p)
    (hself : call = .schedule → k.pm.processCount ≠ 0 → scheduleTarget k = k.pm.currentProcess) :
    Switches k k' p := by
  obtain ⟨l, ht⟩ := h.table
  cases call with
  | schedule =>
    cases hs
    simp only [activates] at hp
    split at hp
    · cases hp
    · next hg =>
      cases hp
      simp only [not_or, Bool.not_eq_false] at hg
      have hmem := ht.scheduleTarget_mem hg.2
      have hne : scheduleTarget k ≠ null := fun he => ht.null_not_live (he ▸ hmem)
      obtain ⟨hcur, hload, hsave⟩ := processSchedule_spec hg.1 hg.2 hne
      -- the registers are saved where they belong only because nothing is switched
      have htarget := hself rfl hg.2
      refine ⟨hmem, (processSchedule_frame k).2.1, hcur, ?_, ?_⟩
      · rw [if_pos htarget, hload]
      · rw [← htarget]
        exact hsave
  | switchTask =>
    cases hs
    simp only [activates] at hp
    split at hp
    · cases hp
    · next hg =>
      cases hp
      simp only [not_or, Bool.not_eq_false] at hg
      obtain ⟨hmem, hcur, hload, hsave⟩ :=
        schedulerSwitchTask_spec h.sched h.refs ht.null_not_live hg.1 hg.2
      have hlive : (schedulerSwitchTask k).live = k.live := by
        unfold schedulerSwitchTask
        split
        · rfl
        · rw [processSwitch_live]
          exact (accountCurrent_frame k).2.2.1
      exact ⟨hmem, hlive, hcur, hload, hsave⟩
  | create name entry block stack => cases hp
  | schedulerInit entry block stack => cases hp
  | addTask p priority => cases hp
  | removeTask p => cases hp

theorem leftAfter_of_live {s : CtxSystem} {a : SwitchCall × Cpu} {k' : KernelState}
    {p : ProcessPtr} (hp : p ∈ s.kernel.live) : leftAfter s a k' p
      = if (activates { s.kernel with cpu := a.2 } a.1).isSome ∧ p = s.kernel.pm.currentProcess then
          some a.2
        else s.left p := if_neg fun hc => hc.1 hp

theorem initialAfter_of_live {s : CtxSystem} {k' : KernelState} {p : ProcessPtr}
    (hp : p ∈ s.kernel.live) : initialAfter s k' p = s.initial p := if_neg fun hc => hc.1 hp

/-- A call that activates nobody keeps the saved contexts; a new process has its initial one. -/
theorem saved_of_quiet {s : CtxSystem} {a : SwitchCall × Cpu} {k' : KernelState}
    (hsaved : Saved s) (hquiet : Quiet { s.kernel with cpu := a.2 } k')
    (hact : activates { s.kernel with cpu := a.2 } a.1 = none) :
    Saved { kernel := k', left := leftAfter s a k', initial := initialAfter s k' } := by
  intro p hp hne
  show Agrees (leftAfter s a k' p) (initialAfter s k' p) (context k' p)
  by_cases hold : p ∈ s.kernel.live
  · rw [leftAfter_of_live hold, initialAfter_of_live hold, hact, if_neg (fun hc => by cases hc.1),
      hquiet.context p hold]
    exact hsaved p hold (fun he => hne (he.trans hquiet.current.symm))
  · -- a process that the call has created
    rw [leftAfter, initialAfter, if_pos ⟨hold, hp⟩, if_pos ⟨hold, hp⟩]
    rfl

/-- After a switch the CPU and all other records hold the right contexts. -/
theorem saved_of_switches {s : CtxSystem} {a : SwitchCall × Cpu} {k' : KernelState} {p : ProcessPtr}
    (hnull : null ∉ s.kernel.live) (hsaved : Saved s)
    (hsw : Switches { s.kernel with cpu := a.2 } k' p)
    (hact : activates { s.kernel with cpu := a.2 } a.1 = some p) :
    Agrees (leftAfter s a k' p) (initialAfter s k' p) k'.cpu ∧
      Saved { kernel := k', left := leftAfter s a k', initial := initialAfter s k' } := by
  have hleft : ∀ q ∈ s.kernel.live,
      leftAfter s a k' q = if q = s.kernel.pm.currentProcess then some a.2 else s.left q := by
    intro q hq
    rw [leftAfter_of_live hq, hact]
    simp
  constructor
  · rw [hleft p hsw.mem, initialAfter_of_live hsw.mem, hsw.load]
    split
    · exact rfl
    · next hcur => exact hsaved p hsw.mem hcur
  · intro q hq _
    have hlive : q ∈ s.kernel.live := by
      rw [← show k'.live = s.kernel.live from hsw.live]
      exact hq
    show Agrees (leftAfter s a k' q) (initialAfter s k' q) (context k' q)
    rw [hleft q hlive, initialAfter_of_live hlive, hsw.save q (fun he => hnull (he ▸ hlive))]
    split
    · exact rfl
    · next hcur => exact hsaved q hlive hcur

/-- **One call**: if `process_schedule` selects the current process, contexts are restored. -/
theorem restored_step {s s' : CtxSystem} {a : SwitchCall × Cpu} (h : CtxInv s.kernel)
    (hsaved : Saved s) (hs : ctxStep s a = some s') (hself : SchedulesSelf s a s') :
    Restored s a s' ∧ CtxInv s'.kernel ∧ Saved s' := by
  obtain ⟨k', hk', rfl⟩ := Option.map_eq_some_iff.mp hs
  have hcpu : CtxInv { s.kernel with cpu := a.2 } := h.cpu a.2
  have hinv : CtxInv k' := ctxInv_callStep hcpu hk'
  cases hact : activates { s.kernel with cpu := a.2 } a.1 with
  | none =>
    refine ⟨fun p hp => ?_, hinv, saved_of_quiet hsaved (quiet_callStep hk' hact) hact⟩
    rw [hact] at hp
    cases hp
  | some p =>
    have hsw := switches_callStep hcpu hk' hact hself
    obtain ⟨hagree, hsaved'⟩ := saved_of_switches h.null_not_live hsaved hsw hact
    refine ⟨fun q hq => ?_, hinv, hsaved'⟩
    cases hact.symm.trans hq
    exact ⟨hsw.current, hagree⟩

/-- A stack pointer that is not the one a process left or started with. -/
def otherEsp (left : Option Cpu) (initial : UInt32) : UInt32 :=
  match left with
  | some d => d.esp + 1
  | none => initial + 1

theorem not_agrees_otherEsp (left : Option Cpu) (initial ebp : UInt32) :
    ¬ Agrees left initial { esp := otherEsp left initial, ebp := ebp } := by
  have hne : ∀ x : UInt32, x + 1 ≠ x := by
    intro x hx
    have hone : x + 1 - x = x - x := by rw [hx]
    rw [UInt32.add_comm, UInt32.add_sub_cancel, UInt32.sub_self] at hone
    exact absurd hone (by decide)
  cases left with
  | none => exact hne initial
  | some d =>
    intro hd
    exact hne d.esp (congrArg Cpu.esp hd)

/-- If `process_schedule` selects another process, some register values are not restored. -/
theorem schedulesSelf_of_restored {s : CtxSystem} (h : CtxInv s.kernel)
    (hall : ∀ c s', ctxStep s (.schedule, c) = some s' → Restored s (.schedule, c) s')
    (hcount : s.kernel.pm.processCount ≠ 0) :
    scheduleTarget s.kernel = s.kernel.pm.currentProcess := by
  by_contra hne
  let p := scheduleTarget s.kernel
  let c : Cpu := { esp := otherEsp (s.left p) (s.initial p), ebp := 0 }
  have hcpu : CtxInv { s.kernel with cpu := c } := h.cpu c
  obtain ⟨l, ht⟩ := hcpu.table
  have hmem : p ∈ s.kernel.live := ht.scheduleTarget_mem hcount
  have hpn : p ≠ null := fun he => ht.null_not_live (he ▸ hmem)
  obtain ⟨-, hload, -⟩ := processSchedule_spec (k := { s.kernel with cpu := c })
    h.sched.initialized hcount hpn
  have hact : activates { s.kernel with cpu := c } .schedule = some p :=
    if_neg (by simp [h.sched.initialized, hcount])
  obtain ⟨-, hagree⟩ := hall c _ rfl p hact
  simp only [hload] at hagree
  rw [leftAfter_of_live hmem, initialAfter_of_live hmem, if_neg (fun hc => hne hc.2)] at hagree
  exact not_agrees_otherEsp _ _ _ hagree

/-! ## Runs -/

theorem ctxInv_boot : CtxInv CtxSystem.boot.kernel where
  table := ⟨[], table_processInit_boot⟩
  sched := schedInv_boot
  refs := refsLive_boot

theorem saved_boot : Saved CtxSystem.boot := by
  intro p hp
  cases hp

/--
**A sequence of calls restores every context, whatever is in the registers, iff `process_schedule`
never selects a process other than the current one.**

The calls start after `process_init` and create any processes, start the scheduler, fill the task
table and switch in any order; each finds arbitrary values in the registers.
-/
theorem contexts_iff_schedulesSelf (calls : List SwitchCall) :
    (∀ as, as.map Prod.fst = calls → Along ctxStep Restored CtxSystem.boot as) ↔
      (∀ as, as.map Prod.fst = calls → Along ctxStep SchedulesSelf CtxSystem.boot as) := by
  constructor
  · intro hall as has
    rw [along_iff_forall_initial]
    intro pre a post t t' heq hpre _ hcall hcount
    have hinv : CtxInv t.kernel := by
      refine invariant_run (I := fun s => CtxInv s.kernel) ?_ ctxInv_boot hpre
      intro s b s' hs hstep
      obtain ⟨k', hk', rfl⟩ := Option.map_eq_some_iff.mp hstep
      exact ctxInv_callStep (hs.cpu b.2) hk'
    refine schedulesSelf_of_restored hinv ?_ hcount
    -- the same calls, with other registers at this one
    intro c s' hstep
    have hother := hall (pre ++ (.schedule, c) :: post) (by
      rw [← has, heq, List.map_append, List.map_append, List.map_cons, List.map_cons, hcall])
    exact along_iff_forall_initial.mp hother pre _ post t s' rfl hpre hstep
  · intro hall as has
    refine Along.of_invariant (I := fun s => CtxInv s.kernel ∧ Saved s) ?_ ?_
      ⟨ctxInv_boot, saved_boot⟩ (hall as has)
    · intro s a s' hs hstep hq
      exact (restored_step hs.1 hs.2 hstep hq).1
    · intro s a s' hs hstep hq
      exact (restored_step hs.1 hs.2 hstep hq).2

/-- Two processes are created and `process_schedule` starts the first one. -/
def scheduleRun : List (SwitchCall × Cpu) :=
  [(.create (some [0x61]) 0x1000 0xD0000010 0xD0001000, { esp := 0xC0001F00, ebp := 0xC0001F80 }),
   (.create (some [0x62]) 0x2000 0xD0000200 0xD0006000, { esp := 0xC0001F00, ebp := 0xC0001F80 }),
   (.schedule, { esp := 0xC0001F00, ebp := 0xC0001F80 })]

/-- **The next `process_schedule` starts the second process on the stack of the first one.** -/
theorem context_overwritten :
    ∃ s s', run ctxStep CtxSystem.boot scheduleRun = some s ∧
      ctxStep s (.schedule, { esp := 0xD0004F00, ebp := 0xD0004F80 }) = some s' ∧
      s.kernel.pm.currentProcess = 0xD0000010 ∧ s'.kernel.pm.currentProcess = 0xD0000200 ∧
      s'.left 0xD0000200 = none ∧ s'.initial 0xD0000200 = 0xD0009FBC ∧
      s'.kernel.cpu.esp = 0xD0004F00 ∧
      ¬ Restored s (.schedule, { esp := 0xD0004F00, ebp := 0xD0004F80 }) s' := by
  refine ⟨_, _, rfl, rfl, by decide +kernel, by decide +kernel, by decide +kernel, by decide +kernel,
    by decide +kernel, fun h => ?_⟩
  exact absurd (h 0xD0000200 (by decide +kernel)).2
    (show ¬ (0xD0004F00 : UInt32) = 0xD0009FBC by decide)

end MayaOs.Kernel
