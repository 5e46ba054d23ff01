import MayaOs.Lib.Run
import MayaOs.Kernel.Scheduler
import MayaOs.Properties.ProcessTable

/-!
# The scheduler's references

`scheduler_state` keeps process pointers of its own, and `process_destroy` is not told about them.

* `refsLive_iff_unreferenced` — throughout a run the scheduler refers to live processes only, iff
  no process is destroyed that the scheduler refers to
* `exit_leaves_reference` — a run in which the running process exits and stays in the task table
-/

namespace MayaOs.Kernel

open MayaOs.Lib

/-! ## The property -/

/-- The first `taskCount` entries of `tasks`. -/
def usedTasks (k : KernelState) : List ProcessPtr := k.sched.tasks.take k.sched.taskCount

/-- Every process pointer in `scheduler_state` refers to a live process. -/
structure RefsLive (k : KernelState) : Prop where
  tasks : ∀ p ∈ usedTasks k, p ∈ k.live
  current : k.sched.currentProcess ≠ null → k.sched.currentProcess ∈ k.live
  idle : k.sched.initialized = true → k.sched.idleProcess ∈ k.live

/-- The scheduler does not refer to `p`. -/
structure Unreferenced (k : KernelState) (p : ProcessPtr) : Prop where
  tasks : p ∉ usedTasks k
  current : p ≠ null → k.sched.currentProcess ≠ p
  idle : k.sched.initialized = true → k.sched.idleProcess ≠ p

inductive TaskOp where
  | create (name : Option (List UInt8)) (entry : UInt32) (block : ProcessPtr) (stack : UInt32)
  | destroy (process : ProcessPtr)
  | timerInit
  | schedulerInit (entry : UInt32) (block : ProcessPtr) (stack : UInt32)
  | addTask (process : ProcessPtr) (priority : UInt8)
  | removeTask (process : ProcessPtr)
  | switchTask
  | tick
  | exit (args : List UInt32)

/-- The process that a call destroys, NULL if none. -/
def destroyed (k : KernelState) : TaskOp → ProcessPtr
  | .destroy p => p
  | .exit args => if args.length < 1 then null else k.pm.currentProcess
  | _ => null

/-- A call of `scheduler_init`, and what exists afterwards: the idle process is new. -/
def initScheduler (k : KernelState) (entry : UInt32) (block : ProcessPtr) (stack : UInt32) :
    KernelState :=
  let k' := (schedulerInit k entry block stack).2
  if k.sched.initialized then k' else k'.noteCreated k'.sched.idleProcess

/--
One call or interrupt. `kmalloc` returns NULL or a record that is not in use; `process_destroy` and
`scheduler_add_task` are given NULL or a live process.
-/
def taskStep (k : KernelState) : TaskOp → Option KernelState
  | .create name entry block stack =>
    if block ∈ k.live then none else some (createProcess k name entry block stack)
  | .destroy p => if p = null ∨ p ∈ k.live then some (destroyProcess k p) else none
  | .timerInit => some (timerInit k)
  | .schedulerInit entry block stack =>
    if block ∈ k.live then none else some (initScheduler k entry block stack)
  | .addTask p priority =>
    if p = null ∨ p ∈ k.live then some (schedulerAddTask k p priority).2 else none
  | .removeTask p => some (schedulerRemoveTask k p)
  | .switchTask => some (schedulerSwitchTask k)
  | .tick => some (timerHandler k)
  | .exit args => some ((sysExit k args).2.noteDestroyed (destroyed k (.exit args)))

/-- The call destroys no process that the scheduler refers to. -/
def DestroysUnreferenced (k : KernelState) (op : TaskOp) : Prop :=
  destroyed k op ≠ null → Unreferenced k (destroyed k op)

/-! ## What the calls do to the references -/

/-- The state between calls that does not depend on which processes are live. -/
structure SchedInv (k : KernelState) : Prop where
  initialized : k.pm.initialized = true
  liveNodup : k.live.Nodup
  capacity : k.sched.tasks.length = maxTasks
  bound : k.sched.taskCount ≤ maxTasks

/-- Calls that change neither the scheduler nor the set of live processes. -/
theorem SchedInv.congr {k k' : KernelState} (h : SchedInv k)
    (hpm : k'.pm.initialized = k.pm.initialized) (hsched : k'.sched = k.sched)
    (hlive : k'.live = k.live) : SchedInv k' where
  initialized := by rw [hpm]; exact h.initialized
  liveNodup := by rw [hlive]; exact h.liveNodup
  capacity := by rw [hsched]; exact h.capacity
  bound := by rw [hsched]; exact h.bound

theorem RefsLive.congr {k k' : KernelState} (h : RefsLive k) (hsched : k'.sched = k.sched)
    (hlive : k'.live = k.live) : RefsLive k' where
  tasks := by unfold usedTasks; rw [hsched, hlive]; exact h.tasks
  current := by rw [hsched, hlive]; exact h.current
  idle := by rw [hsched, hlive]; exact h.idle

/-- `process_create` leaves the scheduler alone. -/
theorem processCreate_sched (k : KernelState) (name : Option (List UInt8)) (entry : UInt32)
    (block : ProcessPtr) (stack : UInt32) :
    (processCreate k name entry block stack).2.sched = k.sched := by
  rcases processCreate_cases k name entry block stack with ⟨-, h | ⟨r, -, h⟩⟩ | ⟨-, nm, h⟩ <;>
    rw [h] <;> rfl

/-- In a run it adds the process it returns, if any, to those that exist. -/
theorem createProcess_frame (k : KernelState) (name : Option (List UInt8)) (entry : UInt32)
    (block : ProcessPtr) (stack : UInt32) :
    (createProcess k name entry block stack).sched = k.sched ∧
    (createProcess k name entry block stack).pm.initialized = k.pm.initialized ∧
    ((createProcess k name entry block stack).live = k.live ∨
      (createProcess k name entry block stack).live = block :: k.live) := by
  rcases createProcess_cases k name entry block stack with ⟨-, h | ⟨r, -, h⟩⟩ | ⟨-, nm, h⟩
  · rw [h]; exact ⟨rfl, rfl, Or.inl rfl⟩
  · rw [h]; exact ⟨rfl, rfl, Or.inl rfl⟩
  · rw [h]; exact ⟨rfl, rfl, Or.inr rfl⟩

theorem refs_create {k : KernelState} (hi : SchedInv k) (h : RefsLive k)
    (name : Option (List UInt8)) (entry : UInt32) {block : ProcessPtr} (stack : UInt32)
    (hfresh : block ∉ k.live) :
    SchedInv (createProcess k name entry block stack) ∧
      RefsLive (createProcess k name entry block stack) := by
  obtain ⟨hsched, hpm, hlive | hlive⟩ := createProcess_frame k name entry block stack
  · exact ⟨hi.congr hpm hsched hlive, h.congr hsched hlive⟩
  · refine ⟨⟨hpm ▸ hi.initialized, ?_, hsched ▸ hi.capacity, hsched ▸ hi.bound⟩, ?_, ?_, ?_⟩
    · rw [hlive]
      exact List.nodup_cons.mpr ⟨hfresh, hi.liveNodup⟩
    · intro p hp
      rw [usedTasks, hsched] at hp
      rw [hlive]
      exact List.mem_cons_of_mem _ (h.tasks p hp)
    · intro hc
      rw [hsched] at hc ⊢
      rw [hlive]
      exact List.mem_cons_of_mem _ (h.current hc)
    · intro hinit
      rw [hsched] at hinit ⊢
      rw [hlive]
      exact List.mem_cons_of_mem _ (h.idle hinit)

@[simp] theorem timerSetCallback_frame (k : KernelState) :
    (timerSetCallback k).pm = k.pm ∧ (timerSetCallback k).sched = k.sched ∧
      (timerSetCallback k).live = k.live := by
  unfold timerSetCallback
  split <;> exact ⟨rfl, rfl, rfl⟩

theorem timerSetCallback_live (live : List ProcessPtr) (k : KernelState) :
    timerSetCallback { k with live := live } = { timerSetCallback k with live := live } := by
  unfold timerSetCallback
  by_cases hoff : k.timer.initialized = false
  · simp only [if_pos hoff]
  · simp only [if_neg hoff]

/-- What `scheduler_init` does after the idle process is created. -/
def startIdle (k : KernelState) (idle : ProcessPtr) : KernelState :=
  let k := timerSetCallback (k.modify idle fun p =>
    { p with quantumRemaining := schedulerQuantum, priority := 0, state := .ready })
  { k with sched := { k.sched with idleProcess := idle, initialized := true } }

theorem startIdle_frame (k : KernelState) (idle : ProcessPtr) :
    (startIdle k idle).pm = k.pm ∧
      (startIdle k idle).sched = { k.sched with idleProcess := idle, initialized := true } ∧
      (startIdle k idle).live = k.live := by
  unfold startIdle
  obtain ⟨hpm, hsched, hlive⟩ := timerSetCallback_frame (k.modify idle fun p =>
    { p with quantumRemaining := schedulerQuantum, priority := 0, state := .ready })
  exact ⟨hpm, congrArg (fun s : SchedulerState => { s with idleProcess := idle, initialized := true })
    hsched, hlive⟩

/-- It does the same whether what exists is recorded before it or after. -/
theorem startIdle_noteCreated (k : KernelState) {p : ProcessPtr} (hp : p ≠ null) :
    (startIdle k p).noteCreated (startIdle k p).sched.idleProcess
      = startIdle (k.noteCreated p) p := by
  have hidle : (startIdle k p).sched.idleProcess = p := by rw [(startIdle_frame k p).2.1]
  rw [hidle, KernelState.noteCreated, KernelState.noteCreated, if_neg hp, if_neg hp,
    (startIdle_frame k p).2.2]
  have hset := timerSetCallback_live (p :: k.live) (k.modify p fun p =>
    { p with quantumRemaining := schedulerQuantum, priority := 0, state := .ready })
  exact (congrArg (fun k : KernelState =>
    { k with sched := { k.sched with idleProcess := p, initialized := true } }) hset).symm

/--
**Everything `scheduler_init` can do in a run**: nothing, a creation that fails, or one that
succeeds and is followed by the start of the idle process.
-/
theorem initScheduler_cases (k : KernelState) (entry : UInt32) (block : ProcessPtr)
    (stack : UInt32) :
    initScheduler k entry block stack = k ∨
    initScheduler k entry block stack =
      createProcess { k with sched := SchedulerState.zero } (some idleName) entry block stack ∨
    (block ≠ null ∧
      (createProcess { k with sched := SchedulerState.zero } (some idleName) entry block stack).live
        = block :: k.live ∧
      initScheduler k entry block stack = startIdle
        (createProcess { k with sched := SchedulerState.zero } (some idleName) entry block stack)
        block) := by
  unfold initScheduler schedulerInit createProcess
  by_cases hon : k.sched.initialized = true
  · exact Or.inl (by simp only [hon, if_true])
  · refine Or.inr ?_
    simp only [hon, if_false, Bool.false_eq_true]
    rcases processCreate_cases { k with sched := SchedulerState.zero } (some idleName) entry block
      stack with ⟨-, h | ⟨r, -, h⟩⟩ | ⟨hok, nm, h⟩
    · left; simp only [h, if_true]; rfl
    · left; simp only [h, if_true]; rfl
    · right
      have hblock : block ≠ null := hok.2.2.2.2.1
      simp only [h, if_neg hblock]
      exact ⟨hblock, by rw [KernelState.noteCreated, if_neg hblock]; rfl,
        startIdle_noteCreated _ hblock⟩

/-- `scheduler_init` starts from an empty table and refers to the new idle process at most. -/
theorem refs_schedulerInit {k : KernelState} (hi : SchedInv k) (h : RefsLive k) (entry : UInt32)
    {block : ProcessPtr} (stack : UInt32) (hfresh : block ∉ k.live) :
    SchedInv (initScheduler k entry block stack) ∧
      RefsLive (initScheduler k entry block stack) := by
  have hi₀ : SchedInv { k with sched := SchedulerState.zero } :=
    ⟨hi.initialized, hi.liveNodup, List.length_replicate, Nat.zero_le _⟩
  have h₀ : RefsLive { k with sched := SchedulerState.zero } :=
    { tasks := fun p hp => absurd hp List.not_mem_nil
      current := fun hc => absurd rfl hc
      idle := fun hinit => Bool.noConfusion hinit }
  obtain ⟨hi₁, h₁⟩ := refs_create hi₀ h₀ (some idleName) entry stack hfresh
  rcases initScheduler_cases k entry block stack with heq | heq | ⟨-, hlive, heq⟩
  · rw [heq]
    exact ⟨hi, h⟩
  · rw [heq]
    exact ⟨hi₁, h₁⟩
  · rw [heq]
    obtain ⟨hpm', hsched', hlive'⟩ := startIdle_frame
      (createProcess { k with sched := SchedulerState.zero } (some idleName) entry block stack) block
    refine ⟨⟨?_, ?_, ?_, ?_⟩, ?_, ?_, fun _ => ?_⟩
    · rw [hpm']; exact hi₁.initialized
    · rw [hlive']; exact hi₁.liveNodup
    · rw [hsched']; exact hi₁.capacity
    · rw [hsched']; exact hi₁.bound
    · unfold usedTasks; rw [hsched', hlive']; exact h₁.tasks
    · rw [hsched', hlive']; exact h₁.current
    · rw [hsched', hlive', hlive]
      exact List.mem_cons_self

/-! ### scheduler_add_task and scheduler_remove_task -/

@[simp] theorem length_sortPass (mem : ProcessPtr → Process) :
    ∀ (i : Nat) (tasks : List ProcessPtr), (sortPass mem i tasks).length = tasks.length := by
  intro i
  induction i with
  | zero => intro tasks; rfl
  | succ i ih =>
    intro tasks
    rw [sortPass]
    split
    · rw [ih, List.length_set, List.length_set]
    · exact ih tasks

/-- The sorting pass brings nothing into the used part of the table. -/
theorem mem_take_sortPass {mem : ProcessPtr → Process} {n : Nat} {p : ProcessPtr} :
    ∀ {i : Nat} {tasks : List ProcessPtr}, i < n → n ≤ tasks.length →
      p ∈ (sortPass mem i tasks).take n → p ∈ tasks.take n := by
  intro i
  induction i with
  | zero => intro tasks _ _ hp; exact hp
  | succ i ih =>
    intro tasks hin hlen hp
    rw [sortPass] at hp
    split at hp
    · have hmem := ih (by omega) (by simp only [List.length_set]; exact hlen) hp
      refine mem_take_exchange hin ?_ ?_ hmem
      · rw [List.getD_eq_getElem?_getD, List.getElem?_eq_getElem (by omega), Option.getD_some]
      · rw [List.getD_eq_getElem?_getD, List.getElem?_eq_getElem (by omega), Option.getD_some]
    · exact ih (by omega) hlen hp

theorem refs_addTask {k : KernelState} (hi : SchedInv k) (h : RefsLive k) {p : ProcessPtr}
    (hp : p = null ∨ p ∈ k.live) (priority : UInt8) :
    SchedInv (schedulerAddTask k p priority).2 ∧ RefsLive (schedulerAddTask k p priority).2 := by
  unfold schedulerAddTask
  split
  · exact ⟨hi, h⟩
  · next hg =>
    simp only [not_or, Nat.not_le] at hg
    obtain ⟨-, hpn, hcount⟩ := hg
    have hplive := hp.resolve_left hpn
    have hcap := hi.capacity
    refine ⟨⟨hi.initialized, hi.liveNodup, ?_, hcount⟩, ?_, h.current, h.idle⟩
    · show (sortPass _ _ _).length = _
      rw [length_sortPass, List.length_set]
      exact hcap
    · intro q hq
      have hq' : q ∈ (k.sched.tasks.set k.sched.taskCount p).take (k.sched.taskCount + 1) :=
        mem_take_sortPass (Nat.lt_succ_self _) (by rw [List.length_set]; omega) hq
      rw [take_set (by omega), List.mem_append, List.mem_singleton] at hq'
      rcases hq' with hq' | rfl
      · exact h.tasks q hq'
      · exact hplive

theorem refs_removeTask {k : KernelState} (hi : SchedInv k) (h : RefsLive k) (p : ProcessPtr) :
    SchedInv (schedulerRemoveTask k p) ∧ RefsLive (schedulerRemoveTask k p) := by
  unfold schedulerRemoveTask
  split
  · exact ⟨hi, h⟩
  · split
    · exact ⟨hi, h⟩
    · next i hfind =>
      have hcap := hi.capacity
      have hbound := hi.bound
      have hlt : i < k.sched.taskCount := by
        have := (List.findIdx?_eq_some_iff_getElem.mp hfind).1
        rw [List.length_take] at this
        omega
      refine ⟨⟨hi.initialized, hi.liveNodup, ?_, ?_⟩, ?_, h.current, h.idle⟩
      · show (shiftDown _ _ _).length = _
        rw [length_shiftDown]
        exact hcap
      · show k.sched.taskCount - 1 ≤ _
        omega
      · intro q hq
        have hq' : q ∈ (k.sched.tasks.take k.sched.taskCount).eraseIdx i := by
          rw [← take_shiftDown hlt (by omega)]
          exact hq
        exact h.tasks q (List.mem_of_mem_eraseIdx hq')

/-! ### scheduler_switch_task and the timer -/

@[simp] theorem accountCurrent_frame (k : KernelState) :
    (accountCurrent k).pm = k.pm ∧ (accountCurrent k).sched = k.sched ∧
      (accountCurrent k).live = k.live ∧ (accountCurrent k).cpu = k.cpu := by
  unfold accountCurrent
  split <;> exact ⟨rfl, rfl, rfl, rfl⟩

/-- The next task is one of the table or the idle process. -/
theorem pickNext_mem (k : KernelState) :
    pickNext k ∈ usedTasks k ∨ pickNext k = k.sched.idleProcess := by
  unfold pickNext usedTasks
  cases hf : (k.sched.tasks.take k.sched.taskCount).find?
      (fun p => decide ((k.mem p).state = .ready)) with
  | none => exact Or.inr rfl
  | some p => exact Or.inl (List.mem_of_find?_eq_some hf)

theorem RefsLive.pickNext {k : KernelState} (h : RefsLive k) (hinit : k.sched.initialized = true) :
    pickNext k ∈ k.live := by
  rcases pickNext_mem k with hp | hp
  · exact h.tasks _ hp
  · rw [hp]
    exact h.idle hinit

theorem refs_switchTask {k : KernelState} (hi : SchedInv k) (h : RefsLive k) :
    SchedInv (schedulerSwitchTask k) ∧ RefsLive (schedulerSwitchTask k) := by
  unfold schedulerSwitchTask
  split
  · exact ⟨hi, h⟩
  · next hg =>
    simp only [not_or, Bool.not_eq_false] at hg
    obtain ⟨hpm, hsched, hlive, -⟩ := accountCurrent_frame k
    have hi' : SchedInv (accountCurrent k) := hi.congr (by rw [hpm]) hsched hlive
    have h' : RefsLive (accountCurrent k) := h.congr hsched hlive
    have hnext := h'.pickNext (by rw [hsched]; exact hg.1)
    have hi'' : SchedInv (startRunning (accountCurrent k) (pickNext (accountCurrent k))) :=
      ⟨hi'.initialized, hi'.liveNodup, hi'.capacity, hi'.bound⟩
    have h'' : RefsLive (startRunning (accountCurrent k) (pickNext (accountCurrent k))) :=
      ⟨h'.tasks, fun _ => hnext, h'.idle⟩
    obtain ⟨cur, hcur⟩ := processSwitch_pm
      (startRunning (accountCurrent k) (pickNext (accountCurrent k))) (pickNext (accountCurrent k))
    exact ⟨hi''.congr (by rw [hcur]) (processSwitch_sched _ _) (processSwitch_live _ _),
      h''.congr (processSwitch_sched _ _) (processSwitch_live _ _)⟩

theorem refs_timerHandler {k : KernelState} (hi : SchedInv k) (h : RefsLive k) :
    SchedInv (timerHandler k) ∧ RefsLive (timerHandler k) := by
  have hi' : SchedInv k.counted := hi.congr rfl rfl rfl
  have h' : RefsLive k.counted := h.congr rfl rfl
  rcases timerHandler_cases k with heq | heq | heq
  · rw [heq]
    exact ⟨hi.congr rfl rfl rfl, h.congr rfl rfl⟩
  · rw [heq]
    exact ⟨hi', h'⟩
  · rw [heq]
    exact refs_switchTask hi' h'

/-! ### process_destroy and the exit call -/

theorem removeProcess_sched (k : KernelState) (p : ProcessPtr) :
    (removeProcess k p).sched = k.sched := by
  unfold removeProcess
  split
  · rfl
  · exact shiftProcesses_sched k _ _

theorem processDestroy_sched (k : KernelState) (p : ProcessPtr) :
    (processDestroy k p).sched = k.sched := by
  unfold processDestroy
  split
  · rfl
  · simp only []
    split <;> exact removeProcess_sched k p

theorem destroyProcess_sched (k : KernelState) (p : ProcessPtr) :
    (destroyProcess k p).sched = k.sched := by
  rw [destroyProcess, KernelState.noteDestroyed_sched, processDestroy_sched]

/-- **The scheduler's references survive a destruction iff it does not refer to the process.** -/
theorem refs_destroy {k : KernelState} (hi : SchedInv k) (h : RefsLive k) {p : ProcessPtr}
    (hp : p ≠ null) :
    SchedInv (destroyProcess k p) ∧ (RefsLive (destroyProcess k p) ↔ Unreferenced k p) := by
  have hsched := destroyProcess_sched k p
  have hlive := destroyProcess_live k hp
  have hmem : ∀ q, q ∈ (destroyProcess k p).live ↔ q ≠ p ∧ q ∈ k.live := by
    intro q
    rw [hlive, hi.liveNodup.mem_erase_iff]
  refine ⟨⟨?_, ?_, hsched ▸ hi.capacity, hsched ▸ hi.bound⟩, ?_, ?_⟩
  · rw [destroyProcess_initialized]
    exact hi.initialized
  · rw [hlive]
    exact hi.liveNodup.erase p
  · -- a reference to `p` would be to a freed record
    intro h'
    refine ⟨?_, ?_, ?_⟩
    · intro hin
      exact ((hmem p).mp (h'.tasks p (by rw [usedTasks, hsched]; exact hin))).1 rfl
    · intro _ hcur
      have hin := h'.current (by rw [hsched, hcur]; exact hp)
      rw [hsched, hmem] at hin
      exact hin.1 hcur
    · intro hinit hidle
      have hin := h'.idle (by rw [hsched]; exact hinit)
      rw [hsched, hmem] at hin
      exact hin.1 hidle
  · intro hu
    refine ⟨?_, ?_, ?_⟩
    · intro q hq
      rw [usedTasks, hsched] at hq
      exact (hmem q).mpr ⟨fun he => hu.tasks (he ▸ hq), h.tasks q hq⟩
    · intro hcur
      rw [hsched] at hcur ⊢
      exact (hmem _).mpr ⟨hu.current hp, h.current hcur⟩
    · intro hinit
      rw [hsched] at hinit ⊢
      exact (hmem _).mpr ⟨hu.idle hinit, h.idle hinit⟩

/-! ## Runs -/

/-- **One call**: the scheduler's references are live afterwards iff the call spares them. -/
theorem refs_step {k k' : KernelState} {op : TaskOp} (hi : SchedInv k) (h : RefsLive k)
    (hs : taskStep k op = some k') :
    SchedInv k' ∧ (RefsLive k' ↔ DestroysUnreferenced k op) := by
  -- the calls that destroy nothing meet the condition trivially
  have hspare : destroyed k op = null → SchedInv k' ∧ RefsLive k' →
      SchedInv k' ∧ (RefsLive k' ↔ DestroysUnreferenced k op) := by
    rintro hd ⟨hi', h'⟩
    exact ⟨hi', fun _ hne => absurd hd hne, fun _ => h'⟩
  cases op with
  | create name entry block stack =>
    simp only [taskStep] at hs
    split at hs
    · cases hs
    · next hfresh => cases hs; exact hspare rfl (refs_create hi h name entry stack hfresh)
  | destroy p =>
    simp only [taskStep] at hs
    split at hs
    · cases hs
      by_cases hp : p = null
      · have hsame : processDestroy k p = k := if_pos (Or.inr hp)
        rw [destroyProcess, hsame, hp, KernelState.noteDestroyed_null]
        exact ⟨hi, fun _ hne => absurd rfl hne, fun _ => h⟩
      · obtain ⟨hi', hiff⟩ := refs_destroy hi h hp
        exact ⟨hi', hiff.trans ⟨fun hu _ => hu, fun hu => hu hp⟩⟩
    · cases hs
  | timerInit =>
    cases hs
    refine hspare rfl ?_
    unfold timerInit
    split
    · exact ⟨hi, h⟩
    · exact ⟨hi.congr rfl rfl rfl, h.congr rfl rfl⟩
  | schedulerInit entry block stack =>
    simp only [taskStep] at hs
    split at hs
    · cases hs
    · next hfresh => cases hs; exact hspare rfl (refs_schedulerInit hi h entry stack hfresh)
  | addTask p priority =>
    simp only [taskStep] at hs
    split at hs
    · next hp => cases hs; exact hspare rfl (refs_addTask hi h hp priority)
    · cases hs
  | removeTask p => cases hs; exact hspare rfl (refs_removeTask hi h p)
  | switchTask => cases hs; exact hspare rfl (refs_switchTask hi h)
  | tick => cases hs; exact hspare rfl (refs_timerHandler hi h)
  | exit args =>
    cases hs
    unfold sysExit DestroysUnreferenced destroyed
    by_cases hargs : args.length < 1
    · simp only [if_pos hargs, KernelState.noteDestroyed_null]
      exact ⟨hi, fun _ hne => absurd rfl hne, fun _ => h⟩
    · simp only [if_neg hargs]
      by_cases hcur : k.pm.currentProcess = null
      · simp only [if_pos hcur, hcur, KernelState.noteDestroyed_null]
        exact ⟨hi, fun _ hne => absurd rfl hne, fun _ => h⟩
      · simp only [if_neg hcur]
        obtain ⟨hi', hiff⟩ := refs_destroy hi h hcur
        exact ⟨hi', hiff.trans ⟨fun hu _ => hu, fun hu => hu hcur⟩⟩

theorem schedInv_boot : SchedInv (processInit KernelState.boot) where
  initialized := rfl
  liveNodup := List.nodup_nil
  capacity := List.length_replicate
  bound := Nat.zero_le _

theorem refsLive_boot : RefsLive (processInit KernelState.boot) where
  tasks := fun p hp => by cases hp
  current := fun hc => absurd rfl hc
  idle := fun hinit => by cases hinit

/--
**The scheduler refers to live processes only, throughout a run, iff nothing is destroyed that it
refers to.**

The run starts after `process_init` and is any sequence of creations, destructions, initialisations,
scheduler calls, timer ticks and exits.
-/
theorem refsLive_iff_unreferenced (ops : List TaskOp) :
    Always taskStep RefsLive (processInit KernelState.boot) ops ↔
      Along taskStep (fun k op _ => DestroysUnreferenced k op) (processInit KernelState.boot) ops := by
  refine always_iff_along (I := fun k => SchedInv k ∧ RefsLive k) ?_ ?_
    ⟨schedInv_boot, refsLive_boot⟩ refsLive_boot
  · intro k op k' hk hstep
    exact (refs_step hk.1 hk.2 hstep).2
  · intro k op k' hk hstep hq
    obtain ⟨hi, hiff⟩ := refs_step hk.1 hk.2 hstep
    exact ⟨hi, hiff.mpr hq⟩

/-- A process is created, queued, switched to, and exits. -/
def exitRun : List TaskOp :=
  [.schedulerInit 0x1000 0xD0000010 0xD0001000,
   .create (some [0x61]) 0x2000 0xD0000200 0xD0006000,
   .addTask 0xD0000200 5,
   .switchTask,
   .exit [0]]

/-- **A process that exits stays in the task table.** -/
theorem exit_leaves_reference :
    ∃ k, run taskStep (processInit KernelState.boot) exitRun = some k ∧
      usedTasks k = [0xD0000200] ∧ k.sched.currentProcess = 0xD0000200 ∧
      0xD0000200 ∉ k.live ∧ ¬ RefsLive k := by
  refine ⟨_, rfl, by decide +kernel, by decide +kernel, by decide +kernel, fun h => ?_⟩
  exact absurd (h.tasks 0xD0000200 (by decide +kernel)) (by decide +kernel)

end MayaOs.Kernel
