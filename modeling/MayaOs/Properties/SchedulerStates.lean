import Mathlib.Data.List.Find
import MayaOs.Properties.TaskQueue

/-!
# Process states across a switch

`scheduler_switch_task` makes the outgoing process ready before it looks for the next one, whatever
state that process has put itself into.

* `switchOutcome_iff` — a switch keeps blocked and terminated processes where they are, and leaves
  exactly the current process running, iff neither the outgoing process nor an idle process that
  has to stand in is blocked or terminated, and no queued idle process comes first
* `switchReady_reachable` — what it assumes of the state holds whenever a task is queued
* `blocked_task_resumed` — a task that blocks itself runs again after the next switch
-/

namespace MayaOs.Kernel

open MayaOs.Lib

/-! ## The property -/

/-- The queued tasks and the idle process. -/
def candidates (k : KernelState) : List ProcessPtr := usedTasks k ++ [k.sched.idleProcess]

/-- Blocked or terminated. -/
def Stopped (k : KernelState) (p : ProcessPtr) : Prop :=
  (k.mem p).state = .blocked ∨ (k.mem p).state = .terminated

instance (k : KernelState) (p : ProcessPtr) : Decidable (Stopped k p) :=
  inferInstanceAs (Decidable (_ ∨ _))

/-- A task is queued, and none but the current process is running. -/
structure SwitchReady (k : KernelState) : Prop where
  queued : k.sched.taskCount ≠ 0
  initialized : k.sched.initialized = true
  nonnull : null ∉ candidates k
  running : ∀ p ∈ candidates k, (k.mem p).state = .running → p = k.sched.currentProcess

/-- What a switch from `k` to `k'` should do to the states. -/
structure SwitchOutcome (k k' : KernelState) : Prop where
  chosen : k'.sched.currentProcess ∈ candidates k'
  running : ∀ p ∈ candidates k', (k'.mem p).state = .running ↔ p = k'.sched.currentProcess
  stopped : ∀ p, Stopped k p → (k'.mem p).state = (k.mem p).state
  idle : k'.sched.currentProcess = k'.sched.idleProcess →
    ∀ p ∈ usedTasks k, (k.mem p).state ≠ .ready ∧ (k.mem p).state ≠ .running

/-- The first queued task that is neither blocked nor terminated. -/
def firstRunnable (k : KernelState) : Option ProcessPtr :=
  (usedTasks k).find? fun p => ¬ Stopped k p

/--
The outgoing process is not stopped, nor is the idle process if it has to stand in; and the idle
process, should it be queued, is not the first task that can run.
-/
structure SwitchSafe (k : KernelState) : Prop where
  current : k.sched.currentProcess ≠ null → ¬ Stopped k k.sched.currentProcess
  idle : firstRunnable k = none → ¬ Stopped k k.sched.idleProcess
  queuedIdle : firstRunnable k ≠ some k.sched.idleProcess

/-! ## One switch -/

theorem not_stopped_iff {k : KernelState} {p : ProcessPtr} :
    ¬ Stopped k p ↔ (k.mem p).state = .ready ∨ (k.mem p).state = .running := by
  unfold Stopped
  cases (k.mem p).state <;> simp

section Switch

variable {k : KernelState}

theorem SwitchReady.on (h : SwitchReady k) :
    ¬ (k.sched.initialized = false ∨ k.sched.taskCount = 0) := by
  simp [h.initialized, h.queued]

theorem switchTask_state_next (h : SwitchReady k) :
    ((schedulerSwitchTask k).mem (pickNext (accountCurrent k))).state = .running := by
  obtain ⟨esp, ebp, hrec⟩ := switchTask_record h.on (pickNext (accountCurrent k))
  rw [hrec, startRunning_mem, KernelState.modify_mem_self]

theorem candidates_switchTask (h : SwitchReady k) :
    candidates (schedulerSwitchTask k) = candidates k := by
  unfold candidates
  rw [usedTasks_switchTask, switchTask_sched h.on]

theorem pickNext_mem_candidates (k : KernelState) : pickNext (accountCurrent k) ∈ candidates k := by
  have hsched := (accountCurrent_frame k).2.1
  have hmem := pickNext_mem (accountCurrent k)
  unfold usedTasks at hmem
  rw [hsched] at hmem
  simpa [candidates, usedTasks] using hmem

/-- After the outgoing process has been made ready, ready means not stopped. -/
theorem accountCurrent_ready_iff (h : SwitchReady k)
    (hcur : k.sched.currentProcess ≠ null → ¬ Stopped k k.sched.currentProcess) {p : ProcessPtr}
    (hp : p ∈ candidates k) : ((accountCurrent k).mem p).state = .ready ↔ ¬ Stopped k p := by
  rw [not_stopped_iff]
  rcases eq_or_ne p k.sched.currentProcess with rfl | hne
  · have hnn : k.sched.currentProcess ≠ null := fun he => h.nonnull (he ▸ hp)
    rw [accountCurrent_state_self hnn]
    exact ⟨fun _ => not_stopped_iff.mp (hcur hnn), fun _ => rfl⟩
  · rw [accountCurrent_state_of_ne hne]
    exact ⟨Or.inl, fun hs => hs.resolve_right fun hr => hne (h.running p hp hr)⟩

/-- Whom the switch selects, if the outgoing process was not stopped. -/
theorem pickNext_eq_firstRunnable (h : SwitchReady k)
    (hcur : k.sched.currentProcess ≠ null → ¬ Stopped k k.sched.currentProcess) :
    pickNext (accountCurrent k) = (firstRunnable k).getD k.sched.idleProcess := by
  rw [pickNext_accountCurrent, firstRunnable]
  congr 1
  refine List.find?_congr fun p hp => ?_
  have hiff := accountCurrent_ready_iff h hcur (List.mem_append_left _ hp)
  exact decide_eq_decide.mpr hiff

/-- Only the selected process is running afterwards, in any case. -/
theorem switchTask_running_iff (h : SwitchReady k) {p : ProcessPtr} (hp : p ∈ candidates k) :
    ((schedulerSwitchTask k).mem p).state = .running ↔ p = pickNext (accountCurrent k) := by
  constructor
  · intro hrun
    by_contra hne
    rw [switchTask_state h.on hne] at hrun
    rcases eq_or_ne p k.sched.currentProcess with rfl | hcur
    · rw [accountCurrent_state_self fun he => h.nonnull (he ▸ hp)] at hrun
      simp at hrun
    · rw [accountCurrent_state_of_ne hcur] at hrun
      exact hcur (h.running p hp hrun)
  · rintro rfl
    exact switchTask_state_next h

/-- A stopped process that is neither outgoing nor selected stays as it is. -/
theorem switchTask_state_of_ne (h : SwitchReady k) {p : ProcessPtr}
    (hcur : p ≠ k.sched.currentProcess) (hnext : p ≠ pickNext (accountCurrent k)) :
    ((schedulerSwitchTask k).mem p).state = (k.mem p).state := by
  rw [switchTask_state h.on hnext, accountCurrent_state_of_ne hcur]

/-- The outgoing process is ready or running afterwards. -/
theorem switchTask_not_stopped_current (h : SwitchReady k)
    (hcur : k.sched.currentProcess ≠ null) :
    ¬ Stopped (schedulerSwitchTask k) k.sched.currentProcess := by
  rw [not_stopped_iff]
  rcases eq_or_ne k.sched.currentProcess (pickNext (accountCurrent k)) with he | hne
  · right
    rw [he]
    exact switchTask_state_next h
  · left
    rw [switchTask_state h.on hne]
    exact accountCurrent_state_self hcur

theorem SwitchSafe.outcome (h : SwitchReady k) (hs : SwitchSafe k) :
    SwitchOutcome k (schedulerSwitchTask k) := by
  have hnext := pickNext_eq_firstRunnable h hs.current
  have hcurrent : (schedulerSwitchTask k).sched.currentProcess = pickNext (accountCurrent k) := by
    rw [switchTask_sched h.on]
  have hidle : (schedulerSwitchTask k).sched.idleProcess = k.sched.idleProcess := by
    rw [switchTask_sched h.on]
  refine ⟨?_, ?_, ?_, ?_⟩
  · rw [hcurrent, candidates_switchTask h]
    exact pickNext_mem_candidates k
  · intro p hp
    rw [candidates_switchTask h] at hp
    rw [hcurrent]
    exact switchTask_running_iff h hp
  · intro p hstop
    have hne : p ≠ pickNext (accountCurrent k) := by
      rintro rfl
      rw [hnext] at hstop
      cases hfirst : firstRunnable k with
      | none =>
        rw [hfirst] at hstop
        exact hs.idle hfirst hstop
      | some q =>
        rw [hfirst] at hstop
        have hq := List.find?_some hfirst
        simp at hq
        exact hq hstop
    rcases eq_or_ne p k.sched.currentProcess with rfl | hcur
    · by_cases hnull : k.sched.currentProcess = null
      · rw [switchTask_state h.on hne, accountCurrent, if_pos hnull]
      · exact absurd hstop (hs.current hnull)
    · exact switchTask_state_of_ne h hcur hne
  · intro he p hp
    rw [hcurrent, hidle, hnext] at he
    cases hfirst : firstRunnable k with
    | none =>
      have hstop : Stopped k p := by simpa using List.find?_eq_none.mp hfirst p hp
      rcases hstop with hstop | hstop <;> simp [hstop]
    | some q =>
      rw [hfirst, Option.getD_some] at he
      exact absurd (he ▸ hfirst) hs.queuedIdle

theorem SwitchOutcome.safe (h : SwitchReady k) (ho : SwitchOutcome k (schedulerSwitchTask k)) :
    SwitchSafe k := by
  have hcurrent : (schedulerSwitchTask k).sched.currentProcess = pickNext (accountCurrent k) := by
    rw [switchTask_sched h.on]
  have hidle : (schedulerSwitchTask k).sched.idleProcess = k.sched.idleProcess := by
    rw [switchTask_sched h.on]
  have hsafe : k.sched.currentProcess ≠ null → ¬ Stopped k k.sched.currentProcess := by
    intro hcur hstop
    refine switchTask_not_stopped_current h hcur ?_
    unfold Stopped
    rw [ho.stopped _ hstop]
    exact hstop
  have hnext := pickNext_eq_firstRunnable h hsafe
  refine ⟨hsafe, ?_, ?_⟩
  · intro hfirst hstop
    rw [hfirst, Option.getD_none] at hnext
    have hrun := switchTask_state_next h
    rw [hnext, ho.stopped _ hstop] at hrun
    rcases hstop with hstop | hstop <;> simp [hstop] at hrun
  · intro hfirst
    rw [hfirst, Option.getD_some] at hnext
    have hstop := ho.idle (by rw [hcurrent, hidle, hnext]) _ (List.mem_of_find?_eq_some hfirst)
    have hrunnable := List.find?_some hfirst
    simp only [decide_eq_true_eq, not_stopped_iff] at hrunnable
    rcases hrunnable with hrunnable | hrunnable
    · exact hstop.1 hrunnable
    · exact hstop.2 hrunnable

/--
**A switch does to the states what it should iff nobody it touches is stopped** and no queued idle
process comes first.
-/
theorem switchOutcome_iff (h : SwitchReady k) :
    SwitchOutcome k (schedulerSwitchTask k) ↔ SwitchSafe k :=
  ⟨fun ho => ho.safe h, fun hs => hs.outcome h⟩

end Switch

theorem switchReady_twoTasks : SwitchReady twoTasks where
  queued := by decide
  initialized := by decide
  nonnull := by decide
  running := by decide

theorem switchOutcome_twoTasks :
    SwitchOutcome twoTasks (schedulerSwitchTask twoTasks) ↔ SwitchSafe twoTasks :=
  switchOutcome_iff switchReady_twoTasks

/-- The first of the two tasks has been selected and has blocked itself. -/
def selfBlocked : KernelState :=
  (schedulerSwitchTask twoTasks).modify 0xD0004110 fun r => { r with state := .blocked }

/-- **The next switch runs a task that has blocked itself.** -/
theorem blocked_task_resumed : SwitchReady selfBlocked ∧
    Stopped selfBlocked 0xD0004110 ∧
    (schedulerSwitchTask selfBlocked).sched.currentProcess = 0xD0004110 ∧
    ¬ SwitchOutcome selfBlocked (schedulerSwitchTask selfBlocked) := by
  refine ⟨⟨by decide, by decide, by decide, by decide⟩, by decide, by decide, fun ho => ?_⟩
  exact absurd (ho.stopped 0xD0004110 (by decide)) (by decide)

/-! ## States with a queued task -/

/-- What every scheduler call keeps of the table and of the idle process. -/
structure QueueSane (k : KernelState) : Prop where
  capacity : k.sched.tasks.length = maxTasks
  bound : k.sched.taskCount ≤ maxTasks
  on : k.sched.taskCount ≠ 0 → k.sched.initialized = true
  idle : k.sched.initialized = true → k.sched.idleProcess ≠ null
  nonnull : null ∉ usedTasks k

theorem QueueSane.congr {k k' : KernelState} (h : QueueSane k)
    (htasks : k'.sched.tasks = k.sched.tasks) (hcount : k'.sched.taskCount = k.sched.taskCount)
    (hon : k'.sched.initialized = k.sched.initialized)
    (hidle : k'.sched.idleProcess = k.sched.idleProcess) : QueueSane k' where
  capacity := by rw [htasks]; exact h.capacity
  bound := by rw [hcount]; exact h.bound
  on := by rw [hcount, hon]; exact h.on
  idle := by rw [hon, hidle]; exact h.idle
  nonnull := by unfold usedTasks; rw [htasks, hcount]; exact h.nonnull

theorem QueueSane.of_sched {k k' : KernelState} (h : QueueSane k) (hs : k'.sched = k.sched) :
    QueueSane k' := h.congr (by rw [hs]) (by rw [hs]) (by rw [hs]) (by rw [hs])

/-- The static variables as they are before `scheduler_init`. -/
theorem queueSane_zero {k : KernelState} (h : k.sched = SchedulerState.zero) : QueueSane k := by
  refine ⟨?_, ?_, ?_, ?_, ?_⟩
  · rw [h]; exact List.length_replicate
  · rw [h]; exact Nat.zero_le _
  · rw [h]; exact fun hc => absurd rfl hc
  · rw [h]; simp [SchedulerState.zero]
  · unfold usedTasks; rw [h]; exact List.not_mem_nil

theorem QueueSane.initScheduler {k : KernelState} (h : QueueSane k) (entry : UInt32)
    {block : ProcessPtr} (stack : UInt32) : QueueSane (initScheduler k entry block stack) := by
  have hzero : QueueSane (createProcess { k with sched := SchedulerState.zero } (some idleName)
      entry block stack) := (queueSane_zero rfl).of_sched (createProcess_frame ..).1
  rcases initScheduler_cases k entry block stack with heq | heq | ⟨hblock, -, heq⟩
  · rw [heq]
    exact h
  · rw [heq]
    exact hzero
  · rw [heq]
    obtain ⟨-, hsched, -⟩ := startIdle_frame
      (createProcess { k with sched := SchedulerState.zero } (some idleName) entry block stack) block
    refine ⟨?_, ?_, ?_, ?_, ?_⟩
    · rw [hsched]; exact hzero.capacity
    · rw [hsched]; exact hzero.bound
    · rw [hsched]; exact fun _ => rfl
    · rw [hsched]; exact fun _ => hblock
    · unfold usedTasks; rw [hsched]; exact hzero.nonnull

theorem QueueSane.add {k : KernelState} (h : QueueSane k) (p : ProcessPtr) (priority : UInt8) :
    QueueSane (schedulerAddTask k p priority).2 := by
  by_cases hgo : k.sched.initialized = false ∨ p = null ∨ maxTasks ≤ k.sched.taskCount
  · rw [addTask_refused priority hgo]
    exact h
  · obtain ⟨-, -, hsched⟩ := addTask_eq priority hgo
    have hin := fun q => mem_usedTasks_add (q := q) priority h.capacity hgo
    simp only [not_or, Nat.not_le, Bool.not_eq_false] at hgo
    obtain ⟨hon, hp, hlt⟩ := hgo
    refine ⟨addTask_capacity priority h.capacity, ?_, ?_, ?_, ?_⟩
    · rw [hsched]
      exact hlt
    · rw [hsched]
      exact fun _ => hon
    · rw [hsched]
      exact h.idle
    · intro hnull
      rcases hin null hnull with hold | hnew
      · exact h.nonnull hold
      · exact hp hnew.symm

theorem QueueSane.remove {k : KernelState} (h : QueueSane k) (p : ProcessPtr) :
    QueueSane (schedulerRemoveTask k p) := by
  by_cases hgo : k.sched.initialized = false ∨ p = null
  · have hsame : schedulerRemoveTask k p = k := if_pos hgo
    rw [hsame]
    exact h
  · simp only [not_or, Bool.not_eq_false] at hgo
    obtain ⟨hused, -, hcap, hcount⟩ := usedTasks_remove h.capacity h.bound hgo.1 hgo.2
    obtain ⟨hon, hidle⟩ : (schedulerRemoveTask k p).sched.initialized = true ∧
        (schedulerRemoveTask k p).sched.idleProcess = k.sched.idleProcess := by
      unfold schedulerRemoveTask
      rw [if_neg (by simp [hgo])]
      split
      · exact ⟨hgo.1, rfl⟩
      · exact ⟨hgo.1, rfl⟩
    refine ⟨hcap, ?_, fun _ => hon, fun _ => by rw [hidle]; exact h.idle hgo.1, ?_⟩
    · have hle := (List.erase_sublist : List.Sublist ((usedTasks k).erase p) _).length_le
      have htake : (usedTasks k).length ≤ k.sched.taskCount := List.length_take_le ..
      have hbound := h.bound
      omega
    · rw [hused]
      exact fun hin => h.nonnull (List.mem_of_mem_erase hin)

theorem QueueSane.switchTask {k : KernelState} (h : QueueSane k) :
    QueueSane (schedulerSwitchTask k) := by
  by_cases hoff : k.sched.initialized = false ∨ k.sched.taskCount = 0
  · rw [switchTask_off hoff]
    exact h
  · have hsched := switchTask_sched hoff
    exact h.congr (by rw [hsched]) (by rw [hsched]) (by rw [hsched]) (by rw [hsched])

theorem QueueSane.tick {k : KernelState} (h : QueueSane k) : QueueSane (timerHandler k) := by
  have hcounted : QueueSane k.counted := h.of_sched rfl
  rcases timerHandler_cases k with heq | heq | heq
  · rw [heq]
    exact h.of_sched rfl
  · rw [heq]
    exact hcounted
  · rw [heq]
    exact hcounted.switchTask

/-- **Every call keeps the queue sane.** -/
theorem queueSane_step {k k' : KernelState} {op : TaskOp} (h : QueueSane k)
    (hs : taskStep k op = some k') : QueueSane k' := by
  cases op with
  | create name entry block stack =>
    simp only [taskStep] at hs
    split at hs
    · cases hs
    · cases hs; exact h.of_sched (createProcess_frame k name entry block stack).1
  | destroy p =>
    simp only [taskStep] at hs
    split at hs
    · cases hs; exact h.of_sched (destroyProcess_sched k p)
    · cases hs
  | timerInit =>
    cases hs
    unfold timerInit
    split
    · exact h
    · exact h.of_sched rfl
  | schedulerInit entry block stack =>
    simp only [taskStep] at hs
    split at hs
    · cases hs
    · cases hs; exact h.initScheduler entry stack
  | addTask p priority =>
    simp only [taskStep] at hs
    split at hs
    · cases hs; exact h.add p priority
    · cases hs
  | removeTask p => cases hs; exact h.remove p
  | switchTask => cases hs; exact h.switchTask
  | tick => cases hs; exact h.tick
  | exit args =>
    cases hs
    refine h.of_sched ?_
    rw [KernelState.noteDestroyed_sched]
    unfold sysExit
    split
    · rfl
    · split
      · rfl
      · exact processDestroy_sched k _

/--
**In a state that calls lead to, a queued task is all that `switchOutcome_iff` needs** besides that
nobody but the current process is running.
-/
theorem switchReady_reachable {ops : List TaskOp} {k : KernelState}
    (hrun : run taskStep (processInit KernelState.boot) ops = some k)
    (hqueued : k.sched.taskCount ≠ 0)
    (hrunning : ∀ p ∈ candidates k, (k.mem p).state = .running → p = k.sched.currentProcess) :
    SwitchReady k := by
  have h : QueueSane k := invariant_run (fun _ _ _ => queueSane_step) (queueSane_zero rfl) hrun
  refine ⟨hqueued, h.on hqueued, ?_, hrunning⟩
  rw [candidates, List.mem_append, List.mem_singleton]
  rintro (hin | hidle)
  · exact h.nonnull hin
  · exact h.idle (h.on hqueued) hidle.symm

end MayaOs.Kernel
