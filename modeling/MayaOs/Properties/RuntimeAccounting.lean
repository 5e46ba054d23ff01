import Mathlib.Algebra.BigOperators.Group.Finset.Basic
import Mathlib.Data.UInt
import MayaOs.Properties.SchedulerStates

/-!
# The CPU time on the books

A switch charges the outgoing process for the ticks since its `last_run` and stamps the incoming one.
The tick counter and the running times are 32-bit numbers that wrap.

* `runtime_accounted` — after each switch the running times add up to the ticks since the first one
* `allQueued_schedulerInit`, `AllQueued.add` — where such runs start
-/

namespace MayaOs.Kernel

open MayaOs.Lib

/-! ## The property -/

inductive ClockOp where
  | tick
  | switchTask
  | removeTask (process : ProcessPtr)

/-- A scheduler and the counter at its first switch that selected a process. -/
structure Clocked where
  kernel : KernelState
  first : Option UInt32

def clockCall (k : KernelState) : ClockOp → KernelState
  | .tick => timerHandler k
  | .switchTask => schedulerSwitchTask k
  | .removeTask p => schedulerRemoveTask k p

/-- The state in which a call enters `scheduler_switch_task`, if it does. -/
def entersSwitch (k : KernelState) : ClockOp → Option KernelState
  | .tick =>
    if k.timer.callback = true ∧ k.sched.initialized = true ∧ k.sched.currentProcess ≠ null ∧
        (k.counted.mem k.sched.currentProcess).quantumRemaining = 0 then some k.counted
    else none
  | .switchTask => some k
  | .removeTask _ => none

/-- `scheduler_switch_task` is entered and selects a process. -/
def selected (k : KernelState) (op : ClockOp) : Bool :=
  (entersSwitch k op).any fun k₁ => k₁.sched.initialized && decide (k₁.sched.taskCount ≠ 0)

/-- The counter at the first switch is kept. -/
def Clocked.next (c : Clocked) (op : ClockOp) : Clocked where
  kernel := clockCall c.kernel op
  first :=
    if selected c.kernel op then some (c.first.getD (clockCall c.kernel op).timer.ticks) else c.first

def clockStep (c : Clocked) (op : ClockOp) : Option Clocked := some (c.next op)

/-- The running times of the processes in `s`, added modulo 2^32. -/
def runtimeSum (k : KernelState) (s : Finset ProcessPtr) : UInt32 :=
  ∑ p ∈ s, (k.mem p).totalRuntime

/-- All tasks are queued and none has run yet. -/
structure AllQueued (k : KernelState) : Prop where
  capacity : k.sched.tasks.length = maxTasks
  bound : k.sched.taskCount ≤ maxTasks
  current : k.sched.currentProcess = null
  nonnull : null ∉ candidates k
  runtime : ∀ p ∈ candidates k, (k.mem p).totalRuntime = 0

/-- A transition that selects a process leaves the books of `s` balanced. -/
def OnTheBooks (s : Finset ProcessPtr) (c : Clocked) (op : ClockOp) (c' : Clocked) : Prop :=
  selected c.kernel op = true →
    ∃ t, c'.first = some t ∧ runtimeSum c'.kernel s = c'.kernel.timer.ticks - t

/-! ## Updates of one record -/

/-- Charging one process of `s`. -/
theorem runtimeSum_modify {k : KernelState} {s : Finset ProcessPtr} {p : ProcessPtr} (hp : p ∈ s)
    {f : Process → Process} {d : UInt32}
    (hf : (f (k.mem p)).totalRuntime = (k.mem p).totalRuntime + d) :
    runtimeSum (k.modify p f) s = runtimeSum k s + d := by
  have hrest : ∀ q ∈ s.erase p, ((k.modify p f).mem q).totalRuntime = (k.mem q).totalRuntime := by
    intro q hq
    rw [KernelState.modify_mem_ne _ _ _ (Finset.ne_of_mem_erase hq)]
  unfold runtimeSum
  rw [← Finset.add_sum_erase s _ hp, ← Finset.add_sum_erase s _ hp, Finset.sum_congr rfl hrest,
    KernelState.modify_mem_self, hf]
  exact add_right_comm ..

/-- Only the running times of the members matter. -/
theorem runtimeSum_congr {k k' : KernelState} {s : Finset ProcessPtr}
    (h : ∀ p ∈ s, (k'.mem p).totalRuntime = (k.mem p).totalRuntime) :
    runtimeSum k' s = runtimeSum k s := Finset.sum_congr rfl h

theorem modify_totalRuntime (k : KernelState) (p q : ProcessPtr) {f : Process → Process}
    (hf : ∀ r, (f r).totalRuntime = r.totalRuntime) :
    ((k.modify p f).mem q).totalRuntime = (k.mem q).totalRuntime := by
  rcases eq_or_ne q p with rfl | hne
  · rw [KernelState.modify_mem_self, hf]
  · rw [KernelState.modify_mem_ne _ _ _ hne]

/-! ## One switch -/

section Switch

variable {k : KernelState}

theorem accountCurrent_timer (k : KernelState) : (accountCurrent k).timer = k.timer := by
  unfold accountCurrent
  split <;> rfl

theorem processSwitch_timer (k : KernelState) (p : ProcessPtr) :
    (processSwitch k p).timer = k.timer := by
  unfold processSwitch
  split
  · rfl
  · show (saveContext k).timer = _
    unfold saveContext
    split <;> rfl

theorem switchTask_timer (k : KernelState) : (schedulerSwitchTask k).timer = k.timer := by
  unfold schedulerSwitchTask
  split
  · rfl
  · rw [processSwitch_timer]
    exact accountCurrent_timer k

/-- The incoming process is stamped. -/
theorem switchTask_lastRun (h : ¬ (k.sched.initialized = false ∨ k.sched.taskCount = 0)) :
    ((schedulerSwitchTask k).mem (pickNext (accountCurrent k))).lastRun = k.timer.ticks := by
  obtain ⟨esp, ebp, hrec⟩ := switchTask_record h (pickNext (accountCurrent k))
  rw [hrec, startRunning_mem, KernelState.modify_mem_self]
  exact congrArg TimerState.ticks (accountCurrent_timer k)

/-- Running times change in the first part of a switch only. -/
theorem switchTask_totalRuntime (h : ¬ (k.sched.initialized = false ∨ k.sched.taskCount = 0))
    (p : ProcessPtr) :
    ((schedulerSwitchTask k).mem p).totalRuntime = ((accountCurrent k).mem p).totalRuntime := by
  obtain ⟨esp, ebp, hrec⟩ := switchTask_record h p
  rw [hrec, startRunning_mem]
  exact modify_totalRuntime _ _ p fun _ => rfl

/-- What a switch adds to the books. -/
theorem runtimeSum_switchTask (h : ¬ (k.sched.initialized = false ∨ k.sched.taskCount = 0))
    {s : Finset ProcessPtr} (hcur : k.sched.currentProcess ≠ null → k.sched.currentProcess ∈ s) :
    runtimeSum (schedulerSwitchTask k) s = runtimeSum k s +
      if k.sched.currentProcess = null then 0
      else k.timer.ticks - (k.mem k.sched.currentProcess).lastRun := by
  rw [runtimeSum_congr fun p _ => switchTask_totalRuntime h p]
  unfold accountCurrent
  by_cases hnull : k.sched.currentProcess = null
  · rw [if_pos hnull, if_pos hnull, add_zero]
  · rw [if_neg hnull, if_neg hnull]
    exact runtimeSum_modify (hcur hnull) rfl

end Switch

/-! ## The invariant -/

/-- Up to `last_run` of the current process everything since the first switch has been charged. -/
structure BooksKept (s : Finset ProcessPtr) (c : Clocked) : Prop where
  capacity : c.kernel.sched.tasks.length = maxTasks
  bound : c.kernel.sched.taskCount ≤ maxTasks
  members : ∀ p ∈ candidates c.kernel, p ∈ s
  nonnull : null ∉ s
  before : c.first = none → c.kernel.sched.currentProcess = null ∧ runtimeSum c.kernel s = 0
  after : ∀ t, c.first = some t → c.kernel.sched.currentProcess ∈ s ∧
    runtimeSum c.kernel s = (c.kernel.mem c.kernel.sched.currentProcess).lastRun - t

/-- Nothing on the books differs. -/
structure SameBooks (k k' : KernelState) : Prop where
  sched : k'.sched = k.sched
  runtime : ∀ p, (k'.mem p).totalRuntime = (k.mem p).totalRuntime
  lastRun : ∀ p, (k'.mem p).lastRun = (k.mem p).lastRun

theorem SameBooks.refl (k : KernelState) : SameBooks k k := ⟨rfl, fun _ => rfl, fun _ => rfl⟩

theorem sameBooks_modify (k : KernelState) (p : ProcessPtr) {f : Process → Process}
    (hr : ∀ r, (f r).totalRuntime = r.totalRuntime) (hl : ∀ r, (f r).lastRun = r.lastRun) :
    SameBooks k (k.modify p f) := by
  refine ⟨rfl, fun q => modify_totalRuntime k p q hr, fun q => ?_⟩
  rcases eq_or_ne q p with he | hne
  · rw [he, KernelState.modify_mem_self, hl]
  · rw [KernelState.modify_mem_ne _ _ _ hne]

theorem SameBooks.trans {k k' k'' : KernelState} (h : SameBooks k k') (h' : SameBooks k' k'') :
    SameBooks k k'' :=
  ⟨h'.sched.trans h.sched, fun p => (h'.runtime p).trans (h.runtime p),
    fun p => (h'.lastRun p).trans (h.lastRun p)⟩

theorem SameBooks.candidates {k k' : KernelState} (h : SameBooks k k') :
    candidates k' = candidates k := by
  unfold Kernel.candidates usedTasks
  rw [h.sched]

theorem BooksKept.congr {s : Finset ProcessPtr} {k k' : KernelState} {first : Option UInt32}
    (h : BooksKept s ⟨k, first⟩) (hk : SameBooks k k') : BooksKept s ⟨k', first⟩ where
  capacity := by rw [hk.sched]; exact h.capacity
  bound := by rw [hk.sched]; exact h.bound
  members := by
    intro p hp
    exact h.members p (hk.candidates ▸ hp)
  nonnull := h.nonnull
  before := by
    intro hnone
    have hsum := runtimeSum_congr (s := s) fun p _ => hk.runtime p
    rw [hsum, hk.sched]
    exact h.before hnone
  after := by
    intro t ht
    have hsum := runtimeSum_congr (s := s) fun p _ => hk.runtime p
    rw [hsum, hk.lastRun, hk.sched]
    exact h.after t ht

/-- **A switch charges exactly the ticks that were open.** -/
theorem BooksKept.switchTask {s : Finset ProcessPtr} {k : KernelState} {first : Option UInt32}
    (h : BooksKept s ⟨k, first⟩)
    (hon : ¬ (k.sched.initialized = false ∨ k.sched.taskCount = 0)) :
    runtimeSum (schedulerSwitchTask k) s = k.timer.ticks - first.getD k.timer.ticks ∧
      BooksKept s ⟨schedulerSwitchTask k, some (first.getD k.timer.ticks)⟩ := by
  have hmem : ∀ p ∈ candidates k, p ∈ s := h.members
  have hsum : runtimeSum (schedulerSwitchTask k) s =
      k.timer.ticks - first.getD k.timer.ticks := by
    cases first with
    | none =>
      obtain ⟨hnull, hzero⟩ := h.before rfl
      have hcur : k.sched.currentProcess = null := hnull
      rw [runtimeSum_switchTask hon fun hne => absurd hcur hne, if_pos hcur]
      simpa using hzero
    | some t =>
      obtain ⟨hin, hopen⟩ := h.after t rfl
      have hcur : k.sched.currentProcess ≠ null := fun he => h.nonnull (he ▸ hin)
      rw [runtimeSum_switchTask hon fun _ => hin, if_neg hcur]
      -- the interval up to `last_run` and the one from there on make one
      calc runtimeSum k s + (k.timer.ticks - (k.mem k.sched.currentProcess).lastRun)
          = (k.mem k.sched.currentProcess).lastRun - t +
              (k.timer.ticks - (k.mem k.sched.currentProcess).lastRun) := by rw [hopen]
        _ = k.timer.ticks - t := sub_add_sub_cancel' ..
  have hsched := switchTask_sched hon
  refine ⟨hsum, by rw [hsched]; exact h.capacity, by rw [hsched]; exact h.bound, ?_, h.nonnull,
    fun hnone => by simp at hnone, ?_⟩
  · intro p hp
    refine hmem p ?_
    unfold candidates at hp ⊢
    rw [usedTasks_switchTask, switchTask_sched hon] at hp
    exact hp
  · intro t ht
    cases ht
    have hcur : (schedulerSwitchTask k).sched.currentProcess = pickNext (accountCurrent k) := by
      rw [switchTask_sched hon]
    refine ⟨?_, ?_⟩
    · show (schedulerSwitchTask k).sched.currentProcess ∈ s
      rw [hcur]
      exact hmem _ (pickNext_mem_candidates k)
    · show runtimeSum (schedulerSwitchTask k) s =
        ((schedulerSwitchTask k).mem (schedulerSwitchTask k).sched.currentProcess).lastRun - _
      rw [hcur, switchTask_lastRun hon, hsum]

/-- A call that selects nobody. -/
theorem Clocked.next_of_not {c : Clocked} {op : ClockOp} (h : selected c.kernel op = false) :
    c.next op = ⟨clockCall c.kernel op, c.first⟩ := by
  rw [next, h]
  rfl

/-- It leaves nothing to be shown if it does nothing to the books. -/
theorem BooksKept.stay {s : Finset ProcessPtr} {c : Clocked} (h : BooksKept s c) {op : ClockOp}
    (hnot : selected c.kernel op = false) (hsame : SameBooks c.kernel (clockCall c.kernel op)) :
    OnTheBooks s c op (c.next op) ∧ BooksKept s (c.next op) := by
  rw [Clocked.next_of_not hnot]
  refine ⟨fun hsel => ?_, h.congr hsame⟩
  rw [hnot] at hsel
  cases hsel

/-- A call that enters `scheduler_switch_task`. -/
theorem BooksKept.enter {s : Finset ProcessPtr} {c : Clocked} (h : BooksKept s c) {op : ClockOp}
    {k₁ : KernelState} (henters : entersSwitch c.kernel op = some k₁)
    (hb : SameBooks c.kernel k₁) (hk : clockCall c.kernel op = schedulerSwitchTask k₁) :
    OnTheBooks s c op (c.next op) ∧ BooksKept s (c.next op) := by
  have h₁ : BooksKept s ⟨k₁, c.first⟩ := h.congr hb
  by_cases hoff : k₁.sched.initialized = false ∨ k₁.sched.taskCount = 0
  · refine h.stay ?_ ?_
    · rw [selected, henters, Option.any_some]
      rcases hoff with hoff | hoff <;> simp [hoff]
    · rw [hk, switchTask_off hoff]
      exact hb
  · have hsel : selected c.kernel op = true := by
      rw [selected, henters, Option.any_some]
      simpa using hoff
    obtain ⟨hsum, hacc⟩ := h₁.switchTask hoff
    have htimer := switchTask_timer k₁
    have hnext : c.next op = ⟨schedulerSwitchTask k₁, some (c.first.getD k₁.timer.ticks)⟩ := by
      rw [Clocked.next, if_pos hsel, hk, htimer]
    rw [hnext]
    refine ⟨fun _ => ⟨_, rfl, ?_⟩, hacc⟩
    show runtimeSum (schedulerSwitchTask k₁) s = (schedulerSwitchTask k₁).timer.ticks - _
    rw [htimer, hsum]

theorem sameBooks_ticked (k : KernelState) : SameBooks k k.ticked :=
  ⟨rfl, fun _ => rfl, fun _ => rfl⟩

theorem sameBooks_counted (k : KernelState) : SameBooks k k.counted :=
  (sameBooks_ticked k).trans
    (sameBooks_modify _ k.sched.currentProcess (fun _ => rfl) fun _ => rfl)

/-- **A timer interrupt** counts; when the quantum is used up it enters `scheduler_switch_task`. -/
theorem timerHandler_enters (k : KernelState) :
    (entersSwitch k .tick = some k.counted ∧ timerHandler k = schedulerSwitchTask k.counted) ∨
      (entersSwitch k .tick = none ∧ SameBooks k (timerHandler k)) := by
  have hticked := sameBooks_ticked k
  unfold entersSwitch timerHandler
  dsimp only
  by_cases hcallback : k.timer.callback = true
  · rw [if_pos hcallback]
    unfold schedulerTimerCallback
    dsimp only
    by_cases hoff : k.sched.initialized = false ∨ k.sched.currentProcess = null
    · rw [if_pos hoff]
      refine Or.inr ⟨if_neg ?_, hticked⟩
      rintro ⟨-, hon, hcur, -⟩
      rcases hoff with hoff | hoff
      · rw [hon] at hoff
        cases hoff
      · exact hcur hoff
    · rw [if_neg hoff]
      rw [not_or, Bool.not_eq_false] at hoff
      change _ ∨ (_ ∧ SameBooks k
        (if (k.counted.mem k.sched.currentProcess).quantumRemaining = 0
          then schedulerSwitchTask k.counted else k.counted))
      by_cases hzero : (k.counted.mem k.sched.currentProcess).quantumRemaining = 0
      · exact Or.inl ⟨if_pos ⟨hcallback, hoff.1, hoff.2, hzero⟩, if_pos hzero⟩
      · rw [if_neg hzero]
        exact Or.inr ⟨if_neg fun hno => hzero hno.2.2.2, sameBooks_counted k⟩
  · rw [if_neg hcallback]
    exact Or.inr ⟨if_neg fun hno => hcallback hno.1, hticked⟩

theorem removeTask_frame (k : KernelState) (p : ProcessPtr) :
    (schedulerRemoveTask k p).sched.currentProcess = k.sched.currentProcess ∧
    (schedulerRemoveTask k p).sched.idleProcess = k.sched.idleProcess := by
  unfold schedulerRemoveTask
  split
  · exact ⟨rfl, rfl⟩
  · split <;> exact ⟨rfl, rfl⟩

theorem BooksKept.removeTask {s : Finset ProcessPtr} {c : Clocked} (h : BooksKept s c)
    (p : ProcessPtr) : OnTheBooks s c (.removeTask p) (c.next (.removeTask p)) ∧
      BooksKept s (c.next (.removeTask p)) := by
  have hnot : selected c.kernel (.removeTask p) = false := rfl
  by_cases hgo : c.kernel.sched.initialized = false ∨ p = null
  · have hsame : clockCall c.kernel (.removeTask p) = c.kernel := if_pos hgo
    exact h.stay hnot (by rw [hsame]; exact SameBooks.refl _)
  simp only [not_or, Bool.not_eq_false] at hgo
  obtain ⟨hused, hmem, hcap, hcount⟩ := usedTasks_remove h.capacity h.bound hgo.1 hgo.2
  obtain ⟨hcur, hidle⟩ := removeTask_frame c.kernel p
  have hle : ((usedTasks c.kernel).erase p).length ≤ maxTasks :=
    List.erase_sublist.length_le.trans ((List.length_take_le ..).trans h.bound)
  have hcall : clockCall c.kernel (.removeTask p) = schedulerRemoveTask c.kernel p := rfl
  rw [Clocked.next_of_not hnot, hcall]
  refine ⟨fun hsel => (by cases hsel), hcap, hcount ▸ hle, ?_, h.nonnull, ?_, ?_⟩
  · intro q hq
    refine h.members q ?_
    unfold candidates at hq ⊢
    rw [hused, hidle] at hq
    exact (List.erase_sublist.append_right _).subset hq
  · intro hnone
    have hb := h.before hnone
    unfold runtimeSum at hb ⊢
    rw [hcur, hmem]
    exact hb
  · intro t ht
    have ha := h.after t ht
    unfold runtimeSum at ha ⊢
    rw [hcur, hmem]
    exact ha

/-! ## Runs -/

theorem booksKept_step {s : Finset ProcessPtr} {c c' : Clocked} {op : ClockOp}
    (h : BooksKept s c) (hs : clockStep c op = some c') : OnTheBooks s c op c' ∧ BooksKept s c' := by
  cases hs
  cases op with
  | tick =>
    rcases timerHandler_enters c.kernel with ⟨henters, heq⟩ | ⟨hnone, hsame⟩
    · exact h.enter henters (sameBooks_counted c.kernel) heq
    · refine h.stay ?_ hsame
      rw [selected, hnone]
      rfl
  | switchTask => exact h.enter rfl (SameBooks.refl _) rfl
  | removeTask p => exact h.removeTask p

theorem AllQueued.booksKept {k : KernelState} (h : AllQueued k) :
    BooksKept (candidates k).toFinset ⟨k, none⟩ where
  capacity := h.capacity
  bound := h.bound
  members := fun _ hp => List.mem_toFinset.mpr hp
  nonnull := fun hin => h.nonnull (List.mem_toFinset.mp hin)
  before := fun _ => ⟨h.current, Finset.sum_eq_zero fun p hp => h.runtime p (List.mem_toFinset.mp hp)⟩
  after := fun t ht => by simp at ht

/--
**After every switch that selects a process, all running times together are the ticks since the
first such switch.**

The sum is over the idle process and all tasks that were queued when the run began.
-/
theorem runtime_accounted {k : KernelState} (h : AllQueued k) (ops : List ClockOp) :
    Along clockStep (OnTheBooks (candidates k).toFinset) ⟨k, none⟩ ops :=
  Along.of_step (fun _ _ _ hi hs => (booksKept_step hi hs).1)
    (fun _ _ _ hi hs => (booksKept_step hi hs).2) h.booksKept

/-! ## Where the runs start -/

/-- **`scheduler_init` leaves an idle process that has not run.** -/
theorem allQueued_schedulerInit {k : KernelState} {entry : UInt32} {block : ProcessPtr}
    {stack : UInt32} (hoff : k.sched.initialized = false)
    (hok : (schedulerInit k entry block stack).1 = true) :
    AllQueued (schedulerInit k entry block stack).2 := by
  unfold schedulerInit at hok ⊢
  rw [if_neg (by simp [hoff])] at hok ⊢
  rcases processCreate_cases { k with sched := SchedulerState.zero } (some idleName) entry block
    stack with ⟨-, h | ⟨r, -, h⟩⟩ | ⟨hcreated, nm, h⟩
  · simp [h] at hok
  · simp [h] at hok
  · have hblock : block ≠ null := hcreated.2.2.2.2.1
    simp only [h, if_neg hblock]
    unfold timerSetCallback
    split
    all_goals
      refine ⟨List.length_replicate, Nat.zero_le _, rfl, ?_, ?_⟩
      · simpa [candidates, usedTasks, enterProcess, SchedulerState.zero] using hblock.symm
      · intro p hp
        obtain rfl : p = block := by
          simpa [candidates, usedTasks, enterProcess, SchedulerState.zero] using hp
        simp [enterProcess, createdProcess, newProcess]

/-- `process_create` in between leaves the queue alone. -/
theorem AllQueued.create {k : KernelState} (h : AllQueued k) (name : Option (List UInt8))
    (entry : UInt32) {block : ProcessPtr} (stack : UInt32) (hfresh : block ∉ candidates k) :
    AllQueued (processCreate k name entry block stack).2 := by
  have hsched := processCreate_sched k name entry block stack
  have hmem : ∀ p ∈ candidates k,
      (processCreate k name entry block stack).2.mem p = k.mem p := by
    intro p hp
    have hne : p ≠ block := fun he => hfresh (he ▸ hp)
    rcases processCreate_cases k name entry block stack with ⟨-, hc | ⟨r, -, hc⟩⟩ | ⟨-, nm, hc⟩
    · rw [hc]
    · rw [hc]
      exact Function.update_of_ne hne ..
    · rw [hc]
      exact Function.update_of_ne hne ..
  have hcand : candidates (processCreate k name entry block stack).2 = candidates k := by
    unfold candidates usedTasks
    rw [hsched]
  refine ⟨hsched ▸ h.capacity, hsched ▸ h.bound, hsched ▸ h.current, hcand ▸ h.nonnull, ?_⟩
  intro p hp
  rw [hcand] at hp
  rw [hmem p hp]
  exact h.runtime p hp

/-- **`scheduler_add_task` clears the running time of what it queues.** -/
theorem AllQueued.add {k : KernelState} (h : AllQueued k) (p : ProcessPtr) (priority : UInt8) :
    AllQueued (schedulerAddTask k p priority).2 := by
  by_cases hgo : k.sched.initialized = false ∨ p = null ∨ maxTasks ≤ k.sched.taskCount
  · rw [addTask_refused priority hgo]
    exact h
  · obtain ⟨-, hmem, hsched⟩ := addTask_eq priority hgo
    have hsub : ∀ q ∈ candidates (schedulerAddTask k p priority).2, q ∈ candidates k ∨ q = p := by
      intro q hq
      rcases List.mem_append.mp hq with hq | hq
      · exact (mem_usedTasks_add priority h.capacity hgo hq).imp_left (List.mem_append_left _)
      · rw [hsched] at hq
        exact Or.inl (List.mem_append_right _ hq)
    simp only [not_or, Nat.not_le] at hgo
    obtain ⟨-, hp, hlt⟩ := hgo
    refine ⟨addTask_capacity priority h.capacity, by rw [hsched]; exact hlt,
      by rw [hsched]; exact h.current, ?_, ?_⟩
    · intro hin
      rcases hsub null hin with hin | hin
      · exact h.nonnull hin
      · exact hp hin.symm
    · intro q hq
      rw [hmem]
      rcases eq_or_ne q p with rfl | hne
      · rw [Function.update_self]
        rfl
      · rw [Function.update_of_ne hne]
        exact h.runtime q ((hsub q hq).resolve_right hne)

theorem allQueued_twoTasks : AllQueued twoTasks where
  capacity := by decide +kernel
  bound := by decide
  current := by decide
  nonnull := by decide
  runtime := by decide +kernel

/-- A run with a switch, a timer interrupt and the removal of the running task. -/
theorem runtime_twoTasks :
    Along clockStep (OnTheBooks (candidates twoTasks).toFinset) ⟨twoTasks, none⟩
      [.switchTask, .tick, .switchTask, .removeTask 0xD0004110, .switchTask] :=
  runtime_accounted allQueued_twoTasks _

end MayaOs.Kernel
