import Mathlib.Data.List.Induction
import MayaOs.Lib.StableInsert
import MayaOs.Properties.SchedulerRotation

/-!
# The order of the task list

`scheduler_add_task` appends and makes one backward pass of exchanges. On a list that is in order
already this pass is an insertion behind every task of at least the same priority.

* `sortPass_eq_insertBehind` — the pass as an insertion
* `taskRun_queued` — after any calls the list is what was added and not removed, by priority and
  then by age
-/

namespace MayaOs.Kernel

open MayaOs.Lib

/-! ## The property -/

/-- What was added and not removed since, in the order of the calls, with the priorities given. -/
abbrev TaskLog := List (ProcessPtr × UInt8)

/-- `on` is the flag `scheduler_state.initialized`. -/
def TaskLog.add (log : TaskLog) (on : Bool) (process : ProcessPtr) (priority : UInt8) : TaskLog :=
  if on = false ∨ process = null ∨ maxTasks ≤ log.length then log else log ++ [(process, priority)]

def TaskLog.remove (log : TaskLog) (on : Bool) (process : ProcessPtr) : TaskLog :=
  if on then log.filter fun e => e.1 != process else log

def priorityOf (mem : ProcessPtr → Process) (p : ProcessPtr) : Nat := (mem p).priority.toNat

/-- The task list holds what is in the log, by priority and then by age. -/
structure Queued (k : KernelState) (log : TaskLog) : Prop where
  priority : ∀ e ∈ log, (k.mem e.1).priority = e.2
  sorted : Descending (priorityOf k.mem) (usedTasks k)
  stable : ∀ v, (usedTasks k).filter (fun p => priorityOf k.mem p = v) =
    (log.filter fun e => e.2.toNat = v).map Prod.fst
  members : (usedTasks k).Perm (log.map Prod.fst)
  nodup : (usedTasks k).Nodup
  count : k.sched.taskCount = log.length

/-- What may happen between the calls: the list and the priorities of its tasks stay. -/
structure KeepsTasks (k k' : KernelState) : Prop where
  tasks : k'.sched.tasks = k.sched.tasks
  count : k'.sched.taskCount = k.sched.taskCount
  priority : ∀ p ∈ usedTasks k, (k'.mem p).priority = (k.mem p).priority

/-- Runs of the two calls from an empty list; a process is added only while it is not on the list. -/
inductive TaskRun : KernelState → TaskLog → Prop where
  | start {k : KernelState} (hcount : k.sched.taskCount = 0)
      (hcap : k.sched.tasks.length = maxTasks) : TaskRun k []
  | add {k : KernelState} {log : TaskLog} (h : TaskRun k log) {process : ProcessPtr}
      (hp : process ∉ usedTasks k) (priority : UInt8) :
      TaskRun (schedulerAddTask k process priority).2
        (log.add k.sched.initialized process priority)
  | remove {k : KernelState} {log : TaskLog} (h : TaskRun k log) (process : ProcessPtr) :
      TaskRun (schedulerRemoveTask k process) (log.remove k.sched.initialized process)
  | other {k k' : KernelState} {log : TaskLog} (h : TaskRun k log) (hk : KeepsTasks k k') :
      TaskRun k' log

/-! ## The pass of exchanges -/

theorem lt_priority {mem : ProcessPtr → Process} {p q : ProcessPtr} :
    (mem p).priority < (mem q).priority ↔ priorityOf mem p < priorityOf mem q :=
  UInt8.lt_iff_toNat_lt

/-- A pass over a list that is in order exchanges nothing. -/
theorem sortPass_eq_self {mem : ProcessPtr → Process} (rest : List ProcessPtr) :
    ∀ {l : List ProcessPtr}, Descending (priorityOf mem) l →
      sortPass mem (l.length - 1) (l ++ rest) = l ++ rest := by
  intro l
  induction l using List.reverseRecOn generalizing rest with
  | nil => intro _; rfl
  | append_singleton l p ih =>
    intro h
    have hl : Descending (priorityOf mem) l := (List.pairwise_append.mp h).1
    rcases List.eq_nil_or_concat l with rfl | ⟨init, q, rfl⟩
    · rfl
    · have hge : priorityOf mem p ≤ priorityOf mem q := h.last_le q (by simp)
      have hp : (init.concat q ++ [p] ++ rest).getD (init.length + 1) null = p := by simp
      have hq : (init.concat q ++ [p] ++ rest).getD init.length null = q := by simp
      have hlen : (init.concat q ++ [p]).length - 1 = init.length + 1 := by simp
      rw [hlen, sortPass, hp, hq, if_neg (by rw [gt_iff_lt, lt_priority]; exact not_lt.mpr hge)]
      simpa using ih ([p] ++ rest) hl

/-- **One pass is an insertion**, if the list in front of the new task is in order. -/
theorem sortPass_eq_insertBehind {mem : ProcessPtr → Process} (p : ProcessPtr)
    (rest : List ProcessPtr) {l : List ProcessPtr} (h : Descending (priorityOf mem) l) :
    sortPass mem l.length (l ++ p :: rest) =
      insertBehind (priorityOf mem) p l ++ rest := by
  induction l using List.reverseRecOn generalizing rest with
  | nil => rfl
  | append_singleton l q ih =>
    have hl : Descending (priorityOf mem) l := (List.pairwise_append.mp h).1
    have hp : (l ++ [q] ++ p :: rest).getD (l.length + 1) null = p := by simp
    have hq : (l ++ [q] ++ p :: rest).getD l.length null = q := by simp
    have hlen : (l ++ [q]).length = l.length + 1 := by simp
    by_cases hlt : priorityOf mem q < priorityOf mem p
    · have hswap : ((l ++ [q] ++ p :: rest).set (l.length + 1) q).set l.length p =
          l ++ p :: (q :: rest) := by simp
      rw [hlen, sortPass, hp, hq, if_pos (lt_priority.mpr hlt), hswap, ih (q :: rest) hl,
        insertBehind_concat_of_lt hlt]
      simp
    · -- the rest of the pass runs over a list in order
      have hall : ∀ b ∈ l ++ [q], priorityOf mem p ≤ priorityOf mem b := by
        intro b hb
        rcases List.mem_append.mp hb with hb | hb
        · exact (not_lt.mp hlt).trans (h.last_le b hb)
        · rw [List.mem_singleton.mp hb]
          exact not_lt.mp hlt
      have hself := sortPass_eq_self rest (h.concat hall)
      rw [insertBehind_eq_concat hall]
      simpa using hself

/-! ## The calls -/

/-- A log and the table it describes. -/
structure TaskTable (k : KernelState) (log : TaskLog) : Prop where
  queued : Queued k log
  capacity : k.sched.tasks.length = maxTasks
  bound : k.sched.taskCount ≤ maxTasks
  nonnull : null ∉ usedTasks k

theorem TaskTable.congr {k k' : KernelState} {log : TaskLog} (h : TaskTable k log)
    (hk : KeepsTasks k k') : TaskTable k' log := by
  have hused : usedTasks k' = usedTasks k := by
    unfold usedTasks
    rw [hk.tasks, hk.count]
  have hprio : ∀ p ∈ usedTasks k, priorityOf k'.mem p = priorityOf k.mem p :=
    fun p hp => congrArg UInt8.toNat (hk.priority p hp)
  have hq := h.queued
  refine ⟨⟨?_, ?_, ?_, ?_, ?_, ?_⟩, ?_, ?_, ?_⟩
  · intro e he
    rw [hk.priority e.1 (hq.members.mem_iff.mpr (List.mem_map_of_mem he))]
    exact hq.priority e he
  · rw [hused]
    exact hq.sorted.congr hprio
  · intro v
    rw [hused, ← hq.stable v]
    exact List.filter_congr fun p hp => by rw [hprio p hp]
  · rw [hused]
    exact hq.members
  · rw [hused]
    exact hq.nodup
  · rw [hk.count]
    exact hq.count
  · rw [hk.tasks]
    exact h.capacity
  · rw [hk.count]
    exact h.bound
  · rw [hused]
    exact h.nonnull

/-- An insertion by priority, which is what a new task comes to. -/
theorem Queued.insert {k k' : KernelState} {log : TaskLog} (hq : Queued k log) {p : ProcessPtr}
    {priority : UInt8} (hp : p ∉ usedTasks k) (hother : ∀ q ≠ p, k'.mem q = k.mem q)
    (hself : (k'.mem p).priority = priority)
    (hused : Descending (priorityOf k'.mem) (usedTasks k) →
      usedTasks k' = insertBehind (priorityOf k'.mem) p (usedTasks k))
    (hcount : k'.sched.taskCount = k.sched.taskCount + 1) : Queued k' (log ++ [(p, priority)]) := by
  have hprio : ∀ q ∈ usedTasks k, priorityOf k'.mem q = priorityOf k.mem q := by
    intro q hq
    unfold priorityOf
    rw [hother q fun he => hp (he ▸ hq)]
  have hsorted := hq.sorted.congr hprio
  have hused := hused hsorted
  refine ⟨?_, ?_, ?_, ?_, ?_, ?_⟩
  · intro e he
    rcases List.mem_append.mp he with he | he
    · have hmem := hq.members.mem_iff.mpr (List.mem_map_of_mem he)
      rw [hother e.1 fun heq => hp (heq ▸ hmem)]
      exact hq.priority e he
    · rw [List.mem_singleton.mp he]
      exact hself
  · rw [hused]
    exact hsorted.insertBehind p
  · intro v
    rw [hused, filter_insertBehind hsorted, List.filter_append, List.filter_append,
      List.map_append, ← hq.stable v, List.filter_congr fun q hq => by rw [hprio q hq]]
    have hpv : priorityOf k'.mem p = priority.toNat := congrArg UInt8.toNat hself
    by_cases hv : priority.toNat = v
    · simp [hpv, hv]
    · simp [hpv, hv]
  · rw [hused, List.map_append]
    exact (insertBehind_perm ..).trans
      ((hq.members.cons p).trans (List.perm_append_singleton p _).symm)
  · rw [hused, (insertBehind_perm ..).nodup_iff]
    exact List.nodup_cons.mpr ⟨hp, hq.nodup⟩
  · rw [hcount, List.length_append, List.length_singleton, hq.count]

/-- A task is taken off the list and out of the log. -/
theorem Queued.erase {k k' : KernelState} {log : TaskLog} (hq : Queued k log) {p : ProcessPtr}
    (hmem : k'.mem = k.mem) (hused : usedTasks k' = (usedTasks k).erase p)
    (hcount : k'.sched.taskCount = (usedTasks k').length) :
    Queued k' (log.filter fun e => e.1 != p) := by
  have hfilter : (usedTasks k).erase p = (usedTasks k).filter fun q => q != p :=
    hq.nodup.erase_eq_filter p
  have hmembers : (usedTasks k').Perm ((log.filter fun e => e.1 != p).map Prod.fst) := by
    have hmap : (log.filter fun e => e.1 != p).map Prod.fst =
        (log.map Prod.fst).filter fun q => q != p := by
      rw [List.filter_map]
      rfl
    rw [hused, hfilter, hmap]
    exact hq.members.filter _
  refine ⟨?_, ?_, ?_, hmembers, ?_, ?_⟩
  · intro e he
    rw [hmem]
    exact hq.priority e (List.mem_filter.mp he).1
  · rw [hused, hmem]
    exact hq.sorted.sublist List.erase_sublist
  · intro v
    rw [hused, hfilter, hmem, List.filter_comm, hq.stable v, List.filter_map, List.filter_comm]
    rfl
  · rw [hused]
    exact hq.nodup.erase p
  · rw [hcount, hmembers.length_eq, List.length_map]

/-- What `scheduler_add_task` writes into the record. -/
def queuedRecord (ticks : UInt32) (priority : UInt8) (r : Process) : Process :=
  { r with
    quantumRemaining := schedulerQuantum
    totalRuntime := 0
    lastRun := ticks
    priority := priority
    state := .ready }

section Add

variable {k : KernelState} {p : ProcessPtr} (priority : UInt8)

theorem addTask_refused
    (h : k.sched.initialized = false ∨ p = null ∨ maxTasks ≤ k.sched.taskCount) :
    schedulerAddTask k p priority = (false, k) := if_pos h

/-- The fields after a task has been added. -/
theorem addTask_eq
    (hgo : ¬ (k.sched.initialized = false ∨ p = null ∨ maxTasks ≤ k.sched.taskCount)) :
    (schedulerAddTask k p priority).1 = true ∧
    (schedulerAddTask k p priority).2.mem =
      Function.update k.mem p (queuedRecord k.timer.ticks priority (k.mem p)) ∧
    (schedulerAddTask k p priority).2.sched =
      { k.sched with
        tasks := sortPass (schedulerAddTask k p priority).2.mem k.sched.taskCount
          (k.sched.tasks.set k.sched.taskCount p)
        taskCount := k.sched.taskCount + 1 } := by
  unfold schedulerAddTask
  rw [if_neg hgo]
  exact ⟨rfl, rfl, rfl⟩

theorem addTask_capacity (hcap : k.sched.tasks.length = maxTasks) :
    (schedulerAddTask k p priority).2.sched.tasks.length = maxTasks := by
  by_cases hgo : k.sched.initialized = false ∨ p = null ∨ maxTasks ≤ k.sched.taskCount
  · rw [addTask_refused priority hgo]
    exact hcap
  · rw [(addTask_eq priority hgo).2.2]
    show (sortPass _ _ _).length = _
    rw [length_sortPass, List.length_set]
    exact hcap

/-- Only the new task can have come onto the list. -/
theorem mem_usedTasks_add (hcap : k.sched.tasks.length = maxTasks)
    (hgo : ¬ (k.sched.initialized = false ∨ p = null ∨ maxTasks ≤ k.sched.taskCount))
    {q : ProcessPtr} (hq : q ∈ usedTasks (schedulerAddTask k p priority).2) :
    q ∈ usedTasks k ∨ q = p := by
  obtain ⟨-, -, hsched⟩ := addTask_eq priority hgo
  simp only [not_or, Nat.not_le] at hgo
  rw [usedTasks, hsched] at hq
  have hq' := mem_take_sortPass (Nat.lt_succ_self _) (by rw [List.length_set]; omega) hq
  rw [take_set (by omega), List.mem_append, List.mem_singleton] at hq'
  exact hq'

/-- The list after a task has been added. -/
theorem usedTasks_add (hcap : k.sched.tasks.length = maxTasks)
    (hgo : ¬ (k.sched.initialized = false ∨ p = null ∨ maxTasks ≤ k.sched.taskCount))
    (hsorted : Descending (priorityOf (schedulerAddTask k p priority).2.mem) (usedTasks k)) :
    usedTasks (schedulerAddTask k p priority).2 =
      insertBehind (priorityOf (schedulerAddTask k p priority).2.mem) p (usedTasks k) := by
  obtain ⟨-, -, hsched⟩ := addTask_eq priority hgo
  have hlt : k.sched.taskCount < k.sched.tasks.length := by
    simp only [not_or, Nat.not_le] at hgo
    rw [hcap]
    exact hgo.2.2
  have hlen : (usedTasks k).length = k.sched.taskCount := by
    unfold usedTasks
    rw [List.length_take]
    omega
  have hset : k.sched.tasks.set k.sched.taskCount p =
      usedTasks k ++ p :: k.sched.tasks.drop (k.sched.taskCount + 1) := by
    rw [List.set_eq_take_append_cons_drop, if_pos hlt]
    rfl
  have hpass := sortPass_eq_insertBehind p (k.sched.tasks.drop (k.sched.taskCount + 1)) hsorted
  rw [hlen, ← hset] at hpass
  have hnew : (insertBehind (priorityOf (schedulerAddTask k p priority).2.mem) p
      (usedTasks k)).length = k.sched.taskCount + 1 := by
    rw [(insertBehind_perm ..).length_eq, List.length_cons, hlen]
  rw [usedTasks, hsched]
  show List.take (k.sched.taskCount + 1) (sortPass _ _ _) = _
  rw [hpass, List.take_append_of_le_length (Nat.le_of_eq hnew.symm),
    List.take_of_length_le (Nat.le_of_eq hnew)]

theorem TaskTable.add {log : TaskLog} (h : TaskTable k log) (hp : p ∉ usedTasks k) :
    TaskTable (schedulerAddTask k p priority).2 (log.add k.sched.initialized p priority) := by
  have hq := h.queued
  unfold TaskLog.add
  rw [← hq.count]
  by_cases hgo : k.sched.initialized = false ∨ p = null ∨ maxTasks ≤ k.sched.taskCount
  · rw [addTask_refused priority hgo, if_pos hgo]
    exact h
  · rw [if_neg hgo]
    obtain ⟨-, hmem, hsched⟩ := addTask_eq priority hgo
    have hself : (schedulerAddTask k p priority).2.mem p =
        queuedRecord k.timer.ticks priority (k.mem p) := by
      rw [hmem, Function.update_self]
    have hother : ∀ q ≠ p, (schedulerAddTask k p priority).2.mem q = k.mem q := by
      intro q hne
      rw [hmem, Function.update_of_ne hne]
    have hused := usedTasks_add priority h.capacity hgo
    refine ⟨hq.insert hp hother (by rw [hself]; rfl) hused (by rw [hsched]), ?_, ?_, ?_⟩
    · exact addTask_capacity priority h.capacity
    · simp only [not_or, Nat.not_le] at hgo
      rw [hsched]
      exact hgo.2.2
    · intro hin
      rcases mem_usedTasks_add priority h.capacity hgo hin with hin | heq
      · exact h.nonnull hin
      · exact hgo (Or.inr (Or.inl heq.symm))

end Add

/-- The list after a task has been removed. -/
theorem usedTasks_remove {k : KernelState} (hcap : k.sched.tasks.length = maxTasks)
    (hbound : k.sched.taskCount ≤ maxTasks) (hon : k.sched.initialized = true) {p : ProcessPtr}
    (hp : p ≠ null) : usedTasks (schedulerRemoveTask k p) = (usedTasks k).erase p ∧
      (schedulerRemoveTask k p).mem = k.mem ∧
      (schedulerRemoveTask k p).sched.tasks.length = maxTasks ∧
      (schedulerRemoveTask k p).sched.taskCount = ((usedTasks k).erase p).length := by
  have hlen : (usedTasks k).length = k.sched.taskCount := by
    unfold usedTasks
    rw [List.length_take]
    omega
  have herase := List.erase_eq_eraseIdx (usedTasks k) p
  unfold schedulerRemoveTask
  rw [if_neg (by simp [hon, hp])]
  cases hfind : (k.sched.tasks.take k.sched.taskCount).findIdx? (fun q => q == p) with
  | none =>
    have hsame : (usedTasks k).erase p = usedTasks k := by
      rw [herase, List.idxOf?, usedTasks, hfind]
    rw [hsame]
    exact ⟨rfl, rfl, hcap, hlen.symm⟩
  | some i =>
    have hi : i < k.sched.taskCount := by
      rw [← hlen]
      exact (List.findIdx?_eq_some_iff_getElem.mp hfind).1
    have hshift := take_shiftDown hi (hcap ▸ hbound)
    have hsame : (usedTasks k).erase p = (usedTasks k).eraseIdx i := by
      rw [herase, List.idxOf?, usedTasks, hfind]
    rw [hsame]
    refine ⟨hshift, rfl, ?_, ?_⟩
    · show (shiftDown _ _ _).length = _
      rw [length_shiftDown]
      exact hcap
    · rw [List.length_eraseIdx_of_lt (by omega), hlen]

theorem TaskTable.remove {k : KernelState} {log : TaskLog} (h : TaskTable k log) (p : ProcessPtr) :
    TaskTable (schedulerRemoveTask k p) (log.remove k.sched.initialized p) := by
  have hq := h.queued
  unfold TaskLog.remove
  by_cases hon : k.sched.initialized = true
  · rw [if_pos hon]
    by_cases hp : p = null
    · -- NULL is never on the list
      have hkeep : log.filter (fun e => e.1 != p) = log := by
        refine List.filter_eq_self.mpr fun e he => ?_
        have hmem := hq.members.mem_iff.mpr (List.mem_map_of_mem he)
        rw [bne_iff_ne, hp]
        exact fun heq => h.nonnull (heq ▸ hmem)
      have hsame : schedulerRemoveTask k p = k := if_pos (Or.inr hp)
      rw [hkeep, hsame]
      exact h
    · obtain ⟨hused, hmem, hcap, hcount⟩ := usedTasks_remove h.capacity h.bound hon hp
      rw [← hused] at hcount
      refine ⟨hq.erase hmem hused hcount, hcap, ?_, ?_⟩
      · have hle := (List.erase_sublist : List.Sublist ((usedTasks k).erase p) _).length_le
        have htake : (usedTasks k).length ≤ k.sched.taskCount := List.length_take_le ..
        have hbound := h.bound
        rw [hcount, hused]
        omega
      · rw [hused]
        exact fun hin => h.nonnull (List.mem_of_mem_erase hin)
  · rw [if_neg hon]
    have hsame : schedulerRemoveTask k p = k := if_pos (Or.inl (by simpa using hon))
    rw [hsame]
    exact h

/-! ## Runs -/

theorem TaskTable.start {k : KernelState} (hcount : k.sched.taskCount = 0)
    (hcap : k.sched.tasks.length = maxTasks) : TaskTable k [] := by
  have hused : usedTasks k = [] := by
    rw [usedTasks, hcount, List.take_zero]
  refine ⟨⟨?_, ?_, ?_, ?_, ?_, hcount⟩, hcap, ?_, ?_⟩
  · simp
  · rw [hused]
    exact List.Pairwise.nil
  · simp [hused]
  · simp [hused]
  · simp [hused]
  · rw [hcount]
    exact Nat.zero_le _
  · simp [hused]

theorem TaskRun.table {k : KernelState} {log : TaskLog} (h : TaskRun k log) : TaskTable k log := by
  induction h with
  | start hcount hcap => exact TaskTable.start hcount hcap
  | add _ hp priority ih => exact ih.add priority hp
  | remove _ process ih => exact ih.remove process
  | other _ hk ih => exact ih.congr hk

/--
**After any calls the list is what was added and not removed**, by non-increasing priority and, for
each priority, in the order in which the tasks were added.
-/
theorem taskRun_queued {k : KernelState} {log : TaskLog} (h : TaskRun k log) : Queued k log :=
  h.table.queued

/-- Priorities 5, 7 and 5 again are given out, and the first of these tasks is removed. -/
def addRemoveRun : KernelState :=
  let k := (schedulerInit (processInit KernelState.boot) 0x00100000 0xD0000010 0xD0000110).2
  let k := (schedulerAddTask k 0xD0004110 5).2
  let k := (schedulerAddTask k 0xD0008210 7).2
  let k := (schedulerAddTask k 0xD000C310 5).2
  schedulerRemoveTask k 0xD0004110

theorem queued_addRemoveRun : Queued addRemoveRun [(0xD0008210, 7), (0xD000C310, 5)] := by
  have hstart : TaskRun
      (schedulerInit (processInit KernelState.boot) 0x00100000 0xD0000010 0xD0000110).2 [] :=
    .start (by decide +kernel) (by decide +kernel)
  have hfirst := hstart.add (by decide +kernel : 0xD0004110 ∉ _) 5
  have hsecond := hfirst.add (by decide +kernel : 0xD0008210 ∉ _) 7
  have hthird := hsecond.add (by decide +kernel : 0xD000C310 ∉ _) 5
  have hlog : TaskLog.remove (TaskLog.add (TaskLog.add (TaskLog.add [] true 0xD0004110 5) true
      0xD0008210 7) true 0xD000C310 5) true 0xD0004110 = [(0xD0008210, 7), (0xD000C310, 5)] := by
    decide +kernel
  rw [← hlog]
  exact taskRun_queued (hthird.remove 0xD0004110)

/-! ## Switches and ticks -/

theorem modify_priority (k : KernelState) (p q : ProcessPtr) {f : Process → Process}
    (hf : ∀ r, (f r).priority = r.priority) :
    ((k.modify p f).mem q).priority = (k.mem q).priority := by
  rcases eq_or_ne q p with rfl | hne
  · rw [KernelState.modify_mem_self, hf]
  · rw [KernelState.modify_mem_ne _ _ _ hne]

theorem accountCurrent_priority (k : KernelState) (p : ProcessPtr) :
    ((accountCurrent k).mem p).priority = (k.mem p).priority := by
  unfold accountCurrent
  split
  · rfl
  · exact modify_priority k _ p fun _ => rfl

/-- **A switch keeps the list and the priorities.** -/
theorem keepsTasks_switchTask (k : KernelState) : KeepsTasks k (schedulerSwitchTask k) := by
  by_cases hoff : k.sched.initialized = false ∨ k.sched.taskCount = 0
  · rw [switchTask_off hoff]
    exact ⟨rfl, rfl, fun _ _ => rfl⟩
  · refine ⟨by rw [switchTask_sched hoff], by rw [switchTask_sched hoff], fun p _ => ?_⟩
    obtain ⟨esp, ebp, hrec⟩ := switchTask_record hoff p
    have hstart : ((startRunning (accountCurrent k) (pickNext (accountCurrent k))).mem p).priority =
        ((accountCurrent k).mem p).priority := by
      rw [startRunning_mem]
      exact modify_priority _ _ p fun _ => rfl
    rw [hrec, ← accountCurrent_priority k p]
    exact hstart

theorem KeepsTasks.trans {k k' k'' : KernelState} (h : KeepsTasks k k') (h' : KeepsTasks k' k'') :
    KeepsTasks k k'' := by
  have hused : usedTasks k' = usedTasks k := by
    unfold usedTasks
    rw [h.tasks, h.count]
  refine ⟨h'.tasks.trans h.tasks, h'.count.trans h.count, fun p hp => ?_⟩
  exact (h'.priority p (by rw [hused]; exact hp)).trans (h.priority p hp)

/-- **A timer interrupt keeps the list and the priorities.** -/
theorem keepsTasks_timerHandler (k : KernelState) : KeepsTasks k (timerHandler k) := by
  have hcounted : KeepsTasks k k.counted :=
    ⟨rfl, rfl, fun p _ => modify_priority _ _ p fun _ => rfl⟩
  rcases timerHandler_cases k with heq | heq | heq
  · rw [heq]
    exact ⟨rfl, rfl, fun _ _ => rfl⟩
  · rw [heq]
    exact hcounted
  · rw [heq]
    exact hcounted.trans (keepsTasks_switchTask _)

end MayaOs.Kernel
