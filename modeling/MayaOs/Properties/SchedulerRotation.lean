import Mathlib.Data.List.Perm.Subperm
import MayaOs.Properties.TaskRefs

/-!
# Rotation among equal tasks

Tasks of the highest priority that can run should get the CPU in turn. `scheduler_switch_task` makes
the running task ready again and takes the first ready one from the start of the table, which is the
one that was running.

* `switchTask_again` — a second switch selects no other top task
* `rotates_iff_short` — in no run with as many switches as there are such tasks does each get its
  turn
* `second_task_starved` — two tasks, one of which is selected twice
-/

namespace MayaOs.Kernel

open MayaOs.Lib

/-! ## The property -/

/--
The tasks `top` share the highest priority and can run.

`scheduler_add_task` puts no NULL into the table.
-/
structure TopTasks (k : KernelState) (top : List ProcessPtr) : Prop where
  nodup : top.Nodup
  listed : ∀ p ∈ top, p ∈ usedTasks k
  canRun : ∀ p ∈ top, (k.mem p).state = .ready ∨ (k.mem p).state = .running
  highest : ∀ p ∈ top, ∀ q ∈ usedTasks k, (k.mem q).priority ≤ (k.mem p).priority
  nonnull : null ∉ usedTasks k

/--
What may happen between two switches: no task is added or removed, and no top task is blocked.

Other tasks may be woken meanwhile, and priorities may change.
-/
structure SameTop (top : List ProcessPtr) (k k' : KernelState) : Prop where
  sched : k'.sched = k.sched
  state : ∀ p ∈ top, (k'.mem p).state = (k.mem p).state

/-- Runs of switches with other things in between; the list has the process each switch selects. -/
inductive Switching (top : List ProcessPtr) :
    KernelState → List ProcessPtr → KernelState → Prop where
  | done (k : KernelState) : Switching top k [] k
  | other {k k' k'' : KernelState} {selected : List ProcessPtr} (h : SameTop top k k')
      (rest : Switching top k' selected k'') : Switching top k selected k''
  | switch {k k'' : KernelState} {selected : List ProcessPtr}
      (rest : Switching top (schedulerSwitchTask k) selected k'') :
      Switching top k ((schedulerSwitchTask k).sched.currentProcess :: selected) k''

/-- Any `top.length` consecutive switches select each of `top` exactly once. -/
def Rotates (top selected : List ProcessPtr) : Prop :=
  ∀ pre window post, selected = pre ++ window ++ post → window.length = top.length →
    ∀ p ∈ top, window.count p = 1

/-! ## One switch -/

/--
Two searches of a list: the second condition holds of what the first search finds, and agrees with
the first condition on what the second one finds.
-/
theorem find?_getD_eq {l : List ProcessPtr} {f g : ProcessPtr → Bool} {d p q : ProcessPtr}
    (hp : (l.find? f).getD d = p) (hq : (l.find? g).getD d = q) (hpl : p ∈ l) (hql : q ∈ l)
    (hgp : g p = true) (hsame : q ≠ p → g q = f q) : q = p := by
  induction l with
  | nil => exact absurd hpl List.not_mem_nil
  | cons x l ih =>
    by_cases hxp : x = p
    · rw [List.find?_cons_of_pos (by rw [hxp]; exact hgp), Option.getD_some] at hq
      rw [← hq, hxp]
    · by_cases hxq : x = q
      · by_contra hne
        cases hg : g q with
        | true =>
          rw [List.find?_cons_of_pos (by rw [hxq, ← hsame hne, hg]), Option.getD_some] at hp
          exact hxp hp
        | false =>
          -- then the second search goes past `q`
          rw [List.find?_cons_of_neg (by simp [hxq, hg])] at hq
          cases hfind : l.find? g with
          | none =>
            have hpl' : p ∈ l := (List.mem_cons.mp hpl).resolve_left fun he => hxp he.symm
            exact absurd hgp (by simpa using List.find?_eq_none.mp hfind p hpl')
          | some z =>
            rw [hfind, Option.getD_some] at hq
            have hz := List.find?_some hfind
            rw [hq, hg] at hz
            cases hz
      · have hfx : f x = false := by
          cases hf : f x with
          | false => rfl
          | true =>
            rw [List.find?_cons_of_pos hf, Option.getD_some] at hp
            exact absurd hp hxp
        have hgx : g x = false := by
          cases hg : g x with
          | false => rfl
          | true =>
            rw [List.find?_cons_of_pos hg, Option.getD_some] at hq
            exact absurd hq hxq
        rw [List.find?_cons_of_neg (by simp [hfx])] at hp
        rw [List.find?_cons_of_neg (by simp [hgx])] at hq
        exact ih hp hq ((List.mem_cons.mp hpl).resolve_left fun he => hxp he.symm)
          ((List.mem_cons.mp hql).resolve_left fun he => hxq he.symm)

theorem accountCurrent_state_self {k : KernelState} (h : k.sched.currentProcess ≠ null) :
    ((accountCurrent k).mem k.sched.currentProcess).state = .ready := by
  unfold accountCurrent
  rw [if_neg h, KernelState.modify_mem_self]

theorem accountCurrent_state_of_ne {k : KernelState} {p : ProcessPtr}
    (h : p ≠ k.sched.currentProcess) :
    ((accountCurrent k).mem p).state = (k.mem p).state := by
  unfold accountCurrent
  split
  · rfl
  · rw [KernelState.modify_mem_ne _ _ _ h]

/-- Of a record `process_switch` changes the saved registers at most. -/
theorem processSwitch_record (k : KernelState) (next p : ProcessPtr) :
    ∃ esp ebp, (processSwitch k next).mem p = { k.mem p with esp := esp, ebp := ebp } := by
  unfold processSwitch
  split
  · exact ⟨_, _, rfl⟩
  · show ∃ esp ebp, (saveContext k).mem p = _
    unfold saveContext
    split
    · exact ⟨_, _, rfl⟩
    · rcases eq_or_ne p k.pm.currentProcess with rfl | hne
      · rw [KernelState.modify_mem_self]
        exact ⟨_, _, rfl⟩
      · rw [KernelState.modify_mem_ne _ _ _ hne]
        exact ⟨_, _, rfl⟩

theorem processSwitch_state (k : KernelState) (next p : ProcessPtr) :
    ((processSwitch k next).mem p).state = (k.mem p).state := by
  obtain ⟨esp, ebp, h⟩ := processSwitch_record k next p
  rw [h]

theorem startRunning_mem (k : KernelState) (next : ProcessPtr) :
    (startRunning k next).mem = (k.modify next fun r =>
      { r with
        quantumRemaining := schedulerQuantum
        state := .running
        lastRun := k.timer.ticks }).mem := rfl

section Switch

variable {k : KernelState}

theorem switchTask_off (h : k.sched.initialized = false ∨ k.sched.taskCount = 0) :
    schedulerSwitchTask k = k := if_pos h

/-- The scheduler's variables after a switch. -/
theorem switchTask_sched (h : ¬ (k.sched.initialized = false ∨ k.sched.taskCount = 0)) :
    (schedulerSwitchTask k).sched =
      { k.sched with
        currentProcess := pickNext (accountCurrent k)
        totalSwitches := k.sched.totalSwitches + 1 } := by
  have hsched := (accountCurrent_frame k).2.1
  unfold schedulerSwitchTask
  rw [if_neg h]
  simp only [processSwitch_sched, startRunning, KernelState.modify_sched, hsched]

/-- The records after a switch, but for the saved registers. -/
theorem switchTask_record (h : ¬ (k.sched.initialized = false ∨ k.sched.taskCount = 0))
    (p : ProcessPtr) : ∃ esp ebp, (schedulerSwitchTask k).mem p =
      { (startRunning (accountCurrent k) (pickNext (accountCurrent k))).mem p with
        esp := esp
        ebp := ebp } := by
  unfold schedulerSwitchTask
  rw [if_neg h]
  exact processSwitch_record _ _ p

/-- A switch changes the state of nobody but the old and the new task. -/
theorem switchTask_state (h : ¬ (k.sched.initialized = false ∨ k.sched.taskCount = 0))
    {p : ProcessPtr} (hp : p ≠ pickNext (accountCurrent k)) :
    ((schedulerSwitchTask k).mem p).state = ((accountCurrent k).mem p).state := by
  unfold schedulerSwitchTask
  rw [if_neg h, processSwitch_state]
  exact congrArg Process.state (Function.update_of_ne hp ..)

/-- What `pickNext` looks at when a switch calls it. -/
theorem pickNext_accountCurrent (k : KernelState) :
    pickNext (accountCurrent k) = ((usedTasks k).find? fun p =>
      ((accountCurrent k).mem p).state = .ready).getD k.sched.idleProcess := by
  unfold pickNext usedTasks
  rw [(accountCurrent_frame k).2.1]

theorem usedTasks_switchTask (k : KernelState) :
    usedTasks (schedulerSwitchTask k) = usedTasks k := by
  by_cases hoff : k.sched.initialized = false ∨ k.sched.taskCount = 0
  · rw [switchTask_off hoff]
  · unfold usedTasks
    rw [switchTask_sched hoff]

/-- **The second of two switches selects the same top task**, if it selects one of them at all. -/
theorem switchTask_again {k' : KernelState} {top : List ProcessPtr}
    (hlisted : ∀ p ∈ top, p ∈ usedTasks k) (hnull : null ∉ usedTasks k)
    (hsame : SameTop top (schedulerSwitchTask k) k')
    (hfirst : (schedulerSwitchTask k).sched.currentProcess ∈ top)
    (hsecond : (schedulerSwitchTask k').sched.currentProcess ∈ top) :
    (schedulerSwitchTask k').sched.currentProcess =
      (schedulerSwitchTask k).sched.currentProcess := by
  by_cases hoff : k.sched.initialized = false ∨ k.sched.taskCount = 0
  · rw [switchTask_off hoff] at hsame ⊢
    rw [switchTask_off (by rw [hsame.sched]; exact hoff), hsame.sched]
  · have hsched := switchTask_sched hoff
    have hsched' : k'.sched = _ := hsame.sched.trans hsched
    have hon' : ¬ (k'.sched.initialized = false ∨ k'.sched.taskCount = 0) := by
      rw [hsched']
      exact hoff
    have hused : usedTasks k' = usedTasks k := by
      unfold usedTasks
      rw [hsched']
    have hcur : (schedulerSwitchTask k).sched.currentProcess = pickNext (accountCurrent k) := by
      rw [hsched]
    have hcur' : (schedulerSwitchTask k').sched.currentProcess = pickNext (accountCurrent k') := by
      rw [switchTask_sched hon']
    have hrunning : k'.sched.currentProcess = pickNext (accountCurrent k) := by rw [hsched']
    have hidle : k'.sched.idleProcess = k.sched.idleProcess := by rw [hsched']
    rw [hcur] at hfirst ⊢
    rw [hcur'] at hsecond ⊢
    refine find?_getD_eq (pickNext_accountCurrent k).symm
      (by rw [pickNext_accountCurrent, hused, hidle]) (hlisted _ hfirst) (hlisted _ hsecond) ?_ ?_
    · -- the task that runs is made ready again
      have hne : k'.sched.currentProcess ≠ null := by
        rw [hrunning]
        exact fun he => hnull (he ▸ hlisted _ hfirst)
      rw [← hrunning, accountCurrent_state_self hne]
      rfl
    · intro hne
      rw [accountCurrent_state_of_ne (by rw [hrunning]; exact hne), hsame.state _ hsecond,
        switchTask_state hoff hne]

end Switch

/-! ## Runs -/

theorem SameTop.usedTasks {top : List ProcessPtr} {k k' : KernelState} (h : SameTop top k k') :
    usedTasks k' = usedTasks k := by
  unfold Kernel.usedTasks
  rw [h.sched]

theorem SameTop.trans {top : List ProcessPtr} {k k' k'' : KernelState} (h : SameTop top k k')
    (h' : SameTop top k' k'') : SameTop top k k'' :=
  ⟨h'.sched.trans h.sched, fun p hp => (h'.state p hp).trans (h.state p hp)⟩

/-- The first switch of a run. -/
theorem Switching.exists_first {top : List ProcessPtr} {k k'' : KernelState} {q : ProcessPtr}
    {selected : List ProcessPtr} (h : Switching top k (q :: selected) k'') :
    ∃ k', SameTop top k k' ∧ q = (schedulerSwitchTask k').sched.currentProcess := by
  generalize hl : q :: selected = l at h
  induction h with
  | done k => cases hl
  | other hsame rest ih =>
    obtain ⟨k', hsame', hq⟩ := ih hl
    exact ⟨k', hsame.trans hsame', hq⟩
  | switch rest ih =>
    cases hl
    exact ⟨_, ⟨rfl, fun _ _ => rfl⟩, rfl⟩

/-- **No two consecutive switches of a run select different top tasks.** -/
theorem Switching.eq_of_consecutive {top : List ProcessPtr} {k k'' : KernelState}
    {selected : List ProcessPtr} (h : Switching top k selected k'')
    (hlisted : ∀ p ∈ top, p ∈ usedTasks k) (hnull : null ∉ usedTasks k) :
    ∀ pre p q post, selected = pre ++ p :: q :: post → p ∈ top → q ∈ top → q = p := by
  induction h with
  | done k => intro pre p q post heq; simp at heq
  | other hsame rest ih =>
    exact ih (by rw [hsame.usedTasks]; exact hlisted) (by rw [hsame.usedTasks]; exact hnull)
  | @switch k k'' selected rest ih =>
    intro pre p q post heq hp hq
    cases pre with
    | nil =>
      obtain ⟨rfl, rfl⟩ := List.cons.inj heq
      obtain ⟨k', hsame, rfl⟩ := rest.exists_first
      exact switchTask_again hlisted hnull hsame hp hq
    | cons c pre =>
      obtain ⟨-, htail⟩ := List.cons.inj heq
      exact ih (by rw [usedTasks_switchTask]; exact hlisted)
        (by rw [usedTasks_switchTask]; exact hnull) pre p q post htail hp hq

/-- Nobody gets exactly one turn where consecutive turns never go to two of the top tasks. -/
theorem not_rotates {top selected : List ProcessPtr} (hnd : top.Nodup) (htwo : 2 ≤ top.length)
    (hsame : ∀ pre p q post, selected = pre ++ p :: q :: post → p ∈ top → q ∈ top → q = p)
    (hlen : top.length ≤ selected.length) : ¬ Rotates top selected := by
  intro hrot
  have hcount := hrot [] (selected.take top.length) (selected.drop top.length)
    (by simp) (by simp [hlen])
  have hsub : top ⊆ selected.take top.length := by
    intro p hp
    have := hcount p hp
    exact List.count_pos_iff.mp (by omega)
  have hperm : List.Perm top (selected.take top.length) :=
    (List.subperm_of_subset hnd hsub).perm_of_length_le
      (by rw [List.length_take]; exact Nat.min_le_left ..)
  match hwindow : selected.take top.length with
  | [] => rw [hwindow] at hperm; simp [hperm.eq_nil] at htwo
  | [p] => rw [hwindow] at hperm; simp [hperm.length_eq] at htwo
  | p :: q :: rest =>
    have hsplit : selected = [] ++ p :: q :: (rest ++ selected.drop top.length) := by
      rw [List.nil_append, ← List.cons_append, ← List.cons_append, ← hwindow,
        List.take_append_drop]
    rw [hwindow] at hperm
    have hpq := hsame [] p q _ hsplit (hperm.mem_iff.mpr (by simp)) (hperm.mem_iff.mpr (by simp))
    have hnd' := hperm.nodup_iff.mp hnd
    simp [hpq] at hnd'

/--
**In a run the top tasks get their turns iff there are fewer switches than such tasks**, so that
there are no turns to be had.
-/
theorem rotates_iff_short {k k' : KernelState} {top selected : List ProcessPtr}
    (htop : TopTasks k top) (htwo : 2 ≤ top.length) (hrun : Switching top k selected k') :
    Rotates top selected ↔ selected.length < top.length := by
  constructor
  · intro hrot
    by_contra hlen
    exact not_rotates htop.nodup htwo (hrun.eq_of_consecutive htop.listed htop.nonnull)
      (Nat.not_lt.mp hlen) hrot
  · intro hlen pre window post heq hwindow
    rw [heq, List.length_append, List.length_append] at hlen
    omega

/-! ## Timer interrupts -/

theorem sameTop_modify (top : List ProcessPtr) (k : KernelState) (p : ProcessPtr)
    {f : Process → Process} (hstate : ∀ r, (f r).state = r.state) :
    SameTop top k (k.modify p f) := by
  refine ⟨rfl, fun q _ => ?_⟩
  rcases eq_or_ne q p with rfl | hne
  · rw [KernelState.modify_mem_self, hstate]
  · rw [KernelState.modify_mem_ne _ _ _ hne]

/-- **A timer interrupt makes one switch, or none.** -/
theorem switching_timerHandler (top : List ProcessPtr) (k : KernelState) :
    ∃ selected : List ProcessPtr,
      selected.length ≤ 1 ∧ Switching top k selected (timerHandler k) := by
  have htick : SameTop top k k.ticked := ⟨rfl, fun _ _ => rfl⟩
  have hquantum : SameTop top k.ticked k.counted :=
    sameTop_modify top k.ticked k.sched.currentProcess fun _ => rfl
  rcases timerHandler_cases k with heq | heq | heq
  · rw [heq]
    exact ⟨[], by simp, .other htick (.done _)⟩
  · rw [heq]
    exact ⟨[], by simp, .other htick (.other hquantum (.done _))⟩
  · rw [heq]
    exact ⟨[_], Nat.le_refl 1, .other htick (.other hquantum (.switch (.done _)))⟩

/-! ## Two tasks -/

/-- Two tasks of priority 5 have been added. -/
def twoTasks : KernelState :=
  let k := timerInit (processInit KernelState.boot)
  let k := (schedulerInit k 0x00100000 0xD0000010 0xD0000110).2
  let k := (processCreate k (some [0x61]) 0x00200000 0xD0004110 0xD0004210).2
  let k := (processCreate k (some [0x62]) 0x00300000 0xD0008210 0xD0008310).2
  let k := (schedulerAddTask k 0xD0004110 5).2
  (schedulerAddTask k 0xD0008210 5).2

theorem topTasks_twoTasks : TopTasks twoTasks [0xD0004110, 0xD0008210] where
  nodup := by decide
  listed := by decide
  canRun := by decide
  highest := by decide
  nonnull := by decide

/-- A run of two switches. -/
theorem switching_twoTasks : Switching [0xD0004110, 0xD0008210] twoTasks [0xD0004110, 0xD0004110]
    (schedulerSwitchTask (schedulerSwitchTask twoTasks)) :=
  .switch (.switch (.done _))

theorem rotates_twoTasks : Rotates [0xD0004110, 0xD0008210] [0xD0004110, 0xD0004110] ↔
    [0xD0004110, 0xD0004110].length < [0xD0004110, 0xD0008210].length :=
  rotates_iff_short topTasks_twoTasks (Nat.le_refl 2) switching_twoTasks

/-- **The second task does not get its turn**: both switches select the first one. -/
theorem second_task_starved : TopTasks twoTasks [0xD0004110, 0xD0008210] ∧
    (∃ k, Switching [0xD0004110, 0xD0008210] twoTasks [0xD0004110, 0xD0004110] k) ∧
    ¬ Rotates [0xD0004110, 0xD0008210] [0xD0004110, 0xD0004110] := by
  refine ⟨topTasks_twoTasks, ⟨_, switching_twoTasks⟩, fun hrot => ?_⟩
  have hcount := hrot [] [0xD0004110, 0xD0004110] [] rfl rfl 0xD0008210 (by simp)
  exact absurd hcount (by decide)

end MayaOs.Kernel
