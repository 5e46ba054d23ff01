import Mathlib.Data.List.Nodup
import MayaOs.Kernel.Process

/-!
# The process table

`Table k l` says that the used part of `pm.processes` is `l`: distinct live records, each numbered
by its position.

* `processCreate_cases` — everything `process_create` can do
* `createProcess`, `destroyProcess` — the calls as they stand in a run, with the record of what exists
* `Table.create` — a successful `process_create` appends
* `Table.destroy` — `process_destroy` erases and renumbers
-/

namespace MayaOs.Kernel

open MayaOs.Lib

/-! ## process_create -/

/-- The record a successful `process_create` leaves behind. -/
def createdProcess (pid : Nat) (name : List UInt8) (entry stack : UInt32) : Process :=
  { newProcess pid name entry with stack := stack, esp := initialEsp stack entry }

/-- The arguments and `kmalloc` results under which `process_create` succeeds. -/
def CreateOk (k : KernelState) (name : Option (List UInt8)) (entry : UInt32) (block : ProcessPtr)
    (stack : UInt32) : Prop :=
  name.isSome ∧ k.pm.initialized = true ∧ entry ≠ 0 ∧ k.pm.processCount < maxProcesses ∧
    block ≠ null ∧ stack ≠ 0

/-- The state after `r` has been entered in the table at the address `block`. -/
def enterProcess (k : KernelState) (block : ProcessPtr) (r : Process) : KernelState :=
  { (k.modify block fun _ => r) with
    pm :=
      { k.pm with
        processes := k.pm.processes.set k.pm.processCount block
        processCount := k.pm.processCount + 1 } }

/-- **Everything `process_create` can do**: fail, possibly after writing a record, or enter one. -/
theorem processCreate_cases (k : KernelState) (name : Option (List UInt8)) (entry : UInt32)
    (block : ProcessPtr) (stack : UInt32) :
    (¬ CreateOk k name entry block stack ∧
      (processCreate k name entry block stack = (null, k) ∨
        ∃ r, block ≠ null ∧
          processCreate k name entry block stack = (null, k.modify block fun _ => r))) ∨
    (CreateOk k name entry block stack ∧ ∃ nm,
      processCreate k name entry block stack
        = (block, enterProcess k block (createdProcess k.pm.processCount nm entry stack))) := by
  cases name with
  | none => exact Or.inl ⟨fun h => absurd h.1 (by simp), Or.inl rfl⟩
  | some nm =>
    unfold processCreate
    simp only []
    split
    · next hg =>
      refine Or.inl ⟨?_, Or.inl rfl⟩
      rintro ⟨-, hi, he, hc, -, -⟩
      rcases hg with hg | hg | hg
      · rw [hi] at hg; cases hg
      · exact he hg
      · omega
    · next hg =>
      split
      · next hb => exact Or.inl ⟨fun h => h.2.2.2.2.1 hb, Or.inl rfl⟩
      · next hb =>
        split
        · next hs => exact Or.inl ⟨fun h => h.2.2.2.2.2 hs, Or.inr ⟨_, hb, rfl⟩⟩
        · next hs =>
          simp only [not_or, Bool.not_eq_false, Nat.not_le] at hg
          refine Or.inr ⟨⟨rfl, hg.1, hg.2.1, hg.2.2, hb, hs⟩, nm, ?_⟩
          simp only [enterProcess, KernelState.modify, Function.update_self, Function.update_idem,
            createdProcess]

/-! ### The calls in a run -/

/-- A call of `process_create`, and what exists afterwards. -/
def createProcess (k : KernelState) (name : Option (List UInt8)) (entry : UInt32)
    (block : ProcessPtr) (stack : UInt32) : KernelState :=
  (processCreate k name entry block stack).2.noteCreated
    (processCreate k name entry block stack).1

/-- A call of `process_destroy`, and what exists afterwards. -/
def destroyProcess (k : KernelState) (process : ProcessPtr) : KernelState :=
  (processDestroy k process).noteDestroyed process

/-- The state after `r` has been appended to the table, and `block` exists. -/
def appendProcess (k : KernelState) (block : ProcessPtr) (r : Process) : KernelState :=
  { enterProcess k block r with live := block :: k.live }

/-- The same cases, for the call in a run. -/
theorem createProcess_cases (k : KernelState) (name : Option (List UInt8)) (entry : UInt32)
    (block : ProcessPtr) (stack : UInt32) :
    (¬ CreateOk k name entry block stack ∧
      (createProcess k name entry block stack = k ∨
        ∃ r, block ≠ null ∧
          createProcess k name entry block stack = k.modify block fun _ => r)) ∨
    (CreateOk k name entry block stack ∧ ∃ nm,
      createProcess k name entry block stack
        = appendProcess k block (createdProcess k.pm.processCount nm entry stack)) := by
  unfold createProcess
  rcases processCreate_cases k name entry block stack with
    ⟨hno, h | ⟨r, hb, h⟩⟩ | ⟨hok, nm, h⟩
  · rw [h]
    exact Or.inl ⟨hno, Or.inl (KernelState.noteCreated_null k)⟩
  · rw [h]
    exact Or.inl ⟨hno, Or.inr ⟨r, hb, KernelState.noteCreated_null _⟩⟩
  · rw [h]
    exact Or.inr ⟨hok, nm, if_neg hok.2.2.2.2.1⟩

/-! ## The shift loop -/

/-- The loop writes to nothing but the array and the records. -/
theorem shiftProcesses_eq (n : Nat) : ∀ (k : KernelState) (j : Nat), ∃ mem processes,
    shiftProcesses k j n = { k with mem := mem, pm := { k.pm with processes := processes } } := by
  induction n with
  | zero => intro k j; exact ⟨k.mem, k.pm.processes, rfl⟩
  | succ n ih =>
    intro k j
    obtain ⟨mem, processes, heq⟩ := ih _ (j + 1)
    exact ⟨mem, processes, by rw [shiftProcesses, heq]; rfl⟩

@[simp] theorem shiftProcesses_sched (k : KernelState) (j n : Nat) :
    (shiftProcesses k j n).sched = k.sched := by
  obtain ⟨mem, processes, heq⟩ := shiftProcesses_eq n k j
  rw [heq]

@[simp] theorem shiftProcesses_live (k : KernelState) (j n : Nat) :
    (shiftProcesses k j n).live = k.live := by
  obtain ⟨mem, processes, heq⟩ := shiftProcesses_eq n k j
  rw [heq]

@[simp] theorem shiftProcesses_processCount (k : KernelState) (j n : Nat) :
    (shiftProcesses k j n).pm.processCount = k.pm.processCount := by
  obtain ⟨mem, processes, heq⟩ := shiftProcesses_eq n k j
  rw [heq]

@[simp] theorem shiftProcesses_initialized (k : KernelState) (j n : Nat) :
    (shiftProcesses k j n).pm.initialized = k.pm.initialized := by
  obtain ⟨mem, processes, heq⟩ := shiftProcesses_eq n k j
  rw [heq]

/-- The array changes like in `shiftDown`. -/
theorem shiftProcesses_processes (n : Nat) : ∀ (k : KernelState) (j : Nat),
    j + n < k.pm.processes.length →
      (shiftProcesses k j n).pm.processes = shiftDown k.pm.processes j n := by
  induction n with
  | zero => intro k j _; rfl
  | succ n ih =>
    intro k j hlen
    have hlt : j + 1 < k.pm.processes.length := by omega
    rw [shiftProcesses, shiftDown, List.getElem?_eq_getElem hlt]
    simp only []
    rw [ih _ _ (by simp only [KernelState.modify_pm, List.length_set]; omega)]
    rw [KernelState.modify_pm]
    simp only [List.getD_eq_getElem?_getD, List.getElem?_eq_getElem hlt, Option.getD_some]

/-- One turn of the loop: cell `j + 1` is copied to `j`, and its record numbered `j`. -/
def shiftOne (k : KernelState) (j : Nat) : KernelState :=
  ({ k with pm :=
      { k.pm with processes := k.pm.processes.set j (k.pm.processes.getD (j + 1) null) } }).modify
    (k.pm.processes.getD (j + 1) null) fun r => { r with pid := j }

theorem shiftProcesses_succ (k : KernelState) (j n : Nat) :
    shiftProcesses k j (n + 1) = shiftProcesses (shiftOne k j) (j + 1) n := rfl

theorem length_shiftOne (k : KernelState) (j : Nat) :
    (shiftOne k j).pm.processes.length = k.pm.processes.length := List.length_set ..

/-- The cells behind are as before. -/
theorem getElem?_shiftOne (k : KernelState) {j i : Nat} (h : j < i) :
    (shiftOne k j).pm.processes[i]? = k.pm.processes[i]? := List.getElem?_set_ne (by omega)

theorem shiftOne_mem_self {k : KernelState} {j : Nat} {q : ProcessPtr}
    (hq : k.pm.processes[j + 1]? = some q) : (shiftOne k j).mem q = { k.mem q with pid := j } := by
  unfold shiftOne
  rw [List.getD_eq_getElem?_getD, hq]
  exact KernelState.modify_mem_self ..

theorem shiftOne_mem_ne {k : KernelState} {j : Nat} (hlt : j + 1 < k.pm.processes.length)
    {q : ProcessPtr} (hq : k.pm.processes[j + 1]? ≠ some q) : (shiftOne k j).mem q = k.mem q := by
  refine KernelState.modify_mem_ne _ _ _ fun he => hq ?_
  rw [he, List.getD_eq_getElem?_getD, List.getElem?_eq_getElem hlt, Option.getD_some]

/-- A record that the loop does not move keeps its contents. -/
theorem shiftProcesses_mem_of_not_moved (q : ProcessPtr) (n : Nat) : ∀ (k : KernelState) (j : Nat),
    j + n < k.pm.processes.length →
      (∀ i, j ≤ i → i < j + n → k.pm.processes[i + 1]? ≠ some q) →
      (shiftProcesses k j n).mem q = k.mem q := by
  induction n with
  | zero => intro k j _ _; rfl
  | succ n ih =>
    intro k j hlen hq
    rw [shiftProcesses_succ, ih]
    · exact shiftOne_mem_ne (by omega) (hq j (Nat.le_refl j) (by omega))
    · rw [length_shiftOne]; omega
    · intro i hji hin
      rw [getElem?_shiftOne k (by omega)]
      exact hq i (by omega) (by omega)

/-- A record that is moved to cell `i` gets the number `i`, if no other cell points to it. -/
theorem shiftProcesses_mem_of_moved (q : ProcessPtr) (i : Nat) (n : Nat) :
    ∀ (k : KernelState) (j : Nat), j + n < k.pm.processes.length → j ≤ i → i < j + n →
      k.pm.processes[i + 1]? = some q →
      (∀ i', i' ≠ i → j ≤ i' → i' < j + n → k.pm.processes[i' + 1]? ≠ some q) →
      (shiftProcesses k j n).mem q = { k.mem q with pid := i } := by
  induction n with
  | zero => intro k j _ hji hin; omega
  | succ n ih =>
    intro k j hlen hji hin hq hother
    rw [shiftProcesses_succ]
    by_cases hi : i = j
    · -- this turn writes the record, the later ones leave it alone
      subst hi
      rw [shiftProcesses_mem_of_not_moved]
      · exact shiftOne_mem_self hq
      · rw [length_shiftOne]; omega
      · intro i' hji' hin'
        rw [getElem?_shiftOne k (by omega)]
        exact hother i' (by omega) (by omega) (by omega)
    · rw [ih]
      · rw [shiftOne_mem_ne (by omega) (hother j (Ne.symm hi) (Nat.le_refl j) (by omega))]
      · rw [length_shiftOne]; omega
      · omega
      · omega
      · rw [getElem?_shiftOne k (by omega)]
        exact hq
      · intro i' hne' hji' hin'
        rw [getElem?_shiftOne k (by omega)]
        exact hother i' hne' (by omega) (by omega)

/-! ## The table -/

/-- The used part of `pm.processes` is `l`. -/
structure Table (k : KernelState) (l : List ProcessPtr) : Prop where
  capacity : k.pm.processes.length = maxProcesses
  bound : k.pm.processCount ≤ maxProcesses
  used : k.pm.processes.take k.pm.processCount = l
  nodup : l.Nodup
  pids : ∀ i p, l[i]? = some p → (k.mem p).pid = i
  live : ∀ p, p ∈ l ↔ p ∈ k.live
  liveNodup : k.live.Nodup
  nonnull : null ∉ l

theorem Table.length {k : KernelState} {l : List ProcessPtr} (h : Table k l) :
    l.length = k.pm.processCount := by
  have hb := h.bound
  have hc := h.capacity
  rw [← h.used, List.length_take]
  omega

/-- After `process_init` the table is empty. -/
theorem table_processInit_boot : Table (processInit KernelState.boot) [] where
  capacity := List.length_replicate
  bound := Nat.zero_le _
  used := List.take_zero
  nodup := List.nodup_nil
  pids := by simp
  live := by intro p; exact Iff.rfl
  liveNodup := List.nodup_nil
  nonnull := by simp

/-- Each live record has a number below the count, and stands in that cell. -/
theorem Table.getElem?_pid {k : KernelState} {l : List ProcessPtr} (h : Table k l) {p : ProcessPtr}
    (hp : p ∈ k.live) : l[(k.mem p).pid]? = some p := by
  obtain ⟨i, hi, hip⟩ := List.mem_iff_getElem.mp ((h.live p).mpr hp)
  have hsome : l[i]? = some p := by rw [List.getElem?_eq_getElem hi, hip]
  rw [h.pids i p hsome]
  exact hsome

/-- Two live records with the same number are the same. -/
theorem Table.pid_inj {k : KernelState} {l : List ProcessPtr} (h : Table k l) {p q : ProcessPtr}
    (hp : p ∈ k.live) (hq : q ∈ k.live) (heq : (k.mem p).pid = (k.mem q).pid) : p = q := by
  have hpp := h.getElem?_pid hp
  rw [heq, h.getElem?_pid hq] at hpp
  exact (Option.some.inj hpp).symm

/-- **A successful `process_create` appends the new record.** -/
theorem Table.create {k : KernelState} {l : List ProcessPtr} (h : Table k l) {block : ProcessPtr}
    (hfresh : block ∉ k.live) (hblock : block ≠ null) (hcount : k.pm.processCount < maxProcesses)
    {r : Process} (hr : r.pid = k.pm.processCount) :
    Table (appendProcess k block r) (l ++ [block]) where
  capacity := by simpa [appendProcess, enterProcess] using h.capacity
  bound := hcount
  used := by
    show (k.pm.processes.set k.pm.processCount block).take (k.pm.processCount + 1) = _
    rw [take_set (by rw [h.capacity]; exact hcount), h.used]
  nodup := by
    rw [List.nodup_append]
    refine ⟨h.nodup, by simp, ?_⟩
    intro a ha b hb he
    rw [List.mem_singleton] at hb
    exact hfresh ((h.live block).mp (by rw [← hb, ← he]; exact ha))
  pids := by
    intro i p hp
    show (Function.update k.mem block r p).pid = i
    by_cases hi : i < l.length
    · rw [List.getElem?_append_left hi] at hp
      have hne : p ≠ block := by
        intro he
        exact hfresh ((h.live block).mp (he ▸ List.mem_of_getElem? hp))
      rw [Function.update_of_ne hne]
      exact h.pids i p hp
    · rw [List.getElem?_append_right (by omega)] at hp
      obtain ⟨hlt, hpe⟩ := List.getElem?_eq_some_iff.mp hp
      simp only [List.length_singleton] at hlt
      have hil : i = l.length := by omega
      simp only [List.getElem_singleton] at hpe
      rw [← hpe, Function.update_self, hr, hil, h.length]
  live := by
    intro p
    show p ∈ l ++ [block] ↔ p ∈ block :: k.live
    rw [List.mem_append, List.mem_singleton, List.mem_cons, h.live p]
    exact or_comm
  liveNodup := List.nodup_cons.mpr ⟨hfresh, h.liveNodup⟩
  nonnull := by
    simp only [List.mem_append, List.mem_singleton, not_or]
    exact ⟨h.nonnull, hblock.symm⟩

/-- What the table says depends on the manager, the live records and their numbers only. -/
theorem Table.congr {k k' : KernelState} {l : List ProcessPtr} (h : Table k l)
    (hproc : k'.pm.processes = k.pm.processes) (hcount : k'.pm.processCount = k.pm.processCount)
    (hlive : k'.live = k.live) (hpid : ∀ p ∈ k.live, (k'.mem p).pid = (k.mem p).pid) :
    Table k' l where
  capacity := by rw [hproc]; exact h.capacity
  bound := by rw [hcount]; exact h.bound
  used := by rw [hproc, hcount]; exact h.used
  nodup := h.nodup
  pids := by
    intro i p hp
    rw [hpid p ((h.live p).mp (List.mem_of_getElem? hp))]
    exact h.pids i p hp
  live := by rw [hlive]; exact h.live
  liveNodup := by rw [hlive]; exact h.liveNodup
  nonnull := h.nonnull

/-- Whatever `process_create` does, there is a table afterwards. -/
theorem Table.createProcess {k : KernelState} {l : List ProcessPtr} (h : Table k l)
    (name : Option (List UInt8)) (entry : UInt32) {block : ProcessPtr} (stack : UInt32)
    (hfresh : block ∉ k.live) : ∃ l', Table (createProcess k name entry block stack) l' := by
  rcases createProcess_cases k name entry block stack with ⟨-, heq | ⟨r, -, heq⟩⟩ | ⟨hok, nm, heq⟩
  · rw [heq]
    exact ⟨l, h⟩
  · rw [heq]
    refine ⟨l, h.congr rfl rfl rfl fun p hp => ?_⟩
    rw [KernelState.modify_mem_ne _ _ _ (fun he : p = block => hfresh (he ▸ hp))]
  · rw [heq]
    obtain ⟨-, -, -, hcount, hblock, -⟩ := hok
    exact ⟨_, h.create hfresh hblock hcount rfl⟩

/-- The record in cell `i` is removed by shifting from `i`. -/
theorem removeProcess_of_getElem? {k : KernelState} {l : List ProcessPtr} (h : Table k l)
    {p : ProcessPtr} {i : Nat} (hi : l[i]? = some p) :
    removeProcess k p =
      { shiftProcesses k i (k.pm.processCount - 1 - i) with
        pm :=
          { (shiftProcesses k i (k.pm.processCount - 1 - i)).pm with
            processCount := k.pm.processCount - 1 } } := by
  obtain ⟨hlt, hip⟩ := List.getElem?_eq_some_iff.mp hi
  have hfind : l.findIdx? (fun q => q == p) = some i := by
    rw [List.findIdx?_eq_some_iff_getElem]
    refine ⟨hlt, by simp [hip], ?_⟩
    intro j hji
    have hne : l[j] ≠ p := by
      intro he
      have := h.nodup.getElem_inj_iff.mp (Eq.trans he hip.symm)
      omega
    simpa using hne
  unfold removeProcess
  rw [h.used, hfind]
  simp only []
  rw [shiftProcesses_processCount]

/-- What `removeProcess` does to the record of another process: it may lower its number by one. -/
theorem removeProcess_mem {k : KernelState} {l : List ProcessPtr} (h : Table k l)
    {p q : ProcessPtr} {i j : Nat} (hi : l[i]? = some p) (hj : l[j]? = some q) :
    (removeProcess k p).mem q = { k.mem q with pid := if i < j then j - 1 else j } := by
  have hlen := h.length
  have hcap := h.capacity
  have hbound := h.bound
  obtain ⟨hilt, -⟩ := List.getElem?_eq_some_iff.mp hi
  obtain ⟨hjlt, hjq⟩ := List.getElem?_eq_some_iff.mp hj
  -- the cells of the array below the count are those of `l`
  have hcell : ∀ m, m < l.length → k.pm.processes[m]? = l[m]? := by
    intro m hm
    rw [← h.used, List.getElem?_take_of_lt (by omega)]
  have huniq : ∀ m, m < l.length → l[m]? = some q → m = j := by
    intro m hm hmq
    obtain ⟨_, hme⟩ := List.getElem?_eq_some_iff.mp hmq
    exact h.nodup.getElem_inj_iff.mp (Eq.trans hme hjq.symm)
  rw [removeProcess_of_getElem? h hi]
  show (shiftProcesses k i (k.pm.processCount - 1 - i)).mem q = _
  by_cases hlt : i < j
  · rw [if_pos hlt]
    refine shiftProcesses_mem_of_moved q (j - 1) _ k i (by omega) (by omega) (by omega) ?_ ?_
    · rw [show j - 1 + 1 = j by omega, hcell j hjlt]
      exact hj
    · intro m hm him hmlt hmq
      rw [hcell _ (by omega)] at hmq
      have := huniq _ (by omega) hmq
      omega
  · rw [if_neg hlt, shiftProcesses_mem_of_not_moved q _ k i (by omega) ?_]
    · rw [← h.pids j q hj]
    · intro m him hmlt hmq
      rw [hcell _ (by omega)] at hmq
      have := huniq _ (by omega) hmq
      omega

/-- After the removal from cell `i` the others are numbered by their new positions. -/
theorem removeProcess_pids {k : KernelState} {l : List ProcessPtr} (h : Table k l) {p : ProcessPtr}
    {i : Nat} (hi : l[i]? = some p) {j : Nat} {q : ProcessPtr} (hj : (l.eraseIdx i)[j]? = some q) :
    ((removeProcess k p).mem q).pid = j := by
  by_cases hji : j < i
  · rw [List.getElem?_eraseIdx_of_lt hji] at hj
    rw [removeProcess_mem h hi hj, if_neg (by omega)]
  · rw [List.getElem?_eraseIdx_of_ge (by omega)] at hj
    rw [removeProcess_mem h hi hj, if_pos (by omega)]
    rfl

theorem removeProcess_live (k : KernelState) (p : ProcessPtr) :
    (removeProcess k p).live = k.live := by
  unfold removeProcess
  split
  · rfl
  · exact shiftProcesses_live k _ _

/-- The table after a removal, when the process no longer exists. -/
theorem Table.removed {k : KernelState} {l : List ProcessPtr} (h : Table k l) {p : ProcessPtr}
    {i : Nat} (hi : l[i]? = some p) :
    Table { removeProcess k p with live := k.live.erase p } (l.eraseIdx i) := by
  have hlen := h.length
  have hcap := h.capacity
  have hbound := h.bound
  obtain ⟨hilt, hip⟩ := List.getElem?_eq_some_iff.mp hi
  have hproc := shiftProcesses_processes (k.pm.processCount - 1 - i) k i (by omega)
  have hpids := fun j q (hj : (l.eraseIdx i)[j]? = some q) => removeProcess_pids h hi hj
  rw [removeProcess_of_getElem? h hi] at hpids ⊢
  refine ⟨?_, ?_, ?_, ?_, hpids, ?_, ?_, ?_⟩
  · show (shiftProcesses k i _).pm.processes.length = _
    rw [hproc, length_shiftDown, hcap]
  · show k.pm.processCount - 1 ≤ _
    omega
  · show (shiftProcesses k i _).pm.processes.take (k.pm.processCount - 1) = _
    rw [hproc, take_shiftDown (by omega) (by omega), h.used]
  · exact h.nodup.sublist (List.eraseIdx_sublist l i)
  · intro q
    have herase : l.eraseIdx i = l.erase p := by rw [← hip, h.nodup.erase_getElem i hilt]
    show q ∈ l.eraseIdx i ↔ q ∈ k.live.erase p
    rw [herase, h.nodup.mem_erase_iff, h.liveNodup.mem_erase_iff, h.live q]
  · exact h.liveNodup.erase p
  · intro hn
    exact h.nonnull ((List.eraseIdx_sublist l i).subset hn)

theorem processDestroy_live (k : KernelState) (p : ProcessPtr) :
    (processDestroy k p).live = k.live := by
  unfold processDestroy
  split
  · rfl
  · simp only []
    split <;> exact removeProcess_live k p

theorem processDestroy_mem {k : KernelState} (hinit : k.pm.initialized = true) {p : ProcessPtr}
    (hp : p ≠ null) : (processDestroy k p).mem = (removeProcess k p).mem := by
  unfold processDestroy
  rw [if_neg (by simp [hinit, hp])]
  simp only []
  split <;> rfl

theorem processDestroy_initialized (k : KernelState) (p : ProcessPtr) :
    (processDestroy k p).pm.initialized = k.pm.initialized := by
  have hremove : (removeProcess k p).pm.initialized = k.pm.initialized := by
    unfold removeProcess
    split
    · rfl
    · exact shiftProcesses_initialized k _ _
  unfold processDestroy
  split
  · rfl
  · simp only []
    split <;> exact hremove

theorem destroyProcess_eq (k : KernelState) {p : ProcessPtr} (hp : p ≠ null) :
    destroyProcess k p = { processDestroy k p with live := k.live.erase p } := by
  unfold destroyProcess KernelState.noteDestroyed
  rw [if_neg hp, processDestroy_live]

/-- **`process_destroy` of a process in the table erases it and renumbers those behind it.** -/
theorem Table.destroy {k : KernelState} {l : List ProcessPtr} (h : Table k l)
    (hinit : k.pm.initialized = true) {p : ProcessPtr} {i : Nat} (hi : l[i]? = some p) :
    Table (destroyProcess k p) (l.eraseIdx i) := by
  have hpn : p ≠ null := fun he => h.nonnull (he ▸ List.mem_of_getElem? hi)
  rw [destroyProcess_eq k hpn]
  unfold processDestroy
  rw [if_neg (by simp [hinit, hpn])]
  simp only []
  -- `currentProcess` does not matter to the table
  split
  · exact (h.removed hi).congr rfl rfl rfl fun _ _ => rfl
  · exact h.removed hi

theorem Table.null_not_live {k : KernelState} {l : List ProcessPtr} (h : Table k l) :
    null ∉ k.live := fun hn => h.nonnull ((h.live null).mpr hn)

/-- **What `process_destroy` does to the other records**: numbers above go down by one. -/
theorem Table.destroy_mem {k : KernelState} {l : List ProcessPtr} (h : Table k l)
    (hinit : k.pm.initialized = true) {p q : ProcessPtr} (hp : p ∈ k.live) (hq : q ∈ k.live) :
    (destroyProcess k p).mem q =
      { k.mem q with
        pid := if (k.mem p).pid < (k.mem q).pid then (k.mem q).pid - 1 else (k.mem q).pid } := by
  have hpn : p ≠ null := fun he => h.null_not_live (he ▸ hp)
  rw [destroyProcess_eq k hpn]
  show (processDestroy k p).mem q = _
  rw [processDestroy_mem hinit hpn]
  exact removeProcess_mem h (h.getElem?_pid hp) (h.getElem?_pid hq)

theorem destroyProcess_live (k : KernelState) {p : ProcessPtr} (hp : p ≠ null) :
    (destroyProcess k p).live = k.live.erase p := by rw [destroyProcess_eq k hp]

theorem destroyProcess_initialized (k : KernelState) (p : ProcessPtr) :
    (destroyProcess k p).pm.initialized = k.pm.initialized := by
  rw [destroyProcess, KernelState.noteDestroyed_pm, processDestroy_initialized]

end MayaOs.Kernel
