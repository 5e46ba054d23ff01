import Mathlib.Data.List.Perm.Subperm
import MayaOs.Kernel.SemaphoreNodes
import MayaOs.Lib.LinkedList
import MayaOs.Lib.Run

/-!
# Who frees the waiter entries of a semaphore

A process that resumes in `semaphore_wait` takes its own entry out of the list and frees it.
`semaphore_destroy` frees all the entries as well, and wakes their owners, which then look for them.

* `entriesSafe_iff_destroySpares` — every resuming process finds its entry, and no section reads
  through `NULL` or a freed entry or frees one twice, iff no call of `semaphore_destroy` finds the
  entry of a process that has been suspended
* `destroy_under_waiter` — the process that resumes reads through `NULL`
-/

namespace MayaOs.Kernel

open MayaOs.Lib

/-! ## The property -/

def NodeSemaphore.next (sem : NodeSemaphore) (waiter : WaiterPtr) : WaiterPtr :=
  (sem.mem waiter).next

/-- The entry `waiter` is in the list, in use, and `p`'s own. -/
def HasEntry (s : NodeSystem) (p : ProcessPtr) (waiter : WaiterPtr) : Prop :=
  ∃ l, Chain null s.sem.next s.sem.waiters l ∧ waiter ∈ l ∧ waiter ∈ s.sem.allocated ∧
    (s.sem.mem waiter).process = p

/-- There has been no fault, and each process that is to resume will find its entry. -/
structure EntriesSafe (s : NodeSystem) : Prop where
  fault : s.fault = none
  own : ∀ p waiter, s.phase p = .woken waiter → HasEntry s p waiter

/-- `semaphore_destroy` finds no entry of a process that `process_block` has suspended. -/
def DestroySpares (s : NodeSystem) (a : NodeAction) (_ : NodeSystem) : Prop :=
  a = .destroy → ∀ p waiter, s.phase p = .blocked waiter ∨ s.phase p = .woken waiter →
    ¬ HasEntry s p waiter

/-! ## Lists in memory -/

/-- The list of the semaphore consists of the entries `l`, none of which has been freed. -/
structure WaiterList (sem : NodeSemaphore) (l : List WaiterPtr) : Prop where
  chain : Chain null sem.next sem.waiters l
  nodup : l.Nodup
  allocated : ∀ n ∈ l, n ∈ sem.allocated

/-- The loops get enough turns. -/
theorem WaiterList.length_lt_turns {sem : NodeSemaphore} {l : List WaiterPtr}
    (h : WaiterList sem l) : l.length < sem.turns :=
  Nat.lt_succ_of_le (List.subperm_of_subset h.nodup h.allocated).length_le

theorem NodeSemaphore.deref_of_mem {sem : NodeSemaphore} {n : WaiterPtr} (hne : n ≠ null)
    (hin : n ∈ sem.allocated) : sem.deref n = .ok (sem.mem n) := by
  unfold NodeSemaphore.deref
  rw [if_neg hne, if_neg (not_not.mpr hin)]

theorem WaiterList.deref {sem : NodeSemaphore} {l : List WaiterPtr} (h : WaiterList sem l)
    {n : WaiterPtr} (hn : n ∈ l) : sem.deref n = .ok (sem.mem n) :=
  NodeSemaphore.deref_of_mem (h.chain.ne_null n hn) (h.allocated n hn)

@[simp] theorem NodeSemaphore.setNext_waiters (sem : NodeSemaphore) (node next : WaiterPtr) :
    (sem.setNext node next).waiters = sem.waiters := rfl

@[simp] theorem NodeSemaphore.setNext_allocated (sem : NodeSemaphore) (node next : WaiterPtr) :
    (sem.setNext node next).allocated = sem.allocated := rfl

theorem NodeSemaphore.setNext_next (sem : NodeSemaphore) (node next : WaiterPtr) :
    (sem.setNext node next).next = Function.update sem.next node next := by
  funext x
  exact Function.apply_update (fun _ (r : SemaphoreWaiter) => r.next) sem.mem node _ x

/-- Only the `next` field is written. -/
theorem NodeSemaphore.setNext_process (sem : NodeSemaphore) (node next x : WaiterPtr) :
    ((sem.setNext node next).mem x).process = (sem.mem x).process := by
  show (Function.update sem.mem node _ x).process = _
  rcases eq_or_ne x node with rfl | hne
  · rw [Function.update_self]
  · rw [Function.update_of_ne hne]

/-! ### Walks -/

/-- **The walk to the last entry.** -/
theorem findLast_eq {sem : NodeSemaphore} {a : WaiterPtr} : ∀ {pre : List WaiterPtr} {n : Nat}
    {q : WaiterPtr}, Chain null sem.next q (pre ++ [a]) → (∀ x ∈ pre ++ [a], x ∈ sem.allocated) →
      pre.length < n → sem.findLast n q = .ok a := by
  intro pre
  induction pre with
  | nil =>
    intro n q h halloc hn
    obtain ⟨n, rfl⟩ : ∃ m, n = m + 1 := ⟨n - 1, by simp at hn; omega⟩
    obtain ⟨rfl, hne, hend⟩ := h
    rw [NodeSemaphore.findLast, NodeSemaphore.deref_of_mem hne (halloc _ (by simp))]
    show (if (sem.mem q).next = null then _ else _) = _
    rw [if_pos (show (sem.mem q).next = null from hend)]
  | cons c pre ih =>
    intro n q h halloc hn
    obtain ⟨n, rfl⟩ : ∃ m, n = m + 1 := ⟨n - 1, by simp at hn; omega⟩
    obtain ⟨rfl, hne, hrest⟩ := h
    have hnext : (sem.mem q).next ≠ null := by
      intro he
      exact absurd ((hrest.eq_nil_iff).mpr he) (by simp)
    rw [NodeSemaphore.findLast, NodeSemaphore.deref_of_mem hne (halloc _ (by simp))]
    show (if (sem.mem q).next = null then _ else _) = _
    rw [if_neg hnext]
    exact ih hrest (fun x hx => halloc x (List.mem_cons_of_mem _ hx)) (by simpa using hn)

/-- **The walk to the entry before `b`.** -/
theorem findPrev_eq {sem : NodeSemaphore} {a b : WaiterPtr} {post : List WaiterPtr} :
    ∀ {pre : List WaiterPtr} {n : Nat} {q : WaiterPtr},
      Chain null sem.next q (pre ++ a :: b :: post) → (pre ++ a :: b :: post).Nodup →
      (∀ x ∈ pre ++ a :: b :: post, x ∈ sem.allocated) → pre.length < n →
        sem.findPrev b n q = .ok a := by
  intro pre
  induction pre with
  | nil =>
    intro n q h hnodup halloc hn
    obtain ⟨n, rfl⟩ : ∃ m, n = m + 1 := ⟨n - 1, by simp at hn; omega⟩
    have hnext : (sem.mem a).next = b := by
      rw [List.nil_append] at h
      exact h.2.2.1
    obtain ⟨rfl, hne, -⟩ := h
    rw [NodeSemaphore.findPrev, NodeSemaphore.deref_of_mem hne (halloc _ (by simp))]
    show (if (sem.mem q).next = b then _ else _) = _
    rw [if_pos hnext]
  | cons c pre ih =>
    intro n q h hnodup halloc hn
    obtain ⟨n, rfl⟩ : ∃ m, n = m + 1 := ⟨n - 1, by simp at hn; omega⟩
    obtain ⟨rfl, hne, hrest⟩ := h
    obtain ⟨-, hnodup'⟩ := List.nodup_cons.mp hnodup
    -- the entry behind `q` is before `b`
    have hnext : (sem.mem q).next ≠ b := by
      intro he
      have hb : b ≠ null := hrest.ne_null b (by simp)
      have hhead := hrest.head?_eq (by rw [show sem.next q = b from he]; exact hb)
      rw [show sem.next q = b from he] at hhead
      cases pre with
      | nil =>
        obtain rfl : a = b := by simpa using hhead
        simp at hnodup'
      | cons d pre =>
        obtain rfl : d = b := by simpa using hhead
        simp at hnodup'
    rw [NodeSemaphore.findPrev, NodeSemaphore.deref_of_mem hne (halloc _ (by simp))]
    show (if (sem.mem q).next = b then _ else _) = _
    rw [if_neg hnext]
    exact ih hrest hnodup' (fun x hx => halloc x (List.mem_cons_of_mem _ hx)) (by simpa using hn)

/-! ### Sections -/

theorem createWaiter_mem_self (sem : NodeSemaphore) (p : ProcessPtr) (waiter : WaiterPtr) :
    (createWaiter sem p waiter).mem waiter = { process := p, next := null } :=
  Function.update_self ..

theorem createWaiter_mem_ne (sem : NodeSemaphore) (p : ProcessPtr) {waiter x : WaiterPtr}
    (hx : x ≠ waiter) : (createWaiter sem p waiter).mem x = sem.mem x :=
  Function.update_of_ne hx ..

/-- A new entry is in no list. -/
theorem WaiterList.create {sem : NodeSemaphore} {l : List WaiterPtr} (h : WaiterList sem l)
    {waiter : WaiterPtr} (hfresh : waiter ∉ sem.allocated) (p : ProcessPtr) :
    WaiterList (createWaiter sem p waiter) l where
  chain := h.chain.congr fun x hx =>
    congrArg SemaphoreWaiter.next
      (createWaiter_mem_ne sem p fun he => hfresh (he ▸ h.allocated x hx))
  nodup := h.nodup
  allocated := fun x hx => List.mem_cons_of_mem _ (h.allocated x hx)

/-- "Add to waiter list". -/
theorem WaiterList.append {sem : NodeSemaphore} {l : List WaiterPtr} (h : WaiterList sem l)
    {waiter : WaiterPtr} (hne : waiter ≠ null) (hnot : waiter ∉ l) (hin : waiter ∈ sem.allocated)
    (hend : (sem.mem waiter).next = null) :
    ∃ sem', appendWaiter sem waiter = .ok sem' ∧ WaiterList sem' (l ++ [waiter]) ∧
      ∀ x, (sem'.mem x).process = (sem.mem x).process := by
  have hnodup : (l ++ [waiter]).Nodup := by
    rw [List.nodup_append]
    refine ⟨h.nodup, by simp, ?_⟩
    rintro a ha b hb rfl
    exact hnot (List.mem_singleton.mp hb ▸ ha)
  have halloc : ∀ x ∈ l ++ [waiter], x ∈ sem.allocated := by
    intro x hx
    rcases List.mem_append.mp hx with hx | hx
    · exact h.allocated x hx
    · rw [List.mem_singleton.mp hx]
      exact hin
  unfold appendWaiter
  rcases List.eq_nil_or_concat l with rfl | ⟨pre, a, rfl⟩
  · rw [if_pos (show sem.waiters = null from h.chain)]
    exact ⟨_, rfl, ⟨⟨rfl, hne, hend⟩, hnodup, halloc⟩, fun x => rfl⟩
  · rw [List.concat_eq_append] at h hnot hnodup halloc ⊢
    have hfind : sem.findLast sem.turns sem.waiters = .ok a := by
      refine findLast_eq h.chain h.allocated ?_
      have hlt := h.length_lt_turns
      rw [List.length_append] at hlt
      omega
    rw [if_neg (fun he => absurd (h.chain.eq_nil_iff.mpr he) (by simp)), hfind]
    refine ⟨sem.setNext a waiter, rfl, ⟨?_, hnodup, halloc⟩, fun x => sem.setNext_process a _ x⟩
    rw [NodeSemaphore.setNext_next]
    exact Chain.append hne h.chain h.nodup (by simp) hnot hend

/-- "Remove from waiter list" takes an entry of the list out of it. -/
theorem WaiterList.unlink {sem : NodeSemaphore} {l : List WaiterPtr} (h : WaiterList sem l)
    {n : WaiterPtr} (hn : n ∈ l) :
    ∃ sem', unlinkWaiter sem n = .ok sem' ∧ sem'.allocated = sem.allocated ∧
      Chain null sem'.next sem'.waiters (l.erase n) ∧
      ∀ x, (sem'.mem x).process = (sem.mem x).process := by
  have hderef := h.deref hn
  obtain ⟨hchain, hnodup, halloc⟩ := h
  obtain ⟨front, post, rfl⟩ := List.append_of_mem hn
  have hfront : n ∉ front := by
    intro hin
    exact (List.nodup_append.mp hnodup).2.2 n hin n List.mem_cons_self rfl
  rw [List.erase_append_right _ hfront, List.erase_cons_head]
  unfold unlinkWaiter
  rcases List.eq_nil_or_concat front with rfl | ⟨pre, a, rfl⟩
  · obtain ⟨hhead, -, hrest⟩ := hchain
    rw [if_pos hhead, hderef]
    exact ⟨_, rfl, rfl, hrest, fun x => rfl⟩
  · simp only [List.concat_eq_append, List.append_assoc, List.singleton_append] at hchain hnodup halloc hfront ⊢
    have hne : sem.waiters ≠ n := by
      intro he
      have hhead := hchain.head?_eq (by rw [he]; exact hchain.ne_null n (by simp))
      rw [he] at hhead
      cases pre with
      | nil =>
        obtain rfl : a = n := by simpa using hhead
        exact hfront (by simp)
      | cons d pre =>
        obtain rfl : d = n := by simpa using hhead
        exact hfront (by simp)
    have hfind : sem.findPrev n sem.turns sem.waiters = .ok a := by
      refine findPrev_eq hchain hnodup halloc ?_
      have hlt := WaiterList.length_lt_turns ⟨hchain, hnodup, halloc⟩
      rw [List.length_append] at hlt
      omega
    rw [if_neg hne, hfind]
    show ∃ sem', (do let entry ← sem.deref n; .ok (sem.setNext a entry.next)) = .ok sem' ∧ _
    rw [hderef]
    refine ⟨sem.setNext a (sem.mem n).next, rfl, rfl, ?_, fun x => sem.setNext_process a _ x⟩
    rw [NodeSemaphore.setNext_next]
    exact hchain.unlink hnodup

/-- **A process that finds its entry takes it out and frees it.** -/
theorem WaiterList.leave {sem : NodeSemaphore} {l : List WaiterPtr} (h : WaiterList sem l)
    {n : WaiterPtr} (hn : n ∈ l) :
    ∃ sem', nodeWaitLeave sem n = .ok sem' ∧ WaiterList sem' (l.erase n) ∧
      ∀ x, (sem'.mem x).process = (sem.mem x).process := by
  obtain ⟨mid, hmid, halloc, hchain, hprocess⟩ := h.unlink hn
  have hfree : mid.free n = .ok { mid with allocated := mid.allocated.erase n } := by
    unfold NodeSemaphore.free
    rw [if_neg (not_not.mpr (by rw [halloc]; exact h.allocated n hn))]
  refine ⟨{ mid with allocated := mid.allocated.erase n }, ?_, ⟨hchain, h.nodup.erase n, ?_⟩, hprocess⟩
  · unfold nodeWaitLeave
    rw [hmid]
    exact hfree
  · intro x hx
    obtain ⟨hxn, hxl⟩ := h.nodup.mem_erase_iff.mp hx
    show x ∈ mid.allocated.erase n
    rw [halloc, List.mem_erase_of_ne hxn]
    exact h.allocated x hxl

theorem destroyLoop_eq : ∀ {l : List WaiterPtr} {n : Nat} {sem : NodeSemaphore} {q : WaiterPtr},
    Chain null sem.next q l → l.Nodup → (∀ x ∈ l, x ∈ sem.allocated) → l.length < n →
      ∃ sem', destroyLoop n sem q = .ok (l.map fun x => (sem.mem x).process, sem') := by
  intro l
  induction l with
  | nil =>
    intro n sem q h _ _ hn
    obtain ⟨n, rfl⟩ : ∃ m, n = m + 1 := ⟨n - 1, by simp at hn; omega⟩
    exact ⟨sem, by rw [destroyLoop, if_pos (show q = null from h)]; rfl⟩
  | cons a l ih =>
    intro n sem q h hnodup halloc hn
    obtain ⟨n, rfl⟩ : ∃ m, n = m + 1 := ⟨n - 1, by simp at hn; omega⟩
    obtain ⟨rfl, hne, hrest⟩ := h
    obtain ⟨hnot, hnodup'⟩ := List.nodup_cons.mp hnodup
    have hin := halloc q List.mem_cons_self
    have hfree : sem.free q = .ok { sem with allocated := sem.allocated.erase q } := by
      unfold NodeSemaphore.free
      rw [if_neg (not_not.mpr hin)]
    have hothers : ∀ x ∈ l, x ∈ sem.allocated.erase q := by
      intro x hx
      rw [List.mem_erase_of_ne (fun he : x = q => hnot (he ▸ hx))]
      exact halloc x (List.mem_cons_of_mem _ hx)
    obtain ⟨sem', hloop⟩ : ∃ sem', destroyLoop n
        { sem with allocated := sem.allocated.erase q } (sem.mem q).next
          = .ok (l.map fun x => (sem.mem x).process, sem') :=
      ih hrest hnodup' hothers (by simpa using hn)
    refine ⟨sem', ?_⟩
    simp only [destroyLoop, if_neg hne, NodeSemaphore.deref_of_mem hne hin, hfree, hloop, bind,
      Except.bind]
    rfl

/-- **`semaphore_destroy` frees each entry once and wakes its owner.** -/
theorem WaiterList.destroy {sem : NodeSemaphore} {l : List WaiterPtr} (h : WaiterList sem l) :
    ∃ sem', nodeDestroy sem = .ok (l.map fun x => (sem.mem x).process, sem') ∧
      WaiterList sem' [] := by
  obtain ⟨mid, hloop⟩ := destroyLoop_eq h.chain h.nodup h.allocated h.length_lt_turns
  unfold nodeDestroy
  rw [hloop]
  exact ⟨_, rfl, rfl, List.nodup_nil, by simp⟩

theorem WaiterList.congr {sem sem' : NodeSemaphore} {l : List WaiterPtr} (h : WaiterList sem l)
    (hwaiters : sem'.waiters = sem.waiters) (hmem : sem'.mem = sem.mem)
    (halloc : sem'.allocated = sem.allocated) : WaiterList sem' l where
  chain := by
    have hnext : sem'.next = sem.next := by
      unfold NodeSemaphore.next
      rw [hmem]
    rw [hwaiters, hnext]
    exact h.chain
  nodup := h.nodup
  allocated := by rw [halloc]; exact h.allocated

/-- **`semaphore_signal` wakes the owner of the first entry.** -/
theorem WaiterList.signal {sem : NodeSemaphore} {l : List WaiterPtr} (h : WaiterList sem l) :
    nodeSignal sem = .ok ((l.take 1).map fun x => (sem.mem x).process,
      { sem with value := int32 (sem.value + 1) }) := by
  have h' : WaiterList { sem with value := int32 (sem.value + 1) } l := h.congr rfl rfl rfl
  unfold nodeSignal
  simp only []
  cases l with
  | nil => rw [if_pos (show sem.waiters = null from h.chain)]; rfl
  | cons n l =>
    have hderef := h'.deref List.mem_cons_self
    obtain ⟨rfl, hne, -⟩ := h.chain
    rw [if_neg hne, hderef]
    rfl

/-! ## The invariant -/

/-- The entry of a process that is in `semaphore_wait`. -/
def WaiterPhase.waiter : WaiterPhase → Option WaiterPtr
  | .outside => none
  | .enqueued waiter => some waiter
  | .blocked waiter => some waiter
  | .woken waiter => some waiter

theorem WaiterPhase.wake_wake (phase : WaiterPhase) : phase.wake.wake = phase.wake := by
  cases phase <;> rfl

@[simp] theorem WaiterPhase.wake_waiter (phase : WaiterPhase) : phase.wake.waiter = phase.waiter := by
  cases phase <;> rfl

theorem foldl_wakeWaiter_apply (q : ProcessPtr) : ∀ (l : List ProcessPtr)
    (phase : ProcessPtr → WaiterPhase),
    l.foldl wakeWaiter phase q = if q ∈ l then (phase q).wake else phase q := by
  intro l
  induction l with
  | nil => intro phase; rfl
  | cons p l ih =>
    intro phase
    rw [List.foldl_cons, ih]
    rcases eq_or_ne q p with rfl | hne
    · rw [if_pos List.mem_cons_self, wakeWaiter, Function.update_self, WaiterPhase.wake_wake,
        ite_self]
    · rw [wakeWaiter, Function.update_of_ne hne]
      simp only [List.mem_cons, hne, false_or]

/-- The entries in the list are `l`. Each belongs to the process that says so, and no process has
been woken that has none. -/
structure EntryInv (s : NodeSystem) (l : List WaiterPtr) : Prop where
  fault : s.fault = none
  list : WaiterList s.sem l
  owners : ∀ n ∈ l, (s.phase (s.sem.mem n).process).waiter = some n
  woken : ∀ p n, s.phase p = .woken n → n ∈ l ∧ (s.sem.mem n).process = p

theorem EntryInv.hasEntry_iff {s : NodeSystem} {l : List WaiterPtr} (h : EntryInv s l)
    (p : ProcessPtr) (n : WaiterPtr) : HasEntry s p n ↔ n ∈ l ∧ (s.sem.mem n).process = p := by
  constructor
  · rintro ⟨l', hchain, hn, -, hp⟩
    rw [← h.list.chain.unique hchain] at hn
    exact ⟨hn, hp⟩
  · rintro ⟨hn, hp⟩
    exact ⟨l, h.list.chain, hn, h.list.allocated n hn, hp⟩

theorem EntryInv.safe {s : NodeSystem} {l : List WaiterPtr} (h : EntryInv s l) : EntriesSafe s where
  fault := h.fault
  own := fun p n hp => (h.hasEntry_iff p n).mpr (h.woken p n hp)

theorem entryInv_boot (value : Int) : EntryInv (NodeSystem.boot value) [] where
  fault := rfl
  list := ⟨rfl, List.nodup_nil, by simp⟩
  owners := by simp
  woken := by intro p n h; cases h

/-- A process outside of `semaphore_wait` owns no entry. -/
theorem EntryInv.not_owner {s : NodeSystem} {l : List WaiterPtr} (h : EntryInv s l)
    {p : ProcessPtr} (hp : (s.phase p).waiter = none) {n : WaiterPtr} (hn : n ∈ l) :
    (s.sem.mem n).process ≠ p := by
  intro he
  have howner := h.owners n hn
  rw [he, hp] at howner
  cases howner

/-- A section that leaves the list and the phases alone. -/
theorem EntryInv.congr {s : NodeSystem} {l : List WaiterPtr} (h : EntryInv s l)
    {sem : NodeSemaphore} (hwaiters : sem.waiters = s.sem.waiters) (hmem : sem.mem = s.sem.mem)
    (halloc : sem.allocated = s.sem.allocated) : EntryInv { s with sem := sem } l where
  fault := h.fault
  list := h.list.congr hwaiters hmem halloc
  owners := by
    show ∀ n ∈ l, (s.phase (sem.mem n).process).waiter = some n
    rw [hmem]
    exact h.owners
  woken := by
    show ∀ p n, s.phase p = .woken n → n ∈ l ∧ (sem.mem n).process = p
    rw [hmem]
    exact h.woken

/-! ### Sections -/

/-- **A process puts its entry into the list.** -/
theorem EntryInv.enqueue {s : NodeSystem} {l : List WaiterPtr} (h : EntryInv s l) {p : ProcessPtr}
    (hp : s.phase p = .outside) {waiter : WaiterPtr} (hne : waiter ≠ null)
    (hfresh : waiter ∉ s.sem.allocated) :
    ∃ sem, appendWaiter (createWaiter s.sem p waiter) waiter = .ok sem ∧
      EntryInv { s with sem := sem, phase := Function.update s.phase p (.enqueued waiter) }
        (l ++ [waiter]) := by
  have hnot : waiter ∉ l := fun hin => hfresh (h.list.allocated waiter hin)
  have hself := createWaiter_mem_self s.sem p waiter
  obtain ⟨sem, hok, hlist, hprocess⟩ := (h.list.create hfresh p).append hne hnot
    List.mem_cons_self (by rw [hself])
  have hold : ∀ n ∈ l, (sem.mem n).process = (s.sem.mem n).process := by
    intro n hn
    rw [hprocess, createWaiter_mem_ne s.sem p fun he : n = waiter => hnot (he ▸ hn)]
  have hnew : (sem.mem waiter).process = p := by rw [hprocess, hself]
  refine ⟨sem, hok, h.fault, hlist, ?_, ?_⟩
  · intro n hn
    show (Function.update s.phase p _ (sem.mem n).process).waiter = some n
    rcases List.mem_append.mp hn with hn | hn
    · rw [hold n hn, Function.update_of_ne (h.not_owner (by rw [hp]; rfl) hn)]
      exact h.owners n hn
    · rw [List.mem_singleton.mp hn, hnew, Function.update_self]
      rfl
  · intro q n hq
    have hq' : Function.update s.phase p (.enqueued waiter) q = .woken n := hq
    rcases eq_or_ne q p with rfl | hqp
    · rw [Function.update_self] at hq'
      cases hq'
    · rw [Function.update_of_ne hqp] at hq'
      obtain ⟨hn, howner⟩ := h.woken q n hq'
      exact ⟨List.mem_append_left _ hn, by rw [hold n hn]; exact howner⟩

/-- **A process that resumes takes its entry out of the list.** -/
theorem EntryInv.leave {s : NodeSystem} {l : List WaiterPtr} (h : EntryInv s l) {p : ProcessPtr}
    {waiter : WaiterPtr} (hp : s.phase p = .woken waiter) :
    ∃ sem, nodeWaitLeave s.sem waiter = .ok sem ∧
      EntryInv { s with sem := sem, phase := Function.update s.phase p .outside }
        (l.erase waiter) := by
  obtain ⟨hin, howner⟩ := h.woken p waiter hp
  obtain ⟨sem, hok, hlist, hprocess⟩ := h.list.leave hin
  -- the other entries are those of other processes
  have hother : ∀ n ∈ l.erase waiter, n ∈ l ∧ (s.sem.mem n).process ≠ p := by
    intro n hn
    obtain ⟨hne, hnl⟩ := h.list.nodup.mem_erase_iff.mp hn
    refine ⟨hnl, fun he => hne ?_⟩
    have hn' := h.owners n hnl
    rw [he, hp] at hn'
    exact (Option.some.inj hn').symm
  refine ⟨sem, hok, h.fault, hlist, ?_, ?_⟩
  · intro n hn
    show (Function.update s.phase p _ (sem.mem n).process).waiter = some n
    obtain ⟨hnl, hnp⟩ := hother n hn
    rw [hprocess, Function.update_of_ne hnp]
    exact h.owners n hnl
  · intro q n hq
    have hq' : Function.update s.phase p .outside q = .woken n := hq
    rcases eq_or_ne q p with rfl | hqp
    · rw [Function.update_self] at hq'
      cases hq'
    · rw [Function.update_of_ne hqp] at hq'
      obtain ⟨hn, hq₁⟩ := h.woken q n hq'
      refine ⟨h.list.nodup.mem_erase_iff.mpr ⟨?_, hn⟩, by rw [hprocess]; exact hq₁⟩
      rintro rfl
      exact hqp (hq₁.symm.trans howner)

/-- **Waking the owners of entries that stay in the list.** -/
theorem EntryInv.wake {s : NodeSystem} {l : List WaiterPtr} (h : EntryInv s l)
    {nodes : List WaiterPtr} (hsub : ∀ n ∈ nodes, n ∈ l) :
    EntryInv { s with phase := (nodes.map fun n => (s.sem.mem n).process).foldl wakeWaiter s.phase }
      l := by
  have hphase : ∀ q, (nodes.map fun n => (s.sem.mem n).process).foldl wakeWaiter s.phase q
      = if q ∈ nodes.map (fun n => (s.sem.mem n).process) then (s.phase q).wake else s.phase q :=
    fun q => foldl_wakeWaiter_apply q _ s.phase
  refine ⟨h.fault, h.list, ?_, ?_⟩
  · intro n hn
    show (List.foldl wakeWaiter s.phase _ _).waiter = some n
    rw [hphase]
    split
    · rw [WaiterPhase.wake_waiter]
      exact h.owners n hn
    · exact h.owners n hn
  · intro q n hq
    have hq' : (nodes.map fun n => (s.sem.mem n).process).foldl wakeWaiter s.phase q = .woken n := hq
    rw [hphase] at hq'
    split at hq'
    · next hmem =>
      obtain ⟨m, hm, rfl⟩ := List.mem_map.mp hmem
      -- the process that is woken is the owner of `m`, so `m` is its entry
      have howner := h.owners m (hsub m hm)
      rw [← WaiterPhase.wake_waiter, hq'] at howner
      obtain rfl : n = m := Option.some.inj howner
      exact ⟨hsub n hm, rfl⟩
    · exact h.woken q n hq'

/-- `process_block`. -/
theorem EntryInv.block {s : NodeSystem} {l : List WaiterPtr} (h : EntryInv s l) {p : ProcessPtr}
    {waiter : WaiterPtr} (hp : s.phase p = .enqueued waiter) :
    EntryInv { s with phase := Function.update s.phase p (.blocked waiter) } l := by
  refine ⟨h.fault, h.list, ?_, ?_⟩
  · intro n hn
    have howner := h.owners n hn
    show (Function.update s.phase p _ _).waiter = some n
    rcases eq_or_ne (s.sem.mem n).process p with he | hne
    · rw [he, Function.update_self]
      rw [he, hp] at howner
      exact howner
    · rw [Function.update_of_ne hne]
      exact howner
  · intro q n hq
    have hq' : Function.update s.phase p (.blocked waiter) q = .woken n := hq
    rcases eq_or_ne q p with rfl | hqp
    · rw [Function.update_self] at hq'
      cases hq'
    · rw [Function.update_of_ne hqp] at hq'
      exact h.woken q n hq'

/-- The system after `semaphore_destroy`, which has left the list empty. -/
theorem EntryInv.destroy {s : NodeSystem} {l : List WaiterPtr} (h : EntryInv s l)
    {sem : NodeSemaphore} (hsem : WaiterList sem []) {t : NodeSystem}
    (ht : t = { s with
      sem := sem
      phase := (l.map fun n => (s.sem.mem n).process).foldl wakeWaiter s.phase }) :
    (EntriesSafe t ↔ DestroySpares s .destroy t) ∧
      (DestroySpares s .destroy t → EntryInv t []) := by
  have hphase : ∀ q, t.phase q
      = if q ∈ l.map (fun n => (s.sem.mem n).process) then (s.phase q).wake else s.phase q := by
    intro q
    rw [ht]
    exact foldl_wakeWaiter_apply q _ s.phase
  have hlist : WaiterList t.sem [] := by rw [ht]; exact hsem
  have hspares : DestroySpares s .destroy t → EntryInv t [] := by
    intro hs
    refine ⟨by rw [ht]; exact h.fault, hlist, by simp, ?_⟩
    intro q n hq
    rw [hphase] at hq
    exfalso
    split at hq
    · next hmem =>
      obtain ⟨m, hm, rfl⟩ := List.mem_map.mp hmem
      have howner := h.owners m hm
      rw [← WaiterPhase.wake_waiter, hq] at howner
      obtain rfl : n = m := Option.some.inj howner
      refine hs rfl _ n ?_ ((h.hasEntry_iff _ n).mpr ⟨hm, rfl⟩)
      -- only a process past `process_block` is woken after `process_wake`
      cases hp : s.phase (s.sem.mem n).process with
      | blocked w => rw [hp] at hq; cases hq; exact Or.inl rfl
      | woken w => rw [hp] at hq; cases hq; exact Or.inr rfl
      | outside => rw [hp] at hq; cases hq
      | enqueued w => rw [hp] at hq; cases hq
    · exact hs rfl q n (Or.inr hq) ((h.hasEntry_iff q n).mpr (h.woken q n hq))
  refine ⟨⟨?_, fun hs => (hspares hs).safe⟩, hspares⟩
  intro hsafe _ p waiter hp hentry
  obtain ⟨hin, howner⟩ := (h.hasEntry_iff p waiter).mp hentry
  have hwoken : t.phase p = .woken waiter := by
    rw [hphase, if_pos (List.mem_map.mpr ⟨waiter, hin, howner⟩)]
    rcases hp with hp | hp <;> rw [hp] <;> rfl
  obtain ⟨l', hchain, hin', -⟩ := hsafe.own p waiter hwoken
  rw [← hlist.chain.unique hchain] at hin'
  cases hin'

/-! ## Steps -/

/-- A section other than `semaphore_destroy`. -/
theorem safe_iff_of_entryInv {s t : NodeSystem} {a : NodeAction} {l : List WaiterPtr}
    (ha : a ≠ .destroy) (h : EntryInv t l) :
    (EntriesSafe t ↔ DestroySpares s a t) ∧ (DestroySpares s a t → ∃ l, EntryInv t l) :=
  ⟨⟨fun _ he => absurd he ha, fun _ => h.safe⟩, fun _ => ⟨l, h⟩⟩

theorem EntryInv.wait_step {s t : NodeSystem} {l : List WaiterPtr} (h : EntryInv s l)
    {p : ProcessPtr} {waiter : WaiterPtr} (hs : nodeStep s (.wait p waiter) = some t) :
    ∃ l, EntryInv t l := by
  unfold nodeStep at hs
  rw [if_neg (by rw [h.fault]; simp)] at hs
  dsimp only at hs
  split at hs
  · cases hs
  · next hp =>
    rw [← Option.some.inj hs]
    simp only [not_or, not_not] at hp
    unfold nodeWaitEnter
    split
    · exact ⟨l, h.congr rfl rfl rfl⟩
    · split
      · exact ⟨l, h⟩
      · next hne =>
        obtain ⟨sem, hok, hinv⟩ := h.enqueue hp.1 hne hp.2
        rw [hok]
        exact ⟨_, hinv⟩

/-- **Each section**: it is safe iff it is not a `semaphore_destroy` under a waiter. -/
theorem entryInv_step {s t : NodeSystem} {a : NodeAction} {l : List WaiterPtr} (h : EntryInv s l)
    (hs : nodeStep s a = some t) :
    (EntriesSafe t ↔ DestroySpares s a t) ∧ (DestroySpares s a t → ∃ l, EntryInv t l) := by
  cases a with
  | wait p waiter =>
    obtain ⟨l', h'⟩ := h.wait_step hs
    exact safe_iff_of_entryInv (by simp) h'
  | block p =>
    unfold nodeStep at hs
    rw [if_neg (by rw [h.fault]; simp)] at hs
    simp only [] at hs
    split at hs
    · next waiter hp =>
      cases hs
      exact safe_iff_of_entryInv (by simp) (h.block hp)
    · cases hs
  | leave p =>
    unfold nodeStep at hs
    rw [if_neg (by rw [h.fault]; simp)] at hs
    simp only [] at hs
    split at hs
    · next waiter hp =>
      obtain ⟨sem, hok, hinv⟩ := h.leave hp
      rw [hok] at hs
      cases hs
      exact safe_iff_of_entryInv (by simp) hinv
    · cases hs
  | tryWait =>
    unfold nodeStep at hs
    rw [if_neg (by rw [h.fault]; simp)] at hs
    cases hs
    refine safe_iff_of_entryInv (l := l) (by simp) (h.congr ?_ ?_ ?_) <;>
      (unfold nodeTryWait; split <;> rfl)
  | signal =>
    unfold nodeStep at hs
    rw [if_neg (by rw [h.fault]; simp)] at hs
    simp only [h.list.signal] at hs
    cases hs
    have hwoken := h.wake fun n hn => List.mem_of_mem_take (i := 1) hn
    exact safe_iff_of_entryInv (by simp) (hwoken.congr rfl rfl rfl)
  | destroy =>
    obtain ⟨sem, hok, hsem⟩ := h.list.destroy
    unfold nodeStep at hs
    rw [if_neg (by rw [h.fault]; simp)] at hs
    simp only [hok] at hs
    obtain ⟨hiff, hinv⟩ := h.destroy hsem (Option.some.inj hs).symm
    exact ⟨hiff, fun hspares => ⟨[], hinv hspares⟩⟩

/-! ## Runs -/

/--
**The entries of a semaphore are handled safely iff `semaphore_destroy` is never called under a
suspended process**: in every state of a run there has been no fault and each process that is to
resume has its entry in the list, iff no call of `semaphore_destroy` in the run finds the entry of
a process that `process_block` has suspended.
-/
theorem entriesSafe_iff_destroySpares (value : Int) (as : List NodeAction) :
    Always nodeStep EntriesSafe (NodeSystem.boot value) as ↔
      Along nodeStep DestroySpares (NodeSystem.boot value) as := by
  refine always_iff_along (I := fun s => ∃ l, EntryInv s l) ?_ ?_ ⟨[], entryInv_boot value⟩
    (entryInv_boot value).safe
  · rintro s a t ⟨l, h⟩ hs
    exact (entryInv_step h hs).1
  · rintro s a t ⟨l, h⟩ hs hspares
    exact (entryInv_step h hs).2 hspares

/-- One process waits; the semaphore is destroyed before it resumes. -/
def destroyRun : List NodeAction :=
  [.wait 0xD0000010 0xD0000200, .block 0xD0000010, .destroy, .leave 0xD0000010]

/-- **The process that resumes finds an empty list and reads through `NULL`.** -/
theorem destroy_under_waiter :
    ¬ Always nodeStep EntriesSafe (NodeSystem.boot 0) destroyRun ∧
    ∃ s, run nodeStep (NodeSystem.boot 0) destroyRun = some s ∧
      s.fault = some .nullDereference := by
  obtain ⟨s, hrun, hfault⟩ : ∃ s, run nodeStep (NodeSystem.boot 0) destroyRun = some s ∧
      s.fault = some .nullDereference := ⟨_, rfl, rfl⟩
  refine ⟨fun h => ?_, s, hrun, hfault⟩
  have hsafe := always_iff_forall_initial.mp h _ [] s (List.append_nil _).symm hrun
  rw [hsafe.fault] at hfault
  cases hfault

end MayaOs.Kernel
