import Mathlib.Data.Fin.Tuple.Basic
import MayaOs.Fs.File
import MayaOs.Lib.Run

/-!
# The descriptor tables are a map

What the tables are for: to give each process a number for each file it has open. `opened` is the map
that the calls so far amount to, and the tables hold it.

* `opened_eq_some_iff` — the map, in terms of the last `fd_alloc` that returned the descriptor
* `descriptorsMapped_always` — at any time the answers are those of the history
-/

namespace MayaOs.Fs

open MayaOs.Kernel MayaOs.Lib

/-! ## Calls -/

inductive FdOp where
  | alloc (node : NodePtr) (flags : UInt32)
  | free (fd : Int)
  | get (fd : Int)
  /-- a write through what `fd_get` has returned -/
  | setOffset (fd : Int) (offset : UInt32)
  /-- another process runs, or none -/
  | switch (process : ProcessPtr)
  deriving Repr, DecidableEq

/-- A call, the process that made it, and what `fd_alloc` returned. -/
structure FdCall where
  process : ProcessPtr
  op : FdOp
  result : Int
  deriving Repr, DecidableEq

/-- The calls so far are newest first. -/
structure FdSystem where
  fds : FdState
  log : List FdCall

def FdSystem.boot : FdSystem where
  fds := { current := null, tables := fun _ _ => FileDescriptor.zero }
  log := []

/-- The nodes are not NULL. -/
def fdStep (s : FdSystem) : FdOp → Option FdSystem
  | .alloc node flags =>
    if node = null then none
    else
      let r := fdAlloc s.fds node flags
      some { fds := r.2, log := ⟨s.fds.current, .alloc node flags, r.1⟩ :: s.log }
  | .free fd =>
    some { fds := fdFree s.fds fd, log := ⟨s.fds.current, .free fd, 0⟩ :: s.log }
  | .get _ => some s
  | .setOffset fd offset =>
    some
      { fds := fdSetOffset s.fds fd offset
        log := ⟨s.fds.current, .setOffset fd offset, 0⟩ :: s.log }
  | .switch p => some { s with fds := { s.fds with current := p } }

/-! ## The property -/

abbrev Fd := Fin maxFilesPerProcess

/-- A call of `fd_alloc` that returned `i` to the process. -/
def FdCall.Allocates (c : FdCall) (p : ProcessPtr) (i : Fd) : Prop :=
  c.process = p ∧ (∃ node flags, c.op = .alloc node flags) ∧ c.result = i

/-- The offset after a call. -/
def FdCall.offsetAfter (c : FdCall) (p : ProcessPtr) (i : Fd) (offset : UInt32) : UInt32 :=
  match c.op with
  | .setOffset fd written => if c.process = p ∧ fd = i then written else offset
  | _ => offset

/-- What the process last wrote to the offset; 0 if it wrote nothing. -/
def lastOffset (p : ProcessPtr) (i : Fd) : List FdCall → UInt32
  | [] => 0
  | c :: log => c.offsetAfter p i (lastOffset p i log)

/-- `d` is what the last `fd_alloc` that returned `i` was given, and `i` was not freed since. -/
def OpenedAs (log : List FdCall) (p : ProcessPtr) (i : Fd) (d : FileDescriptor) : Prop :=
  ∃ later node flags before, log = later ++ ⟨p, .alloc node flags, i⟩ :: before ∧
    (∀ c ∈ later, ¬ c.Allocates p i ∧ ¬ (c.process = p ∧ c.op = .free i)) ∧
    d = { node := node, flags := flags, offset := lastOffset p i later }

def InUse (log : List FdCall) (p : ProcessPtr) (i : Fd) : Prop := ∃ d, OpenedAs log p i d

structure DescriptorsMapped (s : FdSystem) : Prop where
  alloc : s.fds.current ≠ null → ∀ node flags,
    (fdAlloc s.fds node flags).1 = -1 ∧ (∀ i, InUse s.log s.fds.current i) ∨
    ∃ i : Fd, (fdAlloc s.fds node flags).1 = i ∧ ¬ InUse s.log s.fds.current i ∧
      ∀ j < i, InUse s.log s.fds.current j
  get : ∀ fd d, fdGet s.fds fd = some d ↔ ∃ i : Fd, fd = i ∧ OpenedAs s.log s.fds.current i d
  others : ∀ op s', fdStep s op = some s' → ∀ p ≠ s.fds.current, s'.fds.tables p = s.fds.tables p

/-! ## The map -/

/-- The open files of each process. -/
abbrev OpenFiles := ProcessPtr → Fd → Option FileDescriptor

/-- Descriptor `i` of the process changed. -/
def OpenFiles.modify (m : OpenFiles) (p : ProcessPtr) (i : Fd)
    (f : Option FileDescriptor → Option FileDescriptor) : OpenFiles :=
  Function.update m p (Function.update (m p) i (f (m p i)))

theorem OpenFiles.modify_self (m : OpenFiles) (p : ProcessPtr) (i : Fd)
    (f : Option FileDescriptor → Option FileDescriptor) : m.modify p i f p i = f (m p i) := by
  rw [modify, Function.update_self, Function.update_self]

theorem OpenFiles.modify_same (m : OpenFiles) {p : ProcessPtr} {i : Fd}
    {f : Option FileDescriptor → Option FileDescriptor} (h : f (m p i) = m p i) :
    m.modify p i f = m := by
  rw [modify, h, Function.update_eq_self, Function.update_eq_self]

theorem OpenFiles.modify_of_ne (m : OpenFiles) {p q : ProcessPtr} {i j : Fd}
    (f : Option FileDescriptor → Option FileDescriptor) (h : ¬ (p = q ∧ i = j)) :
    m.modify p i f q j = m q j := by
  unfold modify
  by_cases hq : q = p
  · subst hq
    rw [Function.update_self, Function.update_of_ne fun he => h ⟨rfl, he.symm⟩]
  · rw [Function.update_of_ne hq]

/-- The map after these calls. -/
def opened : List FdCall → OpenFiles
  | [] => fun _ _ => none
  | c :: log =>
    match c.op with
    | .alloc node flags =>
      match fdIndex c.result with
      | some i => (opened log).modify c.process i fun _ => some ⟨node, 0, flags⟩
      | none => opened log
    | .free fd =>
      match fdIndex fd with
      | some i => (opened log).modify c.process i fun _ => none
      | none => opened log
    | .setOffset fd offset =>
      match fdIndex fd with
      | some i => (opened log).modify c.process i fun d => d.map fun d => { d with offset := offset }
      | none => opened log
    | _ => opened log

theorem fdIndex_natCast (i : Fd) : fdIndex i = some i := by
  have hi := i.isLt
  unfold fdIndex
  rw [dif_neg (by omega)]
  simp

theorem fdIndex_eq_some_iff {fd : Int} {i : Fd} : fdIndex fd = some i ↔ fd = i := by
  constructor
  · intro h
    unfold fdIndex at h
    split at h
    · cases h
    · next hfd =>
      obtain rfl := Option.some.inj h
      show fd = (fd.toNat : Int)
      omega
  · rintro rfl
    exact fdIndex_natCast i

theorem natCast_fd_inj {i j : Fd} : ((i : Int) = j) ↔ i = j := by
  rw [Fin.ext_iff]
  exact Int.natCast_inj

theorem openedAs_cons {c : FdCall} {log : List FdCall} {p : ProcessPtr} {i : Fd}
    {d : FileDescriptor} : OpenedAs (c :: log) p i d ↔
      (∃ node flags, c = ⟨p, .alloc node flags, i⟩ ∧ d = ⟨node, 0, flags⟩) ∨
      (¬ c.Allocates p i ∧ ¬ (c.process = p ∧ c.op = .free i) ∧
        ∃ d₀, OpenedAs log p i d₀ ∧ d = { d₀ with offset := c.offsetAfter p i d₀.offset }) := by
  constructor
  · rintro ⟨later, node, flags, before, heq, hlater, rfl⟩
    cases later with
    | nil => exact Or.inl ⟨node, flags, (List.cons.inj heq).1, rfl⟩
    | cons c' later =>
      obtain ⟨rfl, rfl⟩ := List.cons.inj heq
      obtain ⟨⟨halloc, hfree⟩, hlater⟩ := List.forall_mem_cons.mp hlater
      exact Or.inr ⟨halloc, hfree, _, ⟨later, node, flags, before, rfl, hlater, rfl⟩, rfl⟩
  · rintro (⟨node, flags, rfl, rfl⟩ | ⟨halloc, hfree, d₀, ⟨later, node, flags, before, rfl, hlater,
      rfl⟩, rfl⟩)
    · exact ⟨[], node, flags, log, rfl, by simp, rfl⟩
    · exact ⟨c :: later, node, flags, before, rfl,
        List.forall_mem_cons.mpr ⟨⟨halloc, hfree⟩, hlater⟩, rfl⟩

/-- A change at one place of the map. -/
theorem OpenFiles.modify_eq_some_iff (m : OpenFiles) {p q : ProcessPtr} {i j : Fd}
    (f : Option FileDescriptor → Option FileDescriptor) {d : FileDescriptor} :
    m.modify p i f q j = some d ↔
      (p = q ∧ i = j ∧ f (m q j) = some d) ∨ (¬ (p = q ∧ i = j) ∧ m q j = some d) := by
  by_cases h : p = q ∧ i = j
  · obtain ⟨rfl, rfl⟩ := h
    rw [OpenFiles.modify_self]
    simp
  · rw [OpenFiles.modify_of_ne m f h]
    simp only [h, not_false_iff, true_and, ← and_assoc, false_and, false_or]

/-- **The map has what was opened and not freed since.** -/
theorem opened_eq_some_iff {log : List FdCall} {p : ProcessPtr} {i : Fd} {d : FileDescriptor} :
    opened log p i = some d ↔ OpenedAs log p i d := by
  induction log generalizing d with
  | nil =>
    refine iff_of_false (by simp [opened]) ?_
    rintro ⟨later, node, flags, before, heq, -⟩
    exact absurd heq.symm (by simp)
  | cons c log ih =>
    rw [openedAs_cons]
    obtain ⟨q, op, result⟩ := c
    have hindex : ∀ {fd : Int}, fdIndex fd = none → fd ≠ i := by
      rintro fd hnone rfl
      rw [fdIndex_natCast] at hnone
      simp at hnone
    cases op with
    | alloc node flags =>
      cases hr : fdIndex result with
      | none => simp [opened, hr, FdCall.Allocates, FdCall.offsetAfter, hindex hr, ← ih]
      | some j =>
        have hplace : j = i ↔ result = i := by rw [fdIndex_eq_some_iff.mp hr, natCast_fd_inj]
        simp only [opened, hr, OpenFiles.modify_eq_some_iff, ih, hplace]
        by_cases h : q = p ∧ result = i
        · obtain ⟨rfl, rfl⟩ := h
          simp [FdCall.Allocates, eq_comm]
        · have hno : ∀ x, ¬ (q = p ∧ result = i ∧ x) := fun x hx => h ⟨hx.1, hx.2.1⟩
          simp [h, hno, FdCall.Allocates, FdCall.offsetAfter]
    | free fd =>
      cases hr : fdIndex fd with
      | none => simp [opened, hr, FdCall.Allocates, FdCall.offsetAfter, hindex hr, ← ih]
      | some j =>
        have hplace : j = i ↔ fd = i := by rw [fdIndex_eq_some_iff.mp hr, natCast_fd_inj]
        simp only [opened, hr, OpenFiles.modify_eq_some_iff, ih, hplace]
        by_cases h : q = p ∧ fd = i
        · obtain ⟨rfl, rfl⟩ := h
          simp [FdCall.Allocates]
        · simp [h, FdCall.Allocates, FdCall.offsetAfter]
    | get fd => simp [opened, FdCall.Allocates, FdCall.offsetAfter, ← ih]
    | setOffset fd offset =>
      cases hr : fdIndex fd with
      | none => simp [opened, hr, FdCall.Allocates, FdCall.offsetAfter, hindex hr, ← ih]
      | some j =>
        have hplace : j = i ↔ fd = i := by rw [fdIndex_eq_some_iff.mp hr, natCast_fd_inj]
        simp only [opened, hr, OpenFiles.modify_eq_some_iff, ih, hplace]
        by_cases h : q = p ∧ fd = i
        · obtain ⟨rfl, rfl⟩ := h
          simp [FdCall.Allocates, FdCall.offsetAfter, ih, eq_comm]
        · have hno : ∀ x, ¬ (q = p ∧ fd = i ∧ x) := fun x hx => h ⟨hx.1, hx.2.1⟩
          simp [h, hno, FdCall.Allocates, FdCall.offsetAfter]
    | switch r => simp [opened, FdCall.Allocates, FdCall.offsetAfter, ← ih]

/-! ## The tables hold the map -/

/-- A descriptor without a node is not in use. -/
def openFile (d : FileDescriptor) : Option FileDescriptor := if d.node = null then none else some d

structure HoldsFiles (s : FdState) (m : OpenFiles) : Prop where
  files : ∀ p i, openFile (s.tables p i) = m p i
  idle : ∀ i, m null i = none

/-- A descriptor of the current process is changed in the table and in the map. -/
theorem HoldsFiles.modify {s : FdState} {m : OpenFiles} (h : HoldsFiles s m)
    (hcurrent : s.current ≠ null) {i : Fd} {f : FileDescriptor → FileDescriptor}
    {g : Option FileDescriptor → Option FileDescriptor}
    (hfg : openFile (f (s.tables s.current i)) = g (m s.current i)) :
    HoldsFiles (s.modify i f) (m.modify s.current i g) where
  files := by
    intro p j
    unfold FdState.modify OpenFiles.modify
    by_cases hp : p = s.current
    · subst hp
      simp only [Function.update_self]
      by_cases hj : j = i
      · subst hj
        rw [Function.update_self, Function.update_self]
        exact hfg
      · rw [Function.update_of_ne hj, Function.update_of_ne hj]
        exact h.files _ j
    · simp only [Function.update_of_ne hp]
      exact h.files p j
  idle := by
    intro j
    rw [OpenFiles.modify_of_ne m g fun he => hcurrent he.1]
    exact h.idle j

/-- A change that leaves the map as it is. -/
theorem HoldsFiles.modify_same {s : FdState} {m : OpenFiles} (h : HoldsFiles s m) {i : Fd}
    {g : Option FileDescriptor → Option FileDescriptor} (hg : g none = none)
    (hnone : m s.current i = none) : HoldsFiles s (m.modify s.current i g) := by
  rw [m.modify_same (by rw [hnone, hg])]
  exact h

theorem openFile_eq_none_iff {d : FileDescriptor} : openFile d = none ↔ d.node = null := by
  unfold openFile
  split
  · next hnull => exact iff_of_true rfl hnull
  · next hnode => exact iff_of_false (by simp) hnode

/-- **`fd_alloc` takes the least free descriptor**, or fails when there is none. -/
theorem HoldsFiles.alloc_cases {s : FdState} {m : OpenFiles} (h : HoldsFiles s m)
    (hcurrent : s.current ≠ null) (node : NodePtr) (flags : UInt32) :
    fdAlloc s node flags = (-1, s) ∧ (∀ i, m s.current i ≠ none) ∨
    ∃ i : Fd, m s.current i = none ∧ (∀ j < i, m s.current j ≠ none) ∧
      fdAlloc s node flags =
        ((i : Int), s.modify i fun _ => { node := node, offset := 0, flags := flags }) := by
  have hfree : ∀ i, (s.tables s.current i).node == null ↔ m s.current i = none := by
    intro i
    rw [← h.files, openFile_eq_none_iff, beq_iff_eq]
  unfold fdAlloc
  rw [if_neg hcurrent]
  cases hfind : Fin.find? fun i => (s.tables s.current i).node == null with
  | none =>
    refine Or.inl ⟨rfl, fun i hi => ?_⟩
    have hno := Fin.find?_eq_none_iff.mp hfind i
    rw [(hfree i).mpr hi] at hno
    simp at hno
  | some i =>
    obtain ⟨hi, hbefore⟩ := Fin.find?_eq_some_iff.mp hfind
    refine Or.inr ⟨i, (hfree i).mp hi, fun j hj hnone => ?_, rfl⟩
    have hno := hbefore j hj
    rw [(hfree j).mpr hnone] at hno
    simp at hno

theorem HoldsFiles.get {s : FdState} {m : OpenFiles} (h : HoldsFiles s m) (fd : Int)
    (d : FileDescriptor) : fdGet s fd = some d ↔ ∃ i : Fd, fd = i ∧ m s.current i = some d := by
  unfold fdGet
  by_cases hcurrent : s.current = null
  · rw [if_pos hcurrent, hcurrent]
    exact iff_of_false (by simp) fun ⟨i, _, hi⟩ => by rw [h.idle] at hi; cases hi
  · rw [if_neg hcurrent]
    cases hr : fdIndex fd with
    | none =>
      refine iff_of_false (by simp) ?_
      rintro ⟨i, rfl, -⟩
      rw [fdIndex_natCast] at hr
      simp at hr
    | some i =>
      obtain rfl := fdIndex_eq_some_iff.mp hr
      show openFile (s.tables s.current i) = some d ↔ _
      rw [h.files]
      constructor
      · exact fun hd => ⟨i, rfl, hd⟩
      · rintro ⟨j, hj, hd⟩
        rw [natCast_fd_inj.mp hj]
        exact hd

/-! ## Any number of calls -/

theorem HoldsFiles.alloc {s : FdState} {log : List FdCall} (h : HoldsFiles s (opened log))
    {node : NodePtr} (hnode : node ≠ null) (flags : UInt32) :
    HoldsFiles (fdAlloc s node flags).2
      (opened (⟨s.current, .alloc node flags, (fdAlloc s node flags).1⟩ :: log)) := by
  have hfail : ∀ p, opened (⟨p, .alloc node flags, -1⟩ :: log) = opened log := fun _ => rfl
  by_cases hcurrent : s.current = null
  · have heq : fdAlloc s node flags = (-1, s) := if_pos hcurrent
    rw [heq, hfail]
    exact h
  · rcases h.alloc_cases hcurrent node flags with ⟨heq, -⟩ | ⟨i, -, -, heq⟩
    · rw [heq, hfail]
      exact h
    · rw [heq]
      simp only [opened, fdIndex_natCast]
      exact h.modify hcurrent (if_neg hnode)

theorem HoldsFiles.free {s : FdState} {log : List FdCall} (h : HoldsFiles s (opened log))
    (fd : Int) : HoldsFiles (fdFree s fd) (opened (⟨s.current, .free fd, 0⟩ :: log)) := by
  unfold fdFree
  simp only [opened]
  cases fdIndex fd with
  | none =>
    split <;> exact h
  | some i =>
    split
    · next hcurrent => exact h.modify_same rfl (by rw [hcurrent, h.idle])
    · next hcurrent => exact h.modify hcurrent rfl

theorem HoldsFiles.setOffset {s : FdState} {log : List FdCall} (h : HoldsFiles s (opened log))
    (fd : Int) (offset : UInt32) :
    HoldsFiles (fdSetOffset s fd offset)
      (opened (⟨s.current, .setOffset fd offset, 0⟩ :: log)) := by
  cases hr : fdIndex fd with
  | none =>
    simp only [fdSetOffset, hr, opened]
    exact h
  | some i =>
    simp only [fdSetOffset, hr, opened]
    obtain rfl := fdIndex_eq_some_iff.mp hr
    cases hd : fdGet s i with
    | none =>
      refine h.modify_same rfl (Option.eq_none_iff_forall_ne_some.mpr fun d hd' => ?_)
      rw [(h.get i d).mpr ⟨i, rfl, hd'⟩] at hd
      simp at hd
    | some d =>
      have hcurrent : s.current ≠ null := by
        intro hnull
        rw [fdGet, if_pos hnull] at hd
        simp at hd
      refine h.modify hcurrent ?_
      rw [← h.files]
      unfold openFile
      split <;> rfl

theorem holdsFiles_boot : HoldsFiles FdSystem.boot.fds (opened FdSystem.boot.log) :=
  ⟨fun _ _ => rfl, fun _ => rfl⟩

/-- **One step.** -/
theorem holdsFiles_step {s s' : FdSystem} {op : FdOp} (h : HoldsFiles s.fds (opened s.log))
    (hs : fdStep s op = some s') : HoldsFiles s'.fds (opened s'.log) := by
  cases op with
  | alloc node flags =>
    simp only [fdStep] at hs
    split at hs
    · cases hs
    · next hnode =>
      cases hs
      exact h.alloc hnode flags
  | free fd => cases hs; exact h.free fd
  | get fd => cases hs; exact h
  | setOffset fd offset => cases hs; exact h.setOffset fd offset
  | switch p => cases hs; exact ⟨h.files, h.idle⟩

/-! ### Other processes -/

theorem FdState.modify_tables {s : FdState} (i : Fd) (f : FileDescriptor → FileDescriptor)
    {p : ProcessPtr} (hp : p ≠ s.current) : (s.modify i f).tables p = s.tables p :=
  Function.update_of_ne hp ..

theorem fdStep_others {s s' : FdSystem} {op : FdOp} (hs : fdStep s op = some s')
    {p : ProcessPtr} (hp : p ≠ s.fds.current) : s'.fds.tables p = s.fds.tables p := by
  cases op with
  | alloc node flags =>
    simp only [fdStep] at hs
    split at hs
    · cases hs
    · cases hs
      show (fdAlloc s.fds node flags).2.tables p = _
      unfold fdAlloc
      split
      · rfl
      · split
        · rfl
        · next i _ => exact FdState.modify_tables i (fun _ => ⟨node, 0, flags⟩) hp
  | free fd =>
    cases hs
    show (fdFree s.fds fd).tables p = _
    unfold fdFree
    split
    · rfl
    · split
      · rfl
      · exact FdState.modify_tables _ _ hp
  | get fd => cases hs; rfl
  | setOffset fd offset =>
    cases hs
    show (fdSetOffset s.fds fd offset).tables p = _
    unfold fdSetOffset
    split
    · exact FdState.modify_tables _ _ hp
    · rfl
  | switch q => cases hs; rfl

/-! ## Main result -/

theorem inUse_iff {log : List FdCall} {p : ProcessPtr} {i : Fd} :
    InUse log p i ↔ opened log p i ≠ none := by
  rw [Option.ne_none_iff_exists']
  exact exists_congr fun d => opened_eq_some_iff.symm

theorem HoldsFiles.descriptorsMapped {s : FdSystem} (h : HoldsFiles s.fds (opened s.log)) :
    DescriptorsMapped s where
  alloc := by
    intro hcurrent node flags
    rcases h.alloc_cases hcurrent node flags with ⟨heq, hall⟩ | ⟨i, hfree, hbefore, heq⟩
    · exact Or.inl ⟨by rw [heq], fun i => inUse_iff.mpr (hall i)⟩
    · refine Or.inr ⟨i, by rw [heq], fun huse => inUse_iff.mp huse hfree, fun j hj => ?_⟩
      exact inUse_iff.mpr (hbefore j hj)
  get := by
    intro fd d
    rw [h.get]
    exact exists_congr fun i => and_congr_right fun _ => opened_eq_some_iff
  others := fun _ _ hs _ hp => fdStep_others hs hp

/--
**At any time the tables answer for the calls so far.**

The calls are made by any processes in turn, with any descriptors, or while no process runs.
`fd_alloc` returns the least descriptor that is not in use, `fd_get` what it was allocated with, and
the tables of the other processes stay as they are.
-/
theorem descriptorsMapped_always (ops : List FdOp) :
    Always fdStep DescriptorsMapped FdSystem.boot ops :=
  Always.of_invariant (I := fun s => HoldsFiles s.fds (opened s.log))
    (fun _ h => h.descriptorsMapped) (fun _ _ _ h hs => holdsFiles_step h hs) holdsFiles_boot

end MayaOs.Fs
