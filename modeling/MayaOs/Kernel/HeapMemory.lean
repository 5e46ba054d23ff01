import MayaOs.Kernel.Memory
import MayaOs.Lib.ByteMemory

/-!
# The kernel heap in memory (`kernel/memory.c`)

`kmalloc` and `kfree` as reads and writes of descriptors at their addresses, in the order of the
source. `Kernel/Memory.lean` has the same functions on a list of descriptors, which cannot overlap;
here they can.

The loops follow `next` pointers in a memory that does not change meanwhile. After `maxSteps` steps
some pointer has come up twice, so a loop that is still going then does not end: the result is
`none`.

* `descriptorAt_setStart`, `descriptorAt_setSize`, `descriptorAt_setUsed`, `descriptorAt_setNext` —
  what is read after a write
-/

namespace MayaOs.Kernel

open MayaOs.Lib

/-! ## Descriptors in memory -/

/-- The fields of `memory_block_t`. -/
structure Descriptor where
  start : Nat
  size : Nat
  used : Bool
  next : Nat
  deriving Repr, DecidableEq

/-- What the fields hold of the descriptor at `p`. -/
def descriptorAt (m : ByteMemory) (p : Nat) : Descriptor where
  start := word m p
  size := word m (p + 4)
  used := m (wrap32 (p + 8)) != 0
  next := word m (p + 12)

def setStart (m : ByteMemory) (p v : Nat) : ByteMemory := storeWord m p v
def setSize (m : ByteMemory) (p v : Nat) : ByteMemory := storeWord m (p + 4) v
def setNext (m : ByteMemory) (p v : Nat) : ByteMemory := storeWord m (p + 12) v

/-- A `bool` has one byte. -/
def setUsed (m : ByteMemory) (p : Nat) (v : Bool) : ByteMemory :=
  storeByte m (p + 8) (if v then 1 else 0)

/-- The static variables, `heap_blocks` as an address, and the memory they point into. -/
structure HeapMemory where
  mem : ByteMemory
  heapBlocks : Nat
  usedMemory : Nat

/-- Before `heap_init`. -/
def HeapMemory.unset (mem : ByteMemory) : HeapMemory where
  mem := mem
  heapBlocks := 0
  usedMemory := 0

namespace HeapMemory

/-! ## The functions -/

def heapInit (s : HeapMemory) : HeapMemory :=
  if s.heapBlocks ≠ 0 then s
  else
    let m := setStart s.mem heapStart (wrap32 (heapStart + blockHeader))
    let m := setSize m heapStart (heapEnd - heapStart - blockHeader)
    let m := setUsed m heapStart false
    let m := setNext m heapStart 0
    { s with mem := m, heapBlocks := heapStart }

def maxSteps : Nat := 2 ^ 32

/-- "Find best fit block". -/
def findBestFit (m : ByteMemory) (size : Nat) : Nat → Nat → Nat → Nat → Option Nat
  | 0, _, _, _ => none
  | fuel + 1, block, bestFit, bestSize =>
    if block = 0 then some bestFit
    else
      let d := descriptorAt m block
      if d.used = false ∧ size ≤ d.size ∧ d.size < bestSize then
        findBestFit m size fuel d.next block d.size
      else findBestFit m size fuel d.next bestFit bestSize

/-- "Split block if too large". -/
def split (m : ByteMemory) (bestFit size : Nat) : ByteMemory :=
  if wrap32 (size + blockHeader + 4) < (descriptorAt m bestFit).size then
    let newBlock := wrap32 ((descriptorAt m bestFit).start + size)
    let m := setStart m newBlock (wrap32 ((descriptorAt m bestFit).start + size))
    let m := setSize m newBlock
      (wrap32 ((descriptorAt m bestFit).size + 2 ^ 32 - size + 2 ^ 32 - blockHeader))
    let m := setUsed m newBlock false
    let m := setNext m newBlock (descriptorAt m bestFit).next
    let m := setSize m bestFit size
    setNext m bestFit newBlock
  else m

/-- The address returned, 0 for NULL. -/
def kmalloc (s : HeapMemory) (size : Nat) : Option (Nat × HeapMemory) :=
  if size = 0 then some (0, s)
  else
    let size := roundUp4 size
    match findBestFit s.mem size (maxSteps + 1) s.heapBlocks 0 0xFFFFFFFF with
    | none => none
    | some bestFit =>
      if bestFit = 0 then some (0, s)
      else
        let m := split s.mem bestFit size
        let m := setUsed m bestFit true
        some ((descriptorAt m bestFit).start,
          { s with mem := m, usedMemory := wrap32 (s.usedMemory + (descriptorAt m bestFit).size) })

/-- The loop of `kfree`: the first block that starts at `ptr`, 0 if there is none. -/
def findBlock (m : ByteMemory) (ptr : Nat) : Nat → Nat → Option Nat
  | 0, _ => none
  | fuel + 1, block =>
    if block = 0 then some 0
    else if (descriptorAt m block).start = ptr then some block
    else findBlock m ptr fuel (descriptorAt m block).next

/-- "Find previous block". -/
def findPrevious (m : ByteMemory) (block : Nat) : Nat → Nat → Option Nat
  | 0, _ => none
  | fuel + 1, prev =>
    if prev = 0 then some 0
    else if (descriptorAt m prev).next = block then some prev
    else findPrevious m block fuel (descriptorAt m prev).next

/-- "Merge with next block if free". -/
def mergeWithNext (m : ByteMemory) (block : Nat) : ByteMemory :=
  let next := (descriptorAt m block).next
  if next ≠ 0 ∧ (descriptorAt m next).used = false then
    let m := setSize m block
      (wrap32 ((descriptorAt m block).size + ((descriptorAt m next).size + blockHeader)))
    setNext m block (descriptorAt m (descriptorAt m block).next).next
  else m

/-- "Merge with previous block if free". -/
def mergeWithPrevious (m : ByteMemory) (prev block : Nat) : ByteMemory :=
  if prev ≠ 0 ∧ (descriptorAt m prev).used = false then
    let m := setSize m prev
      (wrap32 ((descriptorAt m prev).size + ((descriptorAt m block).size + blockHeader)))
    setNext m prev (descriptorAt m block).next
  else m

def kfree (s : HeapMemory) (ptr : Nat) : Option HeapMemory :=
  if ptr = 0 then some s
  else
    match findBlock s.mem ptr (maxSteps + 1) s.heapBlocks with
    | none => none
    | some block =>
      if block = 0 then some s
      else
        let m := setUsed s.mem block false
        let usedMemory := wrap32 (s.usedMemory + 2 ^ 32 - (descriptorAt m block).size)
        let m := mergeWithNext m block
        match findPrevious m block (maxSteps + 1) s.heapBlocks with
        | none => none
        | some prev => some { s with mem := mergeWithPrevious m prev block, usedMemory }

/-- The request is made again when the first address is not on a page boundary. -/
def kmallocAligned (s : HeapMemory) (size : Nat) : Option (Nat × HeapMemory) :=
  if size = 0 then some (0, s)
  else (s.kmalloc (paddedSize size)).bind fun (addr, s) =>
    if addr = 0 then some (0, s)
    else if addr = roundUpPage addr then some (roundUpPage addr, s)
    else (s.kfree addr).bind fun s =>
      (s.kmalloc (shiftedSize size addr)).map fun (ptr, s) =>
        (if ptr = 0 then 0 else roundUpPage addr, s)

end HeapMemory

/-- A call, with whatever argument it is given. -/
inductive HeapCall where
  | kmalloc (size : UInt32)
  | kfree (ptr : UInt32)
  deriving Repr, DecidableEq

/-- `none` for a call that does not return. -/
def HeapMemory.step (s : HeapMemory) : HeapCall → Option HeapMemory
  | .kmalloc size => (s.kmalloc size.toNat).map Prod.snd
  | .kfree ptr => s.kfree ptr.toNat

/-- After `heap_init`, whatever memory holds before it. -/
def HeapMemory.boot (mem : ByteMemory) : HeapMemory := (HeapMemory.unset mem).heapInit

/-! ## Reading after writing -/

variable {m m' : ByteMemory} {p q v : Nat}

theorem descriptorAt_setStart (hp : p + 16 ≤ 2 ^ 32) (hv : v < 2 ^ 32) :
    descriptorAt (setStart m p v) p = { descriptorAt m p with start := v } := by
  unfold descriptorAt setStart
  rw [word_storeWord m (by omega) hv,
    word_congr (a := p + 4) (by omega) fun x _ _ => storeWord_apply m (by omega) v (by omega),
    word_congr (a := p + 12) (by omega) fun x _ _ => storeWord_apply m (by omega) v (by omega),
    wrap32_eq_self (by omega), storeWord_apply m (by omega) v (by omega)]

theorem descriptorAt_setSize (hp : p + 16 ≤ 2 ^ 32) (hv : v < 2 ^ 32) :
    descriptorAt (setSize m p v) p = { descriptorAt m p with size := v } := by
  unfold descriptorAt setSize
  rw [word_storeWord m (by omega) hv,
    word_congr (a := p) (by omega) fun x _ _ => storeWord_apply m (by omega) v (by omega),
    word_congr (a := p + 12) (by omega) fun x _ _ => storeWord_apply m (by omega) v (by omega),
    wrap32_eq_self (by omega), storeWord_apply m (by omega) v (by omega)]

theorem descriptorAt_setNext (hp : p + 16 ≤ 2 ^ 32) (hv : v < 2 ^ 32) :
    descriptorAt (setNext m p v) p = { descriptorAt m p with next := v } := by
  unfold descriptorAt setNext
  rw [word_storeWord m (by omega) hv,
    word_congr (a := p) (by omega) fun x _ _ => storeWord_apply m (by omega) v (by omega),
    word_congr (a := p + 4) (by omega) fun x _ _ => storeWord_apply m (by omega) v (by omega),
    wrap32_eq_self (by omega), storeWord_apply m (by omega) v (by omega)]

theorem descriptorAt_setUsed (hp : p + 16 ≤ 2 ^ 32) (v : Bool) :
    descriptorAt (setUsed m p v) p = { descriptorAt m p with used := v } := by
  unfold descriptorAt setUsed
  rw [word_congr (a := p) (by omega) fun x _ _ => storeByte_apply m (by omega) _ (by omega),
    word_congr (a := p + 4) (by omega) fun x _ _ => storeByte_apply m (by omega) _ (by omega),
    word_congr (a := p + 12) (by omega) fun x _ _ => storeByte_apply m (by omega) _ (by omega),
    wrap32_eq_self (by omega), storeByte_self m (by omega)]
  cases v <;> rfl

/-- The memories agree outside the descriptor at `p`. -/
def SameOutside (p : Nat) (m m' : ByteMemory) : Prop := ∀ x, x < p ∨ p + 16 ≤ x → m' x = m x

theorem sameOutside_setStart (hp : p + 16 ≤ 2 ^ 32) : SameOutside p m (setStart m p v) :=
  fun x hx => storeWord_apply m (by omega) v (by omega)

theorem sameOutside_setSize (hp : p + 16 ≤ 2 ^ 32) : SameOutside p m (setSize m p v) :=
  fun x hx => storeWord_apply m (by omega) v (by omega)

theorem sameOutside_setNext (hp : p + 16 ≤ 2 ^ 32) : SameOutside p m (setNext m p v) :=
  fun x hx => storeWord_apply m (by omega) v (by omega)

theorem sameOutside_setUsed (hp : p + 16 ≤ 2 ^ 32) (v : Bool) :
    SameOutside p m (setUsed m p v) :=
  fun x hx => storeByte_apply m (by omega) _ (by omega)

/-- The descriptors at `p` and `q` do not overlap. -/
def Apart (p q : Nat) : Prop := p + 16 ≤ q ∨ q + 16 ≤ p

instance (p q : Nat) : Decidable (Apart p q) := inferInstanceAs (Decidable (_ ∨ _))

theorem Apart.symm (h : Apart p q) : Apart q p := Or.symm h

theorem Apart.ne (h : Apart p q) : p ≠ q := by
  unfold Apart at h
  omega

/-- **A write to one descriptor leaves the others alone.** -/
theorem SameOutside.descriptorAt (h : SameOutside p m m') (hq : q + 16 ≤ 2 ^ 32)
    (hapart : Apart p q) : descriptorAt m' q = descriptorAt m q := by
  have hx : ∀ x, q ≤ x → x < q + 16 → m' x = m x := by
    intro x h1 h2
    unfold Apart at hapart
    exact h x (by omega)
  unfold Kernel.descriptorAt
  rw [word_congr (a := q) (by omega) fun x h1 h2 => hx x (by omega) (by omega),
    word_congr (a := q + 4) (by omega) fun x h1 h2 => hx x (by omega) (by omega),
    word_congr (a := q + 12) (by omega) fun x h1 h2 => hx x (by omega) (by omega),
    wrap32_eq_self (by omega), hx (q + 8) (by omega) (by omega)]

end MayaOs.Kernel
