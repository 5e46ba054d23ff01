import Mathlib.Data.List.Basic
import MayaOs.Lib.MachineInt

/-!
# The kernel heap (`kernel/memory.c`)

`kmalloc` and `kfree` over the list of block descriptors. All quantities are `uint32_t`,
so they are `Nat` with `wrap32` wherever the source computes.

A descriptor carries its own address (`addr`), which the source has as the value of the
`memory_block_t*`; the `next` pointers are the order of the list. `sizeof(memory_block_t)` is 16
on the 32-bit target.
-/

namespace MayaOs.Kernel

open MayaOs.Lib

def heapStart : Nat := 0xD0000000

def heapEnd : Nat := 0xE0000000

/-- `sizeof(memory_block_t)`. -/
def blockHeader : Nat := 16

/-- `memory_block_t`, together with the address it is stored at. -/
structure MemoryBlock where
  addr : Nat
  start : Nat
  size : Nat
  used : Bool
  deriving Repr, DecidableEq

/-- `heap_blocks` in `next` order, and `used_memory`. -/
structure Heap where
  blocks : List MemoryBlock
  usedMemory : Nat
  deriving Repr, DecidableEq

/-- The static variables before `heap_init`. -/
def Heap.unset : Heap := { blocks := [], usedMemory := 0 }

/-- The descriptor `heap_init` writes at `HEAP_START`. -/
def initialBlock : MemoryBlock where
  addr := heapStart
  start := wrap32 (heapStart + blockHeader)
  size := heapEnd - heapStart - blockHeader
  used := false

def heapInit (h : Heap) : Heap :=
  if h.blocks ≠ [] then h else { h with blocks := [initialBlock] }

/-! ## kmalloc -/

/-- `(size + 3) & ~3`. -/
def roundUp4 (size : Nat) : Nat := wrap32 (size + 3) / 4 * 4

/-- `(size + PAGE_SIZE - 1) & ~(PAGE_SIZE - 1)`. -/
def roundUpPage (n : Nat) : Nat := wrap32 (n + 4095) / 4096 * 4096

/-- `size + PAGE_SIZE`, the first request of `kmalloc_aligned`. -/
def paddedSize (size : Nat) : Nat := wrap32 (roundUpPage size + 4096)

/-- `size + (aligned_addr - addr)`, the second request, when the first one has got `addr`. -/
def shiftedSize (size addr : Nat) : Nat :=
  wrap32 (roundUpPage size + (roundUpPage addr + 2 ^ 32 - addr))

/-- A free block of at least `size` bytes. -/
def MemoryBlock.Fits (size : Nat) (b : MemoryBlock) : Prop := b.used = false ∧ size ≤ b.size

instance (size : Nat) (b : MemoryBlock) : Decidable (b.Fits size) :=
  inferInstanceAs (Decidable (_ ∧ _))

/-- The search loop of `kmalloc`: position and block of the best fit seen so far, and its size. -/
def bestFit (size : Nat) : List MemoryBlock → Nat → Option (Nat × MemoryBlock) → Nat →
    Option (Nat × MemoryBlock)
  | [], _, best, _ => best
  | b :: rest, i, best, bestSize =>
    -- of several smallest blocks the first one is kept
    if b.Fits size ∧ b.size < bestSize then bestFit size rest (i + 1) (some (i, b)) b.size
    else bestFit size rest (i + 1) best bestSize

/-- The descriptor `kmalloc` writes when it splits `b`. It is stored where its payload starts. -/
def splitBlock (b : MemoryBlock) (size : Nat) : MemoryBlock where
  addr := wrap32 (b.start + size)
  start := wrap32 (b.start + size)
  size := wrap32 (b.size + 2 ^ 32 - size - blockHeader)
  used := false

/-- "Split block if too large". -/
def tooLarge (b : MemoryBlock) (size : Nat) : Bool := wrap32 (size + blockHeader + 4) < b.size

/-- The descriptors that replace the chosen block: the allocated one and, after a split, the rest. -/
def carve (b : MemoryBlock) (size : Nat) : List MemoryBlock :=
  if tooLarge b size then [{ b with size := size, used := true }, splitBlock b size]
  else [{ b with used := true }]

/-- `best_fit->size` once the block has been split. -/
def carvedSize (b : MemoryBlock) (size : Nat) : Nat := if tooLarge b size then size else b.size

def kmalloc (h : Heap) (size : Nat) : Option Nat × Heap :=
  if size = 0 then (none, h)
  else
    let size := roundUp4 size
    match bestFit size h.blocks 0 none 0xFFFFFFFF with
    | none => (none, h)
    | some (i, b) =>
      (some b.start,
        { blocks := h.blocks.take i ++ (carve b size ++ h.blocks.drop (i + 1))
          usedMemory := wrap32 (h.usedMemory + carvedSize b size) })

/-! ## kfree -/

/-- "Merge with next block if free". -/
def mergeNext (b : MemoryBlock) : List MemoryBlock → List MemoryBlock
  | [] => [b]
  | n :: rest =>
    if n.used then b :: n :: rest
    else { b with size := wrap32 (b.size + (n.size + blockHeader)) } :: rest

/-- "Merge with previous block if free": `pre` is the part of the list before the freed block. -/
def mergePrev (pre : List MemoryBlock) : List MemoryBlock → List MemoryBlock
  | [] => pre
  | b :: rest =>
    match pre.getLast? with
    | none => b :: rest
    | some p =>
      if p.used then pre ++ b :: rest
      else pre.dropLast ++ { p with size := wrap32 (p.size + (b.size + blockHeader)) } :: rest

/-- `kfree` acts on the first block that starts at `ptr`, whether it is marked used or not. -/
def kfree (h : Heap) (ptr : Nat) : Heap :=
  if ptr = 0 then h
  else
    match h.blocks.dropWhile (fun b => b.start != ptr) with
    | [] => h
    | b :: post =>
      { blocks := mergePrev (h.blocks.takeWhile (fun b => b.start != ptr))
          (mergeNext { b with used := false } post)
        usedMemory := wrap32 (h.usedMemory + 2 ^ 32 - b.size) }

/-! ## The search finds a smallest fitting block -/

/--
What the search loop returns: the accumulator when no block of `l` beats it,
otherwise the first of the smallest fitting blocks of `l`.
-/
theorem bestFit_eq (size : Nat) : ∀ (l : List MemoryBlock) (k : Nat)
    (best : Option (Nat × MemoryBlock)) (bestSize : Nat),
    (bestFit size l k best bestSize = best ∧ ∀ c ∈ l, c.Fits size → bestSize ≤ c.size) ∨
    ∃ pre b post, l = pre ++ b :: post ∧ bestFit size l k best bestSize = some (k + pre.length, b) ∧
      b.Fits size ∧ b.size < bestSize ∧ (∀ c ∈ pre, c.Fits size → b.size < c.size) ∧
      ∀ c ∈ post, c.Fits size → b.size ≤ c.size := by
  intro l
  induction l with
  | nil => intro k best bestSize; exact Or.inl ⟨rfl, by simp⟩
  | cons a rest ih =>
    intro k best bestSize
    rw [bestFit]
    by_cases ha : a.Fits size ∧ a.size < bestSize
    · rw [if_pos ha]
      right
      rcases ih (k + 1) (some (k, a)) a.size with ⟨heq, hall⟩ | ⟨pre, b, post, hl, heq, hb⟩
      · exact ⟨[], a, rest, rfl, heq, ha.1, ha.2, by simp, hall⟩
      · obtain ⟨hfit, hlt, hpre, hpost⟩ := hb
        refine ⟨a :: pre, b, post, by rw [hl, List.cons_append], ?_, hfit, by omega, ?_, hpost⟩
        · rw [heq, List.length_cons, Nat.add_right_comm, Nat.add_assoc]
        · intro c hc hfc
          rcases List.mem_cons.mp hc with rfl | hc
          · exact hlt
          · exact hpre c hc hfc
    · rw [if_neg ha]
      have hle : a.Fits size → bestSize ≤ a.size := by
        intro hfa
        by_contra hlt
        exact ha ⟨hfa, by omega⟩
      rcases ih (k + 1) best bestSize with ⟨heq, hall⟩ | ⟨pre, b, post, hl, heq, hb⟩
      · refine Or.inl ⟨heq, ?_⟩
        intro c hc hfc
        rcases List.mem_cons.mp hc with rfl | hc
        · exact hle hfc
        · exact hall c hc hfc
      · obtain ⟨hfit, hlt, hpre, hpost⟩ := hb
        right
        refine ⟨a :: pre, b, post, by rw [hl, List.cons_append], ?_, hfit, hlt, ?_, hpost⟩
        · rw [heq, List.length_cons, Nat.add_right_comm, Nat.add_assoc]
        · intro c hc hfc
          rcases List.mem_cons.mp hc with rfl | hc
          · have := hle hfc
            omega
          · exact hpre c hc hfc

/-- The block `kmalloc` allocates is on the list afterwards, at the pointer it returns. -/
theorem carve_head (b : MemoryBlock) (n : Nat) :
    ∃ c rest, carve b n = c :: rest ∧ c.addr = b.addr ∧ c.start = b.start ∧
      c.size = carvedSize b n ∧ c.used = true ∧ ∀ d ∈ rest, d.used = false := by
  unfold carve carvedSize
  split
  · exact ⟨_, _, rfl, rfl, rfl, rfl, rfl, fun d hd => List.mem_singleton.mp hd ▸ rfl⟩
  · exact ⟨_, _, rfl, rfl, rfl, rfl, rfl, fun d hd => absurd hd List.not_mem_nil⟩

theorem le_carvedSize {b : MemoryBlock} {size : Nat} (h : size ≤ b.size) :
    size ≤ carvedSize b size ∧ carvedSize b size ≤ b.size := by
  unfold carvedSize
  split
  · exact ⟨Nat.le_refl _, h⟩
  · exact ⟨h, Nat.le_refl _⟩

/-- `b` is the block that a search for `size` bytes takes from the list `pre ++ b :: post`. -/
structure Chosen (size : Nat) (pre : List MemoryBlock) (b : MemoryBlock) (post : List MemoryBlock) :
    Prop where
  fits : b.Fits size
  small : b.size < 0xFFFFFFFF
  before : ∀ c ∈ pre, c.Fits size → b.size < c.size
  after : ∀ c ∈ post, c.Fits size → b.size ≤ c.size

/-- **Everything `kmalloc` can do**: fail and change nothing, or carve the chosen block. -/
theorem kmalloc_cases {h : Heap} {size : Nat} (hsize : 0 < size) :
    (kmalloc h size = (none, h) ∧ ∀ c ∈ h.blocks, c.Fits (roundUp4 size) → 0xFFFFFFFF ≤ c.size) ∨
    ∃ pre b post, h.blocks = pre ++ b :: post ∧ Chosen (roundUp4 size) pre b post ∧
      kmalloc h size = (some b.start,
        { blocks := pre ++ (carve b (roundUp4 size) ++ post)
          usedMemory := wrap32 (h.usedMemory + carvedSize b (roundUp4 size)) }) := by
  have hne : size ≠ 0 := by omega
  unfold kmalloc
  rw [if_neg hne]
  simp only []
  rcases bestFit_eq (roundUp4 size) h.blocks 0 none 0xFFFFFFFF with
    ⟨heq, hall⟩ | ⟨pre, b, post, hl, heq, hfit, hlt, hpre, hpost⟩
  · rw [heq]
    exact Or.inl ⟨rfl, hall⟩
  · rw [heq]
    refine Or.inr ⟨pre, b, post, hl, ⟨hfit, hlt, hpre, hpost⟩, ?_⟩
    simp [hl]

/-- There is one chosen block. -/
theorem Chosen.unique {size : Nat} {pre pre' post post' : List MemoryBlock} {b b' : MemoryBlock}
    (h : Chosen size pre b post) (h' : Chosen size pre' b' post')
    (heq : pre ++ b :: post = pre' ++ b' :: post') : pre = pre' ∧ b = b' ∧ post = post' := by
  rcases List.append_eq_append_iff.mp heq with ⟨mid, hpre, hpost⟩ | ⟨mid, hpre, hpost⟩
  · cases mid with
    | nil =>
      obtain ⟨hb, htail⟩ := List.cons.inj hpost
      exact ⟨by rw [hpre, List.append_nil], hb, htail⟩
    | cons c mid =>
      obtain ⟨rfl, rfl⟩ := List.cons.inj hpost
      have hlt := h'.before b (by simp [hpre]) h.fits
      have hle := h.after b' (by simp) h'.fits
      omega
  · cases mid with
    | nil =>
      obtain ⟨hb, htail⟩ := List.cons.inj hpost
      exact ⟨by rw [hpre, List.append_nil], hb.symm, htail.symm⟩
    | cons c mid =>
      obtain ⟨rfl, rfl⟩ := List.cons.inj hpost
      have hlt := h.before b' (by simp [hpre]) h'.fits
      have hle := h'.after b (by simp) h.fits
      omega

theorem kmalloc_of_chosen {h : Heap} {size : Nat} (hsize : 0 < size) {pre post : List MemoryBlock}
    {b : MemoryBlock} (hl : h.blocks = pre ++ b :: post) (hch : Chosen (roundUp4 size) pre b post) :
    kmalloc h size = (some b.start,
      { blocks := pre ++ (carve b (roundUp4 size) ++ post)
        usedMemory := wrap32 (h.usedMemory + carvedSize b (roundUp4 size)) }) := by
  rcases kmalloc_cases (h := h) hsize with ⟨-, hall⟩ | ⟨pre', b', post', hl', hch', heq⟩
  · have hle := hall b (by simp [hl]) hch.fits
    have hlt := hch.small
    omega
  · obtain ⟨rfl, rfl, rfl⟩ := hch.unique hch' (hl.symm.trans hl')
    exact heq

end MayaOs.Kernel
