import Mathlib.Order.CompletePartialOrder
import Mathlib.Order.Interval.Set.Basic
import Mathlib.Order.Interval.Set.Disjoint
import MayaOs.Lib.Run
import MayaOs.Kernel.Memory

/-!
# Address layout of the heap

The claims of live allocations on the address space: inside the heap window, pairwise disjoint
and clear of the block descriptors.

`splitBlock` puts the payload of the block it creates at the address of that block's own
descriptor (`heapInit` leaves `blockHeader` bytes between the two), so the layout is right
exactly as long as every allocation is served by the first block of the list.

The blocks are list data: a descriptor keeps its values whatever is written at its address. In the
source one that is split off less than 16 bytes behind another also overwrites it.

* `layout_iff_servedByFirst` — the exact condition, over every run of a well-behaved client
* `layout_overlap` — a run after which two live allocations overlap
-/

namespace MayaOs.Kernel

open MayaOs.Lib

/-! ## Runs of a client -/

inductive HeapOp where
  | kmalloc (size : Nat)
  | kfree (ptr : Nat)
  deriving Repr, DecidableEq

/-- The heap and the pointers a client has obtained and not given back. -/
structure Client where
  heap : Heap
  live : List Nat
  deriving Repr, DecidableEq

/-- A client that asks for less than 2^31 bytes and frees only NULL and what it owns. -/
def clientStep (s : Client) : HeapOp → Option Client
  | .kmalloc size =>
    if size < 2 ^ 31 then
      some { heap := (kmalloc s.heap size).2, live := (kmalloc s.heap size).1.toList ++ s.live }
    else none
  | .kfree ptr =>
    if ptr = 0 ∨ ptr ∈ s.live then some { heap := kfree s.heap ptr, live := s.live.erase ptr }
    else none

/-- The client after `heap_init`. -/
def Client.boot : Client := { heap := heapInit Heap.unset, live := [] }

/-! ## The layout -/

/-- `[p, p + block size)`. -/
def MemoryBlock.payload (b : MemoryBlock) : Set Nat := Set.Ico b.start (b.start + b.size)

/-- The bytes of the descriptor itself. -/
def MemoryBlock.descriptor (b : MemoryBlock) : Set Nat := Set.Ico b.addr (b.addr + blockHeader)

/-- The blocks of the live allocations. -/
def Client.liveBlocks (s : Client) : List MemoryBlock :=
  s.heap.blocks.filter fun b => decide (b.start ∈ s.live)

structure LayoutOk (s : Client) : Prop where
  nodup : s.live.Nodup
  backed : ∀ p ∈ s.live, ∃ b ∈ s.heap.blocks, b.start = p
  inside : ∀ b ∈ s.liveBlocks, b.payload ⊆ Set.Ico heapStart heapEnd
  disjoint : s.liveBlocks.Pairwise fun b c => Disjoint b.payload c.payload
  descriptors : ∀ b ∈ s.liveBlocks, ∀ d ∈ s.heap.blocks, Disjoint b.payload d.descriptor

/--
No later block is preferred to the first one: a later free block that is large enough occurs
only together with a first block that is free, large enough and not larger.
-/
def ServedByFirst (s : Client) : HeapOp → Prop
  | .kmalloc size =>
    0 < size → ∀ b ∈ s.heap.blocks.tail, b.Fits (roundUp4 size) →
      ∃ f ∈ s.heap.blocks.head?, f.Fits (roundUp4 size) ∧ f.size ≤ b.size
  | .kfree _ => True

/-! ## One owner at a time -/

/-- The first descriptor of the list, whatever its size and mark. -/
def firstBlock (size : Nat) (used : Bool) : MemoryBlock where
  addr := heapStart
  start := heapStart + blockHeader
  size := size
  used := used

/-- The bytes that `heap_init` puts into its single block. -/
def heapBytes : Nat := heapEnd - heapStart - blockHeader

/-- The heap as one block. -/
structure Whole (s : Client) (used : Bool) : Prop where
  blocks : s.heap.blocks = [firstBlock heapBytes used]
  live : s.live = if used then [heapStart + blockHeader] else []

/-- The first block allocated with `n` bytes, and the free rest `f`. -/
structure Split (s : Client) (n : Nat) (f : MemoryBlock) : Prop where
  pos : 0 < n
  blocks : s.heap.blocks = [firstBlock n true, f]
  free : f.used = false
  addr : f.addr = heapStart + blockHeader + n
  start : f.start = heapStart + blockHeader + n
  total : n + blockHeader + f.size = heapBytes
  live : s.live = [heapStart + blockHeader]

/-- At most one live allocation, and it is the first block. -/
def SingleOwner (s : Client) : Prop := (∃ used, Whole s used) ∨ ∃ n f, Split s n f

theorem singleOwner_boot : SingleOwner Client.boot := Or.inl ⟨false, rfl, rfl⟩

theorem heapStart_add_heapBytes : heapStart + blockHeader + heapBytes = heapEnd := rfl

theorem disjoint_Ico_of_le {a b c d : Nat} (h : b ≤ c ∨ d ≤ a) :
    Disjoint (Set.Ico a b) (Set.Ico c d) := by
  rw [Set.disjoint_left]
  intro x hx hy
  rw [Set.mem_Ico] at hx hy
  omega

theorem payload_firstBlock (n : Nat) (used : Bool) :
    (firstBlock n used).payload
      = Set.Ico (heapStart + blockHeader) (heapStart + blockHeader + n) := rfl

/-- The first block keeps clear of its own descriptor and stays in the window. -/
theorem firstBlock_ok {n : Nat} (hn : n ≤ heapBytes) :
    (firstBlock n true).payload ⊆ Set.Ico heapStart heapEnd ∧
      Disjoint (firstBlock n true).payload (firstBlock n true).descriptor := by
  constructor
  · have hend := heapStart_add_heapBytes
    rw [payload_firstBlock]
    exact Set.Ico_subset_Ico (by omega) (by omega)
  · exact disjoint_Ico_of_le (Or.inr (le_refl _))

/-- The live blocks are the first block alone, or none. -/
theorem SingleOwner.liveBlocks {s : Client} (h : SingleOwner s) :
    (s.live = [] ∧ s.liveBlocks = []) ∨
    ∃ n, n ≤ heapBytes ∧ s.live = [heapStart + blockHeader] ∧ s.liveBlocks = [firstBlock n true] ∧
      ∀ d ∈ s.heap.blocks, Disjoint (firstBlock n true).payload d.descriptor := by
  rcases h with ⟨used, h⟩ | ⟨n, f, h⟩
  · cases used with
    | false =>
      left
      refine ⟨h.live, ?_⟩
      unfold Client.liveBlocks
      rw [h.blocks, h.live]
      simp
    | true =>
      right
      refine ⟨heapBytes, le_refl _, h.live, ?_, ?_⟩
      · unfold Client.liveBlocks
        rw [h.blocks, h.live]
        simp [firstBlock]
      · intro d hd
        rw [h.blocks, List.mem_singleton] at hd
        rw [hd]
        exact (firstBlock_ok (le_refl _)).2
  · right
    have hpos := h.pos
    have htotal := h.total
    have hn : n ≤ heapBytes := by omega
    refine ⟨n, hn, h.live, ?_, ?_⟩
    · have hf : f.start ≠ heapStart + blockHeader := by rw [h.start]; omega
      unfold Client.liveBlocks
      rw [h.blocks, h.live]
      simp [firstBlock, hf]
    · intro d hd
      rw [h.blocks] at hd
      simp only [List.mem_cons, List.not_mem_nil, or_false] at hd
      rcases hd with rfl | rfl
      · exact (firstBlock_ok hn).2
      · refine disjoint_Ico_of_le (Or.inl ?_)
        rw [h.addr]
        exact le_refl _

/-- **With a single owner the layout is right.** -/
theorem SingleOwner.layoutOk {s : Client} (h : SingleOwner s) : LayoutOk s := by
  rcases h.liveBlocks with ⟨hlive, hblocks⟩ | ⟨n, hn, hlive, hblocks, hdesc⟩
  · constructor
    · rw [hlive]; exact List.nodup_nil
    · rw [hlive]; simp
    · rw [hblocks]; simp
    · rw [hblocks]; exact List.Pairwise.nil
    · rw [hblocks]; simp
  · constructor
    · rw [hlive]; simp
    · intro p hp
      have hmem : firstBlock n true ∈ s.liveBlocks := by rw [hblocks]; simp
      rw [hlive, List.mem_singleton] at hp
      exact ⟨_, (List.mem_filter.mp hmem).1, hp.symm⟩
    · intro b hb
      rw [hblocks, List.mem_singleton] at hb
      rw [hb]
      exact (firstBlock_ok hn).1
    · rw [hblocks]; exact List.pairwise_singleton _ _
    · intro b hb
      rw [hblocks, List.mem_singleton] at hb
      rw [hb]
      exact hdesc

/-! ## One step -/

theorem roundUp4_bounds {size : Nat} (hpos : 0 < size) (hlt : size < 2 ^ 31) :
    0 < roundUp4 size ∧ roundUp4 size < 2 ^ 31 + 4 := by
  unfold roundUp4
  rw [wrap32_eq_self (by omega)]
  omega

/-- **An allocation from a block whose descriptor lies at its payload breaks the layout.** -/
theorem not_layoutOk_of_own_descriptor {s : Client} {b : MemoryBlock} (hb : b ∈ s.heap.blocks)
    (hlive : b.start ∈ s.live) (haddr : b.addr = b.start) (hpos : 0 < b.size) : ¬ LayoutOk s := by
  intro h
  have hmem : b ∈ s.liveBlocks := List.mem_filter.mpr ⟨hb, by simpa using hlive⟩
  have hdis := Set.disjoint_left.mp (h.descriptors b hmem b hb)
  refine @hdis b.start ?_ ?_
  · exact Set.mem_Ico.mpr ⟨le_refl _, by omega⟩
  · rw [← haddr]
    exact Set.mem_Ico.mpr ⟨le_refl _, by unfold blockHeader; omega⟩

theorem heapStart_pos : heapStart + blockHeader ≠ 0 := by decide

/-- Freeing the only allocation gives the whole heap back. -/
theorem kfree_owner {s : Client} (h : SingleOwner s) :
    (kfree s.heap (heapStart + blockHeader)).blocks = [firstBlock heapBytes false] := by
  have h0 := heapStart_pos
  rcases h with ⟨used, h⟩ | ⟨n, f, h⟩
  · unfold kfree
    rw [if_neg h0, h.blocks]
    simp [mergeNext, mergePrev, firstBlock]
  · have htotal := h.total
    have hsize : wrap32 (n + (f.size + blockHeader)) = heapBytes := by
      have hbytes : heapBytes = 2 ^ 28 - 16 := rfl
      rw [wrap32_eq_self (by omega)]
      omega
    unfold kfree
    rw [if_neg h0, h.blocks]
    simp [mergeNext, mergePrev, firstBlock, h.free, hsize]

theorem kfree_singleOwner {s : Client} {ptr : Nat} (h : SingleOwner s)
    (hptr : ptr = 0 ∨ ptr ∈ s.live) :
    SingleOwner { heap := kfree s.heap ptr, live := s.live.erase ptr } := by
  rcases h.liveBlocks with ⟨hlive, -⟩ | ⟨n, -, hlive, -, -⟩
  · obtain rfl : ptr = 0 := by simpa [hlive] using hptr
    rw [hlive, List.erase_nil, ← hlive]
    exact h
  · rcases hptr with rfl | hmem
    · rw [List.erase_of_not_mem (by rw [hlive]; simpa using heapStart_pos.symm)]
      exact h
    · obtain rfl : ptr = heapStart + blockHeader := by simpa [hlive] using hmem
      exact Or.inl ⟨false, kfree_owner h, by simp [hlive]⟩

/-- Carving the free heap leaves a single owner. -/
theorem kmalloc_whole_free {s : Client} {size : Nat} (h : Whole s false) (hpos : 0 < size)
    (hlt : size < 2 ^ 31) :
    SingleOwner
      { heap := (kmalloc s.heap size).2, live := (kmalloc s.heap size).1.toList ++ s.live } := by
  obtain ⟨hn0, hnlt⟩ := roundUp4_bounds hpos hlt
  have hnil : s.live = [] := h.live
  rcases kmalloc_cases (h := s.heap) hpos with ⟨heq, -⟩ | ⟨pre, b, post, hl, hch, heq⟩
  · rw [heq]
    exact Or.inl ⟨false, h.blocks, h.live⟩
  · obtain ⟨rfl, rfl, rfl⟩ : pre = [] ∧ b = firstBlock heapBytes false ∧ post = [] := by
      rw [h.blocks] at hl
      cases pre with
      | nil => simpa [eq_comm] using hl
      | cons c pre => simp at hl
    rw [heq, hnil]
    have hfit : roundUp4 size ≤ heapBytes := hch.fits.2
    have hbytes : heapBytes = 2 ^ 28 - 16 := rfl
    have hstart : heapStart + blockHeader = 2 ^ 31 + 2 ^ 30 + 2 ^ 28 + 16 := rfl
    by_cases hlarge : tooLarge (firstBlock heapBytes false) (roundUp4 size) = true
    · have hroom : roundUp4 size + blockHeader + 4 < heapBytes := by
        unfold tooLarge at hlarge
        rw [wrap32_eq_self (by unfold blockHeader; omega)] at hlarge
        exact of_decide_eq_true hlarge
      refine Or.inr ⟨roundUp4 size, splitBlock (firstBlock heapBytes false) (roundUp4 size), hn0,
        ?_, rfl, ?_, ?_, ?_, rfl⟩
      · unfold carve
        rw [if_pos hlarge]
        rfl
      · exact wrap32_eq_self (by simp only [firstBlock]; omega)
      · exact wrap32_eq_self (by simp only [firstBlock]; omega)
      · show roundUp4 size + blockHeader
          + wrap32 (heapBytes + 2 ^ 32 - roundUp4 size - blockHeader) = heapBytes
        unfold wrap32
        omega
    · refine Or.inl ⟨true, ?_, rfl⟩
      unfold carve
      rw [if_neg hlarge]
      rfl

/-- When the whole heap is allocated there is nothing to carve. -/
theorem kmalloc_whole_used {s : Client} {size : Nat} (h : Whole s true) (hpos : 0 < size) :
    SingleOwner
      { heap := (kmalloc s.heap size).2, live := (kmalloc s.heap size).1.toList ++ s.live } := by
  rcases kmalloc_cases (h := s.heap) hpos with ⟨heq, -⟩ | ⟨pre, b, post, hl, hch, -⟩
  · rw [heq]
    exact Or.inl ⟨true, h.blocks, h.live⟩
  · exfalso
    have hb : b ∈ s.heap.blocks := by rw [hl]; simp
    rw [h.blocks, List.mem_singleton] at hb
    have hfree := hch.fits.1
    rw [hb] at hfree
    cases hfree

/-- Once the heap is split, the search ends at the rest `f`, or fails when `f` is too small. -/
theorem kmalloc_split {s : Client} {size n : Nat} {f : MemoryBlock} (h : Split s n f)
    (hpos : 0 < size) :
    (¬ f.Fits (roundUp4 size) ∧ kmalloc s.heap size = (none, s.heap)) ∨
    (f.Fits (roundUp4 size) ∧ ∃ used, kmalloc s.heap size = (some f.start,
      { blocks := firstBlock n true :: carve f (roundUp4 size), usedMemory := used })) := by
  rcases kmalloc_cases (h := s.heap) hpos with ⟨heq, hall⟩ | ⟨pre, b, post, hl, hch, heq⟩
  · refine Or.inl ⟨fun hfit => ?_, heq⟩
    have hbig := hall f (by rw [h.blocks]; simp) hfit
    have htotal := h.total
    have hbytes : heapBytes = 2 ^ 28 - 16 := rfl
    omega
  · obtain ⟨rfl, rfl, rfl⟩ : pre = [firstBlock n true] ∧ b = f ∧ post = [] := by
      rw [h.blocks] at hl
      rcases pre with _ | ⟨c, _ | ⟨d, pre⟩⟩
      · -- the first block is in use
        have hfree := hch.fits.1
        rw [← (List.cons.inj hl).1] at hfree
        cases hfree
      · simpa [eq_comm] using hl
      · simp at hl
    rw [List.append_nil] at heq
    exact Or.inr ⟨hch.fits, _, heq⟩

/-- So the first block serves nothing, and the rest has to be too small. -/
theorem servedByFirst_split {s : Client} {size n : Nat} {f : MemoryBlock} (h : Split s n f)
    (hpos : 0 < size) : ServedByFirst s (.kmalloc size) ↔ ¬ f.Fits (roundUp4 size) := by
  constructor
  · intro hq hfit
    obtain ⟨g, hg, hgfit, -⟩ := hq hpos f (by rw [h.blocks]; simp) hfit
    rw [h.blocks] at hg
    simp only [List.head?_cons, Option.mem_def, Option.some.injEq] at hg
    have hfree := hgfit.1
    rw [← hg] at hfree
    cases hfree
  · intro hnot _ b hb hfit
    rw [h.blocks, List.tail_cons, List.mem_singleton] at hb
    exact absurd (hb ▸ hfit) hnot

/-- An allocation from the rest lies on its own descriptor. -/
theorem not_layoutOk_kmalloc_split {s : Client} {size n : Nat} {f : MemoryBlock} (h : Split s n f)
    (hpos : 0 < size) (hlt : size < 2 ^ 31) (hfit : f.Fits (roundUp4 size)) :
    ¬ LayoutOk
      { heap := (kmalloc s.heap size).2, live := (kmalloc s.heap size).1.toList ++ s.live } := by
  rcases kmalloc_split h hpos with ⟨hnot, -⟩ | ⟨-, used, heq⟩
  · exact absurd hfit hnot
  · obtain ⟨hn0, -⟩ := roundUp4_bounds hpos hlt
    obtain ⟨c, rest, hcarve, hcaddr, hcstart, hcsize, -, -⟩ := carve_head f (roundUp4 size)
    rw [heq]
    refine not_layoutOk_of_own_descriptor (b := c) ?_ ?_ ?_ ?_
    · simp [hcarve]
    · simp [hcstart]
    · rw [hcaddr, hcstart, h.addr, h.start]
    · have hle := hfit.2
      rw [hcsize]
      unfold carvedSize
      split <;> omega

/-- **One step**: the layout is right afterwards iff the operation is served by the first block. -/
theorem layoutOk_step {s s' : Client} {op : HeapOp} (h : SingleOwner s)
    (hs : clientStep s op = some s') :
    (ServedByFirst s op → SingleOwner s') ∧ (LayoutOk s' → ServedByFirst s op) := by
  cases op with
  | kfree ptr =>
    simp only [clientStep] at hs
    split at hs
    · next hptr =>
      cases hs
      exact ⟨fun _ => kfree_singleOwner h hptr, fun _ => trivial⟩
    · cases hs
  | kmalloc size =>
    simp only [clientStep] at hs
    split at hs
    · next hlt =>
      cases hs
      rcases Nat.eq_zero_or_pos size with rfl | hpos
      · exact ⟨fun _ => h, fun _ hc => absurd hc (by omega)⟩
      · rcases h with ⟨used, h⟩ | ⟨n, f, h⟩
        · -- one block: there is no later block to prefer
          refine ⟨fun _ => ?_, fun _ _ b hb => ?_⟩
          · cases used with
            | false => exact kmalloc_whole_free h hpos hlt
            | true => exact kmalloc_whole_used h hpos
          · rw [h.blocks] at hb
            simp at hb
        · rw [servedByFirst_split h hpos]
          refine ⟨fun hnot => ?_, fun hok hfit => not_layoutOk_kmalloc_split h hpos hlt hfit hok⟩
          rcases kmalloc_split h hpos with ⟨-, heq⟩ | ⟨hfit, -⟩
          · rw [heq]
            exact Or.inr ⟨n, f, h⟩
          · exact absurd hfit hnot
    · cases hs

/-! ## Runs -/

/--
**The layout is right in every state of a run iff every step is served by the first block.**

The run starts after `heap_init`; the requests are arbitrary below 2^31 and `kfree` is given NULL
or a pointer that is live.
-/
theorem layout_iff_servedByFirst (ops : List HeapOp) :
    Always clientStep LayoutOk Client.boot ops ↔
      Along clientStep (fun s op _ => ServedByFirst s op) Client.boot ops := by
  refine always_iff_along (I := SingleOwner) ?_ ?_ singleOwner_boot singleOwner_boot.layoutOk
  · intro s op s' hs hstep
    obtain ⟨h1, h2⟩ := layoutOk_step hs hstep
    exact ⟨h2, fun hq => (h1 hq).layoutOk⟩
  · intro s op s' hs hstep hq
    exact (layoutOk_step hs hstep).1 hq

/--
Three allocations of 16 bytes, so that no descriptor is written over another one. When the first two
are freed, their blocks merge to 48 bytes, although the third lies 32 bytes after their start.
-/
def overlapRun : List HeapOp :=
  [.kmalloc 16, .kmalloc 16, .kmalloc 16, .kfree 0xD0000020, .kfree 0xD0000010, .kmalloc 36]

def overlapClient : Client where
  heap :=
    { blocks :=
        [{ addr := 0xD0000000, start := 0xD0000010, size := 48, used := true },
         { addr := 0xD0000030, start := 0xD0000030, size := 16, used := true },
         { addr := 0xD0000040, start := 0xD0000040, size := 0xFFFFF90, used := false }]
      usedMemory := 64 }
  live := [0xD0000010, 0xD0000030]

/-- **Two live allocations overlap**: the last one of `overlapRun` covers the third. -/
theorem layout_overlap :
    run clientStep Client.boot overlapRun = some overlapClient ∧ ¬ LayoutOk overlapClient := by
  refine ⟨by decide, fun h => ?_⟩
  have hdis := Set.disjoint_left.mp ((List.pairwise_cons.mp h.disjoint).1
    { addr := 0xD0000030, start := 0xD0000030, size := 16, used := true } (by decide))
  refine @hdis 0xD0000030 ?_ ?_
  · exact Set.mem_Ico.mpr (by decide)
  · exact Set.mem_Ico.mpr (by decide)

end MayaOs.Kernel
