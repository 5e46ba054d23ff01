import MayaOs.Lib.LinkedList
import MayaOs.Lib.Run
import MayaOs.Properties.HeapRefinement

/-!
# Conservation in the heap

Whatever `kmalloc` and `kfree` are called with, the bytes of the heap should stay accounted for and
free blocks merged.

* `conserved_of_splitsClear` — so it is while no block is split off over a descriptor
* `descriptor_overwritten` — the second of two small requests does that
-/

namespace MayaOs.Kernel

open MayaOs.Lib

/-! ## The property -/

/-- The block whose descriptor is at `p`. -/
def blockAt (m : ByteMemory) (p : Nat) : MemoryBlock where
  addr := p
  start := (descriptorAt m p).start
  size := (descriptorAt m p).size
  used := (descriptorAt m p).used

/-- The blocks that the `next` pointers from `heap_blocks` lead through, up to NULL. -/
def BlockList (s : HeapMemory) (l : List MemoryBlock) : Prop :=
  ∃ ps, Chain 0 (fun p => (descriptorAt s.mem p).next) s.heapBlocks ps ∧
    l = ps.map (blockAt s.mem)

/-- Sizes and descriptors add up to the heap, and what is free has been merged. -/
structure Conserved (l : List MemoryBlock) : Prop where
  bytes : (l.map (·.size)).sum + blockHeader * (l.length - 1) = heapEnd - heapStart - blockHeader
  coalesced : Coalesced l
  empty : (∀ b ∈ l, b.used = false) → l = [initialBlock]

def HeapConserved (s : HeapMemory) : Prop := ∃ l, BlockList s l ∧ Conserved l

/--
The descriptor that a `kmalloc` splits off overlaps no descriptor on the list.

The block to be split is the first of the smallest free ones that are large enough.
-/
def SplitsClear (s : HeapMemory) : HeapCall → Prop
  | .kmalloc size => size.toNat ≠ 0 → ∀ pre b post, BlockList s (pre ++ b :: post) →
      Chosen (roundUp4 size.toNat) pre b post →
      roundUp4 size.toNat + blockHeader + 4 < b.size →
      ∀ c ∈ pre ++ b :: post, Apart (b.start + roundUp4 size.toNat) c.addr
  | .kfree _ => True

/-! ## The list in memory -/

theorem BlockList.unique {s : HeapMemory} {l l' : List MemoryBlock} (h : BlockList s l)
    (h' : BlockList s l') : l = l' := by
  obtain ⟨ps, hps, rfl⟩ := h
  obtain ⟨qs, hqs, rfl⟩ := h'
  rw [hps.unique hqs]

theorem Linked.chain {m : ByteMemory} : ∀ {l : List MemoryBlock}, Linked m 0 l →
    (∀ b ∈ l, b.addr ≠ 0) →
      Chain 0 (fun p => (descriptorAt m p).next) (headPtr 0 l) (l.map (·.addr)) ∧
        l = (l.map (·.addr)).map (blockAt m) := by
  intro l
  induction l with
  | nil => intro _ _; exact ⟨rfl, rfl⟩
  | cons b l ih =>
    intro h hpos
    obtain ⟨hchain, hmap⟩ := ih h.2 fun c hc => hpos c (List.mem_cons_of_mem b hc)
    have hb : blockAt m b.addr = b := by
      unfold blockAt
      rw [h.1]
    refine ⟨⟨rfl, hpos b List.mem_cons_self, ?_⟩, ?_⟩
    · show Chain 0 _ (descriptorAt m b.addr).next _
      rw [h.1]
      exact hchain
    · rw [List.map_cons, List.map_cons, hb, ← hmap]

theorem HoldsHeap.blockList {s : HeapMemory} {h : Heap} (hr : HoldsHeap s h) :
    BlockList s h.blocks := by
  have hshape := hr.inv.toHeapShape
  obtain ⟨hchain, hmap⟩ := hr.linked.chain fun b hb =>
    Nat.ne_of_gt (hshape.addressable b hb).1
  refine ⟨h.blocks.map (·.addr), ?_, hmap⟩
  rw [hr.head, ← hshape.headPtr_eq]
  exact hchain

theorem totalBytes_eq (l : List MemoryBlock) :
    totalBytes l = (l.map (·.size)).sum + blockHeader * l.length := by
  induction l with
  | nil => rfl
  | cons b l ih =>
    rw [totalBytes_cons, ih, List.map_cons, List.sum_cons, List.length_cons, Nat.mul_add]
    omega

/-- **The invariant of the list is the property.** -/
theorem HeapInv.conserved {l : List MemoryBlock} (h : HeapInv l) : Conserved l where
  bytes := by
    have htotal := h.total
    rw [totalBytes_eq] at htotal
    have hpos : 0 < l.length := by
      obtain ⟨f, hf, -⟩ := h.head
      cases l with
      | nil => cases hf
      | cons b l => exact Nat.succ_pos _
    have hheader : blockHeader = 16 := rfl
    rw [hheader] at htotal ⊢
    omega
  coalesced := h.coalesced
  empty := h.eq_initial

/-! ## Runs -/

/-- Some list of blocks is in memory. -/
def HoldsSome (s : HeapMemory) : Prop := ∃ h, HoldsHeap s h

theorem HoldsSome.conserved {s : HeapMemory} (h : HoldsSome s) : HeapConserved s := by
  obtain ⟨h, hr⟩ := h
  exact ⟨h.blocks, hr.blockList, hr.inv.conserved⟩

theorem HoldsHeap.splitApart {s : HeapMemory} {h : Heap} (hr : HoldsHeap s h) {size : UInt32}
    (hclear : SplitsClear s (.kmalloc size)) (hsize : size.toNat ≠ 0) :
    SplitApart h.blocks size.toNat := by
  intro pre b post hl hchosen hlarge c hc
  have hshape := hr.inv.toHeapShape
  have hlist := hr.blockList
  rw [hl] at hshape hlist hc
  obtain ⟨hroom, hsplit⟩ := hshape.splitBlock hlarge hchosen.fits.2
  rw [hsplit]
  exact hclear hsize pre b post hlist hchosen hroom c hc

/-- **A call returns, with some list of blocks in memory again.** -/
theorem HoldsSome.step {s : HeapMemory} (h : HoldsSome s) (call : HeapCall)
    (hclear : SplitsClear s call) : ∃ s', s.step call = some s' ∧ HoldsSome s' := by
  obtain ⟨h, hr⟩ := h
  cases call with
  | kmalloc size =>
    obtain ⟨s', hs', hr'⟩ := hr.kmalloc (hr.splitApart hclear)
    refine ⟨s', ?_, _, hr'⟩
    rw [HeapMemory.step, hs']
    rfl
  | kfree ptr =>
    obtain ⟨s', hs', hr'⟩ := hr.kfree ptr.toNat
    exact ⟨s', hs', _, hr'⟩

theorem holdsSome_boot (mem : ByteMemory) : HoldsSome (HeapMemory.boot mem) :=
  ⟨_, holdsHeap_init mem⟩

/-- The first split leaves the descriptor of `heap_init` alone. -/
theorem splitsClear_boot (mem : ByteMemory) (call : HeapCall) :
    SplitsClear (HeapMemory.boot mem) call := by
  cases call with
  | kfree ptr => trivial
  | kmalloc size =>
    intro _ pre b post hlist _ _ c hc
    have hinit : pre ++ b :: post = [initialBlock] :=
      hlist.unique (holdsHeap_init mem).blockList
    have hb : b ∈ pre ++ b :: post := List.mem_append_right pre List.mem_cons_self
    rw [hinit] at hb hc
    obtain rfl := List.mem_singleton.mp hb
    obtain rfl := List.mem_singleton.mp hc
    exact Or.inr (Nat.le_add_right _ _)

/--
**While no block is split off over a descriptor, the heap is conserved**: every call returns, and
in every state of the run the blocks account for the whole heap and no two neighbours are free.
-/
theorem conserved_of_splitsClear (mem : ByteMemory) (calls : List HeapCall)
    (h : Guarded HeapMemory.step SplitsClear (HeapMemory.boot mem) calls) :
    (∃ t, run HeapMemory.step (HeapMemory.boot mem) calls = some t) ∧
      Always HeapMemory.step HeapConserved (HeapMemory.boot mem) calls := by
  have hstep := fun s call hs => HoldsSome.step (s := s) hs call
  constructor
  · obtain ⟨t, ht, -⟩ := Guarded.run hstep (holdsSome_boot mem) h
    exact ⟨t, ht⟩
  · refine Guarded.always (I := HoldsSome) (fun s hs => hs.conserved) ?_ (holdsSome_boot mem) h
    intro s call s' hs hclear hs'
    obtain ⟨t, ht, hrep⟩ := hstep s call hs hclear
    rw [hs'] at ht
    cases ht
    exact hrep

/-- A block is allocated and freed twice; the last call is given no block at all. -/
theorem freed_twice_conserved :
    (∃ t, run HeapMemory.step (HeapMemory.boot fun _ => 0)
      [.kmalloc 64, .kfree 0xD0000010, .kfree 0xD0000010, .kfree 7] = some t) ∧
      Always HeapMemory.step HeapConserved (HeapMemory.boot fun _ => 0)
        [.kmalloc 64, .kfree 0xD0000010, .kfree 0xD0000010, .kfree 7] := by
  exact conserved_of_splitsClear (fun _ => 0) _ ⟨splitsClear_boot _ _,
    fun _ _ => ⟨trivial, fun _ _ => ⟨trivial, fun _ _ => ⟨trivial, fun _ _ => trivial⟩⟩⟩⟩

/-! ## Two small requests -/

/-- The second descriptor that is split off lies 4 bytes behind the first one. -/
def smallRequests : List HeapCall := [.kmalloc 4, .kmalloc 4]

/--
**The second request writes over the descriptor it splits.**

The list then holds a block of 0xD0000001 bytes.
-/
theorem descriptor_overwritten :
    ∃ t, run HeapMemory.step (HeapMemory.boot fun _ => 0) smallRequests = some t ∧
      ¬ HeapConserved t := by
  have hrun : (run HeapMemory.step (HeapMemory.boot fun _ => 0) smallRequests).map (fun t =>
      (t.heapBlocks, [0xD0000000, 0xD0000014, 0xD0000018].map (descriptorAt t.mem))) =
      some (0xD0000000, [⟨0xD0000010, 4, true, 0xD0000014⟩, ⟨0xD0000014, 4, true, 0xD0000018⟩,
        ⟨4, 0xD0000001, true, 0⟩]) := by
    decide +kernel
  obtain ⟨t, ht, hread⟩ := Option.map_eq_some_iff.mp hrun
  refine ⟨t, ht, ?_⟩
  rintro ⟨l, hlist, hconserved⟩
  simp only [List.map_cons, List.map_nil, Prod.mk.injEq, List.cons.injEq] at hread
  obtain ⟨hhead, h1, h2, h3, -⟩ := hread
  have hblocks : BlockList t ([0xD0000000, 0xD0000014, 0xD0000018].map (blockAt t.mem)) := by
    refine ⟨[0xD0000000, 0xD0000014, 0xD0000018],
      ⟨hhead, by decide, ?_, by decide, ?_, by decide, ?_⟩, rfl⟩
    · exact congrArg Descriptor.next h1
    · exact congrArg Descriptor.next h2
    · exact congrArg Descriptor.next h3
  rw [hlist.unique hblocks] at hconserved
  have hbytes := hconserved.bytes
  simp only [List.map_cons, List.map_nil, blockAt, h1, h2, h3] at hbytes
  revert hbytes
  decide

end MayaOs.Kernel
