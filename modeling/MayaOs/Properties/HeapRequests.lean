import MayaOs.Properties.AlignedBlocks

/-!
# Requests of any size

`kmalloc` rounds a request up to a multiple of 4, `kmalloc_aligned` to a multiple of 4096, and adds a
page. The sums have 32 bits, so near the limit a large request becomes a small one.

* `HoldsHeap.kmallocRight_iff` — when `kmalloc` answers as it should
* `HoldsHeap.alignedHolds_iff` — when the block of `kmalloc_aligned` is large enough
* `request_iff` — in every state of a run
* `largest_request` — both give an address for a request that no block could hold
-/

namespace MayaOs.Kernel

open MayaOs.Lib

/-! ## The property -/

/-- A multiple of 4, however large. -/
def exactRound4 (n : Nat) : Nat := (n + 3) / 4 * 4

/-- `b` is on the list, is free and has at least `size` bytes, and no such block has fewer. -/
structure SmallestFit (l : List MemoryBlock) (size : Nat) (b : MemoryBlock) : Prop where
  mem : b ∈ l
  fits : b.Fits size
  smallest : ∀ c ∈ l, c.Fits size → b.size ≤ c.size

/--
NULL exactly when no free block is large enough. Otherwise the start of a smallest one that is,
whose descriptor is then marked and has the bytes asked for.
-/
def KmallocRight (s : HeapMemory) (n : Nat) : Prop :=
  ∃ p s', s.kmalloc n = some (p, s') ∧ ∃ l, BlockList s l ∧
    (p = 0 ↔ ∀ b ∈ l, ¬ b.Fits (exactRound4 n)) ∧
    (p ≠ 0 → ∃ b, SmallestFit l (exactRound4 n) b ∧ b.start = p ∧
      (blockAt s'.mem b.addr).start = p ∧ n ≤ (blockAt s'.mem b.addr).size ∧
        (blockAt s'.mem b.addr).used = true)

/-- The address returned lies in a block of at least `n` bytes. -/
def AlignedHolds (s : HeapMemory) (n : Nat) : Prop :=
  ∃ p s', s.kmallocAligned n = some (p, s') ∧ (p ≠ 0 → ∃ l, BlockList s' l ∧
    ∃ b ∈ l, b.start ≤ p ∧ p < b.start + b.size ∧ n ≤ b.size)

/-- A request that rounds to nothing finds no free block. -/
def RoundsTo4 (s : HeapMemory) (n : Nat) : Prop :=
  2 ^ 32 - 4 < n → ∀ l, BlockList s l → ∀ b ∈ l, b.used = true

/-- A request that rounds to no page finds no free block of a page. -/
def RoundsToPage (s : HeapMemory) (n : Nat) : Prop :=
  2 ^ 32 - 4096 < n → ∀ l, BlockList s l → ∀ b ∈ l, ¬ b.Fits 4096

/-- The conditions on a call. -/
def CallExact (s : HeapMemory) (call : HeapCall) : Prop :=
  SplitsClear s call ∧ ∀ size, call = .kmalloc size → RoundsTo4 s size.toNat

/-! ## kmalloc -/

theorem roundUp4_eq {n : Nat} (h : n ≤ 2 ^ 32 - 4) : roundUp4 n = exactRound4 n := by
  unfold roundUp4 exactRound4
  rw [wrap32_eq_self (by omega)]

theorem roundUp4_wrap {n : Nat} (h : 2 ^ 32 - 4 < n) (hlt : n < 2 ^ 32) : roundUp4 n = 0 := by
  unfold roundUp4 wrap32
  omega

theorem le_exactRound4 (n : Nat) : n ≤ exactRound4 n := by
  unfold exactRound4
  omega

/-- The new descriptor begins where the chosen one does, or behind its first field. -/
theorem HeapShape.place {l : List MemoryBlock} (h : HeapShape l) {b : MemoryBlock} (hb : b ∈ l)
    (n : Nat) : roundUp4 n = 0 ∧ b.addr = b.start ∨ b.addr + 4 ≤ b.start + roundUp4 n := by
  have hmul : roundUp4 n = 0 ∨ 4 ≤ roundUp4 n := by
    unfold roundUp4
    omega
  obtain ⟨pre, post, rfl⟩ := List.append_of_mem hb
  obtain ⟨hlow, -, haddr, -⟩ := h.bounds
  have hheader : blockHeader = 16 := rfl
  omega

/-- What a split writes: a descriptor at the new address, and then two fields of the chosen one. -/
theorem split_form {m : ByteMemory} {b : MemoryBlock} {size : Nat}
    (hstart : (descriptorAt m b.addr).start = b.start) (hsize : (descriptorAt m b.addr).size = b.size)
    (hlarge : tooLarge b size = true) (hn : b.start + size < 2 ^ 32) :
    ∃ d : Descriptor, d.start = b.start + size ∧ d.size < 2 ^ 32 ∧ d.next < 2 ^ 32 ∧
      HeapMemory.split m b.addr size =
        setNext (setSize (writeDescriptor m (b.start + size) d) b.addr size) b.addr
          (b.start + size) := by
  have hwrap : wrap32 (b.start + size) = b.start + size := wrap32_eq_self hn
  unfold HeapMemory.split
  rw [hsize, if_pos (of_decide_eq_true hlarge), hstart, hwrap]
  exact ⟨⟨b.start + size, _, false, _⟩, rfl, wrap32_lt _, word_lt _ _, rfl⟩

/-- **The chosen block keeps its start and gets its size, even if the new descriptor overlaps it.** -/
theorem blockAt_served {m : ByteMemory} {b : MemoryBlock} {size : Nat} (hb : blockAt m b.addr = b)
    (haddr : b.addr + 16 ≤ 2 ^ 32) (hfit : size ≤ b.size) (hsize : b.size + blockHeader + 4 < 2 ^ 32)
    (hend : b.start + b.size < 2 ^ 32)
    (hplace : size = 0 ∧ b.addr = b.start ∨ b.addr + 4 ≤ b.start + size) :
    blockAt (served m b size) b.addr = { b with size := carvedSize b size, used := true } := by
  have hstart : (descriptorAt m b.addr).start = b.start := congrArg MemoryBlock.start hb
  have hsize' : (descriptorAt m b.addr).size = b.size := congrArg MemoryBlock.size hb
  have hheader : blockHeader = 16 := rfl
  unfold carvedSize served blockAt
  rw [descriptorAt_setUsed haddr]
  by_cases hlarge : tooLarge b size = true
  · have hroom : size + blockHeader + 4 < b.size := by
      have hlt := of_decide_eq_true hlarge
      rw [wrap32_eq_self (by omega)] at hlt
      exact hlt
    obtain ⟨d, hdstart, hdsize, hdnext, heq⟩ := split_form hstart hsize' hlarge (by omega)
    have hn : b.start + size + 16 ≤ 2 ^ 32 := by omega
    have hread : (descriptorAt (writeDescriptor m (b.start + size) d) b.addr).start = b.start := by
      rcases hplace with ⟨hzero, hsame⟩ | hbehind
      · have hat : b.start + size = b.addr := by omega
        rw [hat] at hn hdstart ⊢
        rw [descriptorAt_writeDescriptor hn (by omega) hdsize hdnext, hdstart, hsame]
      · have hsame : word (writeDescriptor m (b.start + size) d) b.addr = word m b.addr := by
          refine word_congr (by omega) fun x _ hx => ?_
          exact sameOutside_writeDescriptor hn x (Or.inl (by omega))
        exact hsame.trans hstart
    rw [heq, descriptorAt_resize haddr (by omega) (by omega), hread, if_pos hlarge]
  · have hsmall : ¬ wrap32 (size + blockHeader + 4) < (descriptorAt m b.addr).size := by
      rw [hsize']
      exact fun hlt => hlarge (decide_eq_true hlt)
    rw [split_of_not hsmall, hstart, hsize', if_neg hlarge]

/-- No block is larger than the heap. -/
theorem HeapShape.size_lt {l : List MemoryBlock} (h : HeapShape l) {b : MemoryBlock} (hb : b ∈ l) :
    b.size < 2 ^ 28 := by
  obtain ⟨pre, post, rfl⟩ := List.append_of_mem hb
  obtain ⟨-, -, -, hbound⟩ := h.bounds
  have hheap : heapEnd - heapStart = 2 ^ 28 := rfl
  have hheader : blockHeader = 16 := rfl
  omega

section Request

variable {s : HeapMemory} {h : Heap} {n : Nat}

theorem HoldsHeap.blockAt (hr : HoldsHeap s h) {b : MemoryBlock} (hb : b ∈ h.blocks) :
    Kernel.blockAt s.mem b.addr = b := by
  obtain ⟨pre, post, hl⟩ := List.append_of_mem hb
  have hlinked := hr.linked
  rw [hl] at hlinked
  unfold Kernel.blockAt
  rw [hlinked.middle.1]

/-- The block found is marked, with its start and the size it was carved to. -/
theorem HoldsHeap.blockAt_served (hr : HoldsHeap s h) {pre post : List MemoryBlock}
    {b : MemoryBlock} (hl : h.blocks = pre ++ b :: post) (hch : Chosen (roundUp4 n) pre b post) :
    Kernel.blockAt (served s.mem b (roundUp4 n)) b.addr =
      { b with size := carvedSize b (roundUp4 n), used := true } := by
  have hb : b ∈ h.blocks := by simp [hl]
  have hshape := hr.inv.toHeapShape
  have hsize := hshape.size_lt hb
  obtain ⟨-, -, hend⟩ := hshape.start_le hb
  have htop : heapEnd = 0xE0000000 := rfl
  have hheader : blockHeader = 16 := rfl
  exact Kernel.blockAt_served (hr.blockAt hb) (hshape.addressable b hb).2 hch.fits.2 (by omega)
    (by omega) (hshape.place hb n)

/-- No block holds a request that large. -/
theorem HeapShape.not_fits {l : List MemoryBlock} (hshape : HeapShape l) (hn : 2 ^ 28 ≤ n) :
    ∀ b ∈ l, ¬ b.Fits (exactRound4 n) := by
  intro b hb hfit
  have hlt := hshape.size_lt hb
  have hle := le_exactRound4 n
  have hsize := hfit.2
  omega

/-- **A smallest free block that is large enough is marked**, if there is a block that is. -/
theorem HoldsHeap.kmalloc_smallest (hr : HoldsHeap s h) (hpos : 0 < n) :
    (s.kmalloc n = some (0, s) ∧ ∀ b ∈ h.blocks, ¬ b.Fits (roundUp4 n)) ∨
    ∃ b s', SmallestFit h.blocks (roundUp4 n) b ∧ s.kmalloc n = some (b.start, s') ∧
      Kernel.blockAt s'.mem b.addr = { b with size := carvedSize b (roundUp4 n), used := true } := by
  rcases hr.kmalloc_served hpos with ⟨hs, -, hall⟩ | ⟨pre, b, post, hl, hch, hs⟩
  · refine Or.inl ⟨hs, fun b hb hfit => ?_⟩
    have hle := hall b hb hfit
    have hlt := hr.inv.toHeapShape.size_lt hb
    omega
  · have hserved := hr.blockAt_served hl hch
    have hstart : (descriptorAt (served s.mem b (roundUp4 n)) b.addr).start = b.start :=
      congrArg MemoryBlock.start hserved
    refine Or.inr ⟨b, _, ⟨by simp [hl], hch.fits, fun c hc hfit => ?_⟩,
      hs.trans (congrArg some (Prod.ext hstart rfl)), hserved⟩
    simp only [hl, List.mem_append, List.mem_cons] at hc
    rcases hc with hc | rfl | hc
    · exact Nat.le_of_lt (hch.before c hc hfit)
    · exact Nat.le_refl _
    · exact hch.after c hc hfit

theorem HoldsHeap.kmallocRight (hr : HoldsHeap s h) (hpos : 0 < n) (hn : n ≤ 2 ^ 32 - 4) :
    KmallocRight s n := by
  have hcases := hr.kmalloc_smallest hpos
  rw [roundUp4_eq hn] at hcases
  rcases hcases with ⟨hs, hnone⟩ | ⟨b, s', hsmall, hs, hserved⟩
  · exact ⟨0, s, hs, h.blocks, hr.blockList, iff_of_true rfl hnone, fun h0 => absurd rfl h0⟩
  · have hb0 := (hr.inv.toHeapShape.start_le hsmall.mem).1
    refine ⟨b.start, s', hs, h.blocks, hr.blockList,
      iff_of_false hb0 fun hnone => hnone b hsmall.mem hsmall.fits, fun _ => ⟨b, hsmall, rfl, ?_⟩⟩
    rw [hserved]
    exact ⟨rfl, (le_exactRound4 n).trans (le_carvedSize hsmall.fits.2).1, rfl⟩

/-- **`kmalloc` answers as it should, or a request of nothing has found a free block.** -/
theorem HoldsHeap.kmallocRight_iff (hr : HoldsHeap s h) (hpos : 0 < n) (hlt : n < 2 ^ 32) :
    KmallocRight s n ↔ RoundsTo4 s n := by
  by_cases hn : n ≤ 2 ^ 32 - 4
  · exact iff_of_true (hr.kmallocRight hpos hn) fun h => absurd h (by omega)
  · have hround := roundUp4_wrap (by omega) hlt
    have hshape := hr.inv.toHeapShape
    have hnot := hshape.not_fits (n := n) (by omega)
    rcases hr.kmalloc_smallest hpos with ⟨hs, hnone⟩ | ⟨b, s', hsmall, hs, -⟩
    · refine iff_of_true ⟨0, s, hs, h.blocks, hr.blockList, iff_of_true rfl hnot,
        fun h0 => absurd rfl h0⟩ fun _ l hlist b hb => ?_
      rw [hlist.unique hr.blockList] at hb
      by_contra hfree
      exact hnone b hb ⟨by simpa using hfree, by omega⟩
    · refine iff_of_false ?_ fun hused => ?_
      · rintro ⟨p, t, ht, l, hlist, hnull, -⟩
        rw [hlist.unique hr.blockList] at hnull
        rw [hs, hnull.mpr hnot] at ht
        exact (hshape.start_le hsmall.mem).1 (congrArg Prod.fst (Option.some.inj ht))
      · have hmark := hused (by omega) h.blocks hr.blockList b hsmall.mem
        rw [hsmall.fits.1] at hmark
        simp at hmark

/-! ## kmalloc_aligned -/

/-- Only the page to spare is left of the first request. -/
theorem paddedSize_wrap (hn : 2 ^ 32 - 4096 < n) (hlt : n < 2 ^ 32) : paddedSize n = 4096 := by
  rw [paddedSize, roundUpPage_wrap hn hlt]
  rfl

/-- A free block for the first request is found. -/
theorem HeapInv.exists_padded (hinv : HeapInv h.blocks) (hn : paddedSize n ≠ 0) {b : MemoryBlock}
    (hb : b ∈ h.blocks) (hfit : b.Fits (paddedSize n)) : ∃ pre b post, Padded h.blocks n pre b post := by
  obtain ⟨-, hround⟩ := (paddedSize_cases n).resolve_left hn
  rcases kmalloc_cases (h := h) (by omega : 0 < paddedSize n) with
    ⟨-, hall⟩ | ⟨pre, b, post, hl, hch, -⟩
  · rw [hround] at hall
    have hle := hall b hb hfit
    have hlt := hinv.toHeapShape.size_lt hb
    omega
  · rw [hround] at hch
    exact ⟨pre, b, post, hn, hl, hch⟩

/-- The block of the first request is still there, or has been carved for the second one. -/
theorem Padded.mem_served {pre post : List MemoryBlock} {b : MemoryBlock}
    (hp : Padded h.blocks n pre b post) (hinv : HeapInv h.blocks) :
    ∃ c ∈ (kmalloc h (servedSize n b)).2.blocks, c.start = b.start ∧ servedSize n b ≤ c.size := by
  obtain ⟨hpos, -, hle, hround⟩ := hp.served_spec hinv
  obtain ⟨pre', b', post', hl, hch⟩ := hp.chosen_served hinv
  have hb := hp.mem
  rw [kmalloc_of_chosen hpos hl hch]
  by_cases hsame : b = b'
  · subst hsame
    obtain ⟨c, rest, hcarve, -, hcstart, hcsize, -, -⟩ := carve_head b (roundUp4 (servedSize n b))
    refine ⟨c, by simp [hcarve], hcstart, ?_⟩
    rw [hcsize]
    exact hround.trans (le_carvedSize hch.fits.2).1
  · rw [hl, List.mem_append, List.mem_cons] at hb
    refine ⟨b, ?_, rfl, hround.trans (hle.trans hp.chosen.fits.2)⟩
    rcases hb with hb | hb | hb
    · exact List.mem_append_left _ hb
    · exact absurd hb hsame
    · exact List.mem_append_right _ (List.mem_append_right _ hb)

theorem HoldsHeap.alignedHolds (hr : HoldsHeap s h) (hused : h.usedMemory < 2 ^ 32)
    (hdistinct : DistinctStarts h.blocks) (hapart : AlignedApart h.blocks n) (hpos : 0 < n)
    (hn : n ≤ 2 ^ 32 - 4096) {pre post : List MemoryBlock} {b : MemoryBlock}
    (hp : Padded h.blocks n pre b post) : AlignedHolds s n := by
  rw [hp.blocks] at hdistinct
  obtain ⟨s', hs', hr'⟩ :=
    hr.kmallocAligned hused (by omega) hapart hp fun _ => hdistinct.first
  obtain ⟨c, hc, hstart, hsize⟩ := hp.mem_served hr.inv
  refine ⟨_, s', hs', fun _ => ⟨_, hr'.blockList, c, hc, ?_⟩⟩
  have hpages := roundUpPage_eq hn
  obtain ⟨-, hbound, -⟩ := hr.inv.toHeapShape.start_le hp.mem
  obtain ⟨hle, hshift, -, -⟩ := shiftedSize_spec hp.request hbound
  -- the boundary leaves room for the pages
  have hroom : roundUpPage n + (roundUpPage b.start - b.start) ≤ servedSize n b := by
    by_cases haligned : b.start = roundUpPage b.start
    · obtain ⟨-, hserved, -, -⟩ := hp.served_spec hr.inv
      omega
    · rw [servedSize, if_neg haligned, hshift]
  rw [hstart]
  omega

/-- **The address lies in a block that is large enough, or a request of no page has found one.** -/
theorem HoldsHeap.alignedHolds_iff (hr : HoldsHeap s h) (hused : h.usedMemory < 2 ^ 32)
    (hdistinct : DistinctStarts h.blocks) (hapart : AlignedApart h.blocks n) (hpos : 0 < n)
    (hlt : n < 2 ^ 32) : AlignedHolds s n ↔ RoundsToPage s n := by
  by_cases hfound : ∃ pre b post, Padded h.blocks n pre b post
  · obtain ⟨pre, b, post, hp⟩ := hfound
    by_cases hn : n ≤ 2 ^ 32 - 4096
    · exact iff_of_true (hr.alignedHolds hused hdistinct hapart hpos hn hp)
        fun h => absurd h (by omega)
    · have hfit := hp.chosen.fits
      rw [paddedSize_wrap (by omega) hlt] at hfit
      refine iff_of_false ?_ fun hnone => hnone (by omega) h.blocks hr.blockList b hp.mem hfit
      rintro ⟨p, s', hs', hblock⟩
      rw [hp.blocks] at hdistinct
      obtain ⟨t, ht, hr'⟩ :=
        hr.kmallocAligned hused (by omega) hapart hp fun _ => hdistinct.first
      rw [hs'] at ht
      cases ht
      obtain ⟨l, hlist, c, hc, -, -, hsize⟩ := hblock (hr.inv.toHeapShape.boundary_ne hp.mem)
      rw [hlist.unique hr'.blockList] at hc
      have hcsize := hr'.inv.toHeapShape.size_lt hc
      omega
  · have hnone : ∀ pre b post, ¬ Padded h.blocks n pre b post := fun pre b post hp =>
      hfound ⟨pre, b, post, hp⟩
    obtain ⟨s', hs', -⟩ := hr.kmallocAligned_none hnone
    refine iff_of_true ⟨0, s', hs', fun h0 => absurd rfl h0⟩ fun hn l hlist b hb hfit => ?_
    rw [hlist.unique hr.blockList] at hb
    have hwrap := paddedSize_wrap hn hlt
    refine hfound (hr.inv.exists_padded (b := b) ?_ hb ?_)
    · rw [hwrap]
      decide
    · rw [hwrap]
      exact hfit

end Request

/-! ## Runs -/

/-- Some list of blocks with distinct starts is in memory, and `used_memory` has 32 bits. -/
def HoldsDistinct (s : HeapMemory) : Prop :=
  ∃ h, HoldsHeap s h ∧ h.usedMemory < 2 ^ 32 ∧ DistinctStarts h.blocks

theorem holdsDistinct_boot (mem : ByteMemory) : HoldsDistinct (HeapMemory.boot mem) :=
  ⟨_, holdsHeap_init mem, by decide, List.nodup_singleton _⟩

theorem HoldsDistinct.step {s : HeapMemory} (h : HoldsDistinct s) (call : HeapCall)
    (hexact : CallExact s call) : ∃ s', s.step call = some s' ∧ HoldsDistinct s' := by
  obtain ⟨h, hr, hused, hdistinct⟩ := h
  cases call with
  | kmalloc size =>
    obtain ⟨s', hs', hr'⟩ := hr.kmalloc (hr.splitApart hexact.1)
    refine ⟨s', ?_, _, hr', kmalloc_usedMemory_lt hused _, hdistinct.kmalloc hr.inv hr'.separate ?_⟩
    · rw [HeapMemory.step, hs']
      rfl
    · intro hpos hzero
      refine hexact.2 size rfl ?_ h.blocks hr.blockList
      by_contra hle
      have hround := le_exactRound4 size.toNat
      rw [← roundUp4_eq (by omega)] at hround
      omega
  | kfree ptr =>
    obtain ⟨s', hs', hr'⟩ := hr.kfree ptr.toNat
    exact ⟨s', hs', _, hr', kfree_usedMemory_lt hused _, hdistinct.kfree _⟩

/--
**Where no request wraps around, the block is as large as it has to be.**

In every state of a run whose requests meet the same conditions: `kmalloc` answers as it should unless
the request rounds to nothing and a free block is there; and the block that `kmalloc_aligned` returns
an address in is large enough unless the request rounds to no page and a page is there.
-/
theorem request_iff (mem : ByteMemory) (calls : List HeapCall) {t : HeapMemory}
    (h : Guarded HeapMemory.step CallExact (HeapMemory.boot mem) calls)
    (ht : run HeapMemory.step (HeapMemory.boot mem) calls = some t) (n : UInt32) (hn : n ≠ 0) :
    (KmallocRight t n.toNat ↔ RoundsTo4 t n.toNat) ∧
      (AlignedClear t n.toNat → (AlignedHolds t n.toNat ↔ RoundsToPage t n.toNat)) := by
  obtain ⟨t', ht', h, hr, hused, hdistinct⟩ :=
    Guarded.run (I := HoldsDistinct) (fun s call hs => hs.step call) (holdsDistinct_boot mem) h
  rw [ht] at ht'
  cases ht'
  have hpos : 0 < n.toNat := Nat.pos_of_ne_zero fun h0 => hn (UInt32.toNat_inj.mp h0)
  refine ⟨hr.kmallocRight_iff hpos n.toNat_lt, fun hclear => ?_⟩
  exact hr.alignedHolds_iff hused hdistinct (hr.alignedApart hclear) hpos n.toNat_lt

theorem second_page_exact :
    ∃ t, run HeapMemory.step (HeapMemory.boot fun _ => 0) [.kmalloc 4080] = some t ∧
      KmallocRight t 4096 ∧ AlignedHolds t 4096 := by
  obtain ⟨t, hguard, ht, hclear, -⟩ := second_page
  have hexact : Guarded HeapMemory.step CallExact (HeapMemory.boot fun _ => 0) [.kmalloc 4080] := by
    refine ⟨⟨hguard.1, ?_⟩, fun _ _ => trivial⟩
    rintro size heq hlarge
    cases heq
    exact absurd hlarge (by decide)
  obtain ⟨hkmalloc, haligned⟩ :=
    request_iff (fun _ => 0) [.kmalloc 4080] hexact ht 4096 (by decide)
  refine ⟨t, ht, hkmalloc.mpr fun hlarge => ?_, (haligned hclear).mpr fun hlarge => ?_⟩
  · exact absurd hlarge (by decide)
  · exact absurd hlarge (by decide)

/--
**The largest request is answered with small blocks.**

It rounds to nothing, and to no page. The block that `kmalloc_aligned` gets has 4080 bytes and ends
where the address returned begins.
-/
theorem largest_request :
    ((HeapMemory.boot fun _ => 0).kmalloc 0xFFFFFFFF).map Prod.fst = some 0xD0000010 ∧
    ((HeapMemory.boot fun _ => 0).kmallocAligned 0xFFFFFFFF).map Prod.fst = some 0xD0001000 ∧
    ¬ KmallocRight (HeapMemory.boot fun _ => 0) 0xFFFFFFFF ∧
    ¬ AlignedHolds (HeapMemory.boot fun _ => 0) 0xFFFFFFFF := by
  have hkmalloc : ((HeapMemory.boot fun _ => 0).kmalloc 0xFFFFFFFF).map Prod.fst =
      some 0xD0000010 := by decide +kernel
  have haligned : ((HeapMemory.boot fun _ => 0).kmallocAligned 0xFFFFFFFF).map (fun r =>
      (r.1, r.2.heapBlocks, [0xD0000000, 0xD0001000].map (descriptorAt r.2.mem))) =
      some (0xD0001000, 0xD0000000,
        [⟨0xD0000010, 4080, true, 0xD0001000⟩, ⟨0xD0001000, 0xFFFEFF0, false, 0⟩]) := by
    decide +kernel
  obtain ⟨⟨p, s⟩, hs, hread⟩ := Option.map_eq_some_iff.mp haligned
  simp only [List.map_cons, List.map_nil, Prod.mk.injEq, List.cons.injEq] at hread
  obtain ⟨rfl, hhead, h1, h2, -⟩ := hread
  refine ⟨hkmalloc, by rw [hs]; rfl, ?_, ?_⟩
  · rintro ⟨p, s', hs', l, hlist, hnull, -⟩
    have hnone : ∀ b ∈ [initialBlock], ¬ b.Fits (exactRound4 0xFFFFFFFF) := by decide
    rw [hlist.unique (holdsHeap_init fun _ => 0).blockList] at hnull
    rw [hs', hnull.mpr hnone] at hkmalloc
    simp at hkmalloc
  · rintro ⟨p, s', hs', hblock⟩
    rw [hs] at hs'
    cases hs'
    obtain ⟨l, hlist, b, hb, -, -, hsize⟩ := hblock (by decide)
    have hblocks : BlockList s ([0xD0000000, 0xD0001000].map (blockAt s.mem)) := by
      refine ⟨[0xD0000000, 0xD0001000], ⟨hhead, by decide, ?_, by decide, ?_⟩, rfl⟩
      · exact congrArg Descriptor.next h1
      · exact congrArg Descriptor.next h2
    rw [hlist.unique hblocks] at hb
    simp only [List.map_cons, List.map_nil, blockAt, h1, h2, List.mem_cons, List.not_mem_nil,
      or_false] at hb
    rcases hb with rfl | rfl
    · exact absurd hsize (by decide)
    · exact absurd hsize (by decide)

end MayaOs.Kernel
