import MayaOs.Properties.HeapStarts

/-!
# Page-aligned allocation

`kmalloc_aligned` looks for a block with a page to spare. If its start is not a page boundary, it
frees the block, asks for just as much as is needed to reach the next boundary, and returns that
boundary, which is not the start of the block it got.

* `HoldsHeap.kmallocAligned` — what is in memory after it
* `aligned_of_served` — when `kfree` gives the pages back
* `aligned_not_returned` — in the heap as `heap_init` leaves it, it does not
-/

namespace MayaOs.Kernel

open MayaOs.Lib

/-! ## The requests of kmalloc_aligned -/

theorem roundUpPage_eq {n : Nat} (h : n ≤ 2 ^ 32 - 4096) :
    roundUpPage n = (n + 4095) / 4096 * 4096 := by
  unfold roundUpPage
  rw [wrap32_eq_self (by omega)]

/-- Rounding wraps around above the last page. -/
theorem roundUpPage_wrap {n : Nat} (h : 2 ^ 32 - 4096 < n) (hlt : n < 2 ^ 32) :
    roundUpPage n = 0 := by
  unfold roundUpPage wrap32
  omega

theorem roundUpPage_aligned (n : Nat) : 4096 ∣ roundUpPage n ∧ roundUpPage n ≤ 2 ^ 32 - 4096 := by
  have hlt : wrap32 (n + 4095) < 2 ^ 32 := Nat.mod_lt _ (by decide)
  exact ⟨Nat.dvd_mul_left 4096 _, by unfold roundUpPage; omega⟩

/-- The first request asks for a page to spare, unless it wraps around to nothing. -/
theorem paddedSize_cases (size : Nat) : paddedSize size = 0 ∨
    (paddedSize size = roundUpPage size + 4096 ∧ roundUp4 (paddedSize size) = paddedSize size) := by
  obtain ⟨halign, hle⟩ := roundUpPage_aligned size
  unfold paddedSize
  rcases Nat.lt_or_eq_of_le hle with hlt | heq
  · right
    rw [wrap32_eq_self (by omega)]
    refine ⟨rfl, ?_⟩
    unfold roundUp4
    rw [wrap32_eq_self (by omega)]
    omega
  · left
    rw [heq]
    rfl

/-- The boundary is less than a page away, and the second request fits where the first one did. -/
theorem shiftedSize_spec {size addr : Nat} (hpadded : paddedSize size ≠ 0)
    (haddr : addr ≤ 2 ^ 32 - 4096) : addr ≤ roundUpPage addr ∧
      shiftedSize size addr = roundUpPage size + (roundUpPage addr - addr) ∧
      roundUp4 (shiftedSize size addr) ≤ paddedSize size ∧
      shiftedSize size addr ≤ roundUp4 (shiftedSize size addr) := by
  have heq := (paddedSize_cases size).resolve_left hpadded
  have hlt : paddedSize size < 2 ^ 32 := Nat.mod_lt _ (by decide)
  have hround := roundUpPage_eq haddr
  have halign := (roundUpPage_aligned size).1
  have hshift : shiftedSize size addr = roundUpPage size + (roundUpPage addr - addr) := by
    unfold shiftedSize wrap32
    omega
  refine ⟨by omega, hshift, ?_, ?_⟩
  · rw [hshift]
    unfold roundUp4
    rw [wrap32_eq_self (by omega)]
    omega
  · rw [hshift]
    unfold roundUp4
    rw [wrap32_eq_self (by omega)]
    omega

/-- The first request is served by `b`. -/
structure Padded (l : List MemoryBlock) (size : Nat) (pre : List MemoryBlock) (b : MemoryBlock)
    (post : List MemoryBlock) : Prop where
  request : paddedSize size ≠ 0
  blocks : l = pre ++ b :: post
  chosen : Chosen (paddedSize size) pre b post

/-- The request that the block is finally asked for. -/
def servedSize (size : Nat) (b : MemoryBlock) : Nat :=
  if b.start = roundUpPage b.start then paddedSize size else shiftedSize size b.start

/-- Neither request splits a descriptor off over another. -/
structure AlignedApart (l : List MemoryBlock) (size : Nat) : Prop where
  padded : paddedSize size ≠ 0 → SplitApart l (paddedSize size)
  shifted : ∀ pre b post, Padded l size pre b post → b.start ≠ roundUpPage b.start →
    SplitApart l (shiftedSize size b.start)

section Aligned

variable {s : HeapMemory} {h : Heap} {size : Nat} {pre post : List MemoryBlock} {b : MemoryBlock}

theorem HeapShape.start_le {l : List MemoryBlock} (h : HeapShape l) (hb : b ∈ l) :
    b.start ≠ 0 ∧ b.start ≤ 2 ^ 32 - 4096 ∧ b.start + b.size ≤ heapEnd := by
  obtain ⟨pre, post, rfl⟩ := List.append_of_mem hb
  obtain ⟨hlow, hend, -, -⟩ := h.bounds
  have hstart : heapStart = 0xD0000000 := rfl
  have htop : heapEnd = 0xE0000000 := rfl
  omega

/-- The boundary is not the null pointer. -/
theorem HeapShape.boundary_ne {l : List MemoryBlock} (h : HeapShape l) (hb : b ∈ l) :
    roundUpPage b.start ≠ 0 := by
  obtain ⟨hb0, hle, -⟩ := h.start_le hb
  rw [roundUpPage_eq hle]
  omega

theorem Padded.mem (hp : Padded h.blocks size pre b post) : b ∈ h.blocks := by simp [hp.blocks]

theorem Padded.request_eq (hp : Padded h.blocks size pre b post) :
    paddedSize size = roundUpPage size + 4096 ∧ roundUp4 (paddedSize size) = paddedSize size :=
  (paddedSize_cases size).resolve_left hp.request

/-- The final request is not larger than the first one, and has the pages asked for. -/
theorem Padded.served_spec (hp : Padded h.blocks size pre b post) (hinv : HeapInv h.blocks) :
    0 < servedSize size b ∧ roundUpPage size ≤ servedSize size b ∧
      roundUp4 (servedSize size b) ≤ paddedSize size ∧
      servedSize size b ≤ roundUp4 (servedSize size b) := by
  obtain ⟨hpadded, hround⟩ := hp.request_eq
  have hbound := (hinv.toHeapShape.start_le hp.mem).2.1
  obtain ⟨hle, hshift, hfits, hup⟩ := shiftedSize_spec hp.request hbound
  unfold servedSize
  split
  · rw [hround]
    omega
  · next hne =>
    omega

/-- A block is chosen for the final request, too. -/
theorem Padded.chosen_served (hp : Padded h.blocks size pre b post) (hinv : HeapInv h.blocks) :
    ∃ pre' b' post', h.blocks = pre' ++ b' :: post' ∧
      Chosen (roundUp4 (servedSize size b)) pre' b' post' := by
  obtain ⟨hpos, -, hfits, -⟩ := hp.served_spec hinv
  rcases kmalloc_cases (h := h) hpos with ⟨-, hall⟩ | ⟨pre', b', post', hl, hch, -⟩
  · have hle := hall b hp.mem ⟨hp.chosen.fits.1, hfits.trans hp.chosen.fits.2⟩
    have hlt := hp.chosen.small
    omega
  · exact ⟨pre', b', post', hl, hch⟩

/-- Nothing is found for the first request. -/
theorem HoldsHeap.kmallocAligned_none (hr : HoldsHeap s h)
    (hnone : ∀ pre b post, ¬ Padded h.blocks size pre b post) :
    ∃ s', s.kmallocAligned size = some (0, s') ∧ HoldsHeap s' h := by
  unfold HeapMemory.kmallocAligned
  by_cases h0 : size = 0
  · rw [if_pos h0]
    exact ⟨s, rfl, hr⟩
  · have hkmalloc : Kernel.kmalloc h (paddedSize size) = (none, h) := by
      rcases paddedSize_cases size with hzero | ⟨hpadded, hround⟩
      · rw [hzero]
        rfl
      · rcases kmalloc_cases (h := h) (by omega : 0 < paddedSize size) with
          ⟨heq, -⟩ | ⟨pre, b, post, hl, hch, -⟩
        · exact heq
        · rw [hround] at hch
          exact absurd ⟨by omega, hl, hch⟩ (hnone pre b post)
    have hapart : paddedSize size ≠ 0 → SplitApart h.blocks (paddedSize size) := by
      intro hne pre b post hl hch
      rw [((paddedSize_cases size).resolve_left hne).2] at hch
      exact absurd ⟨hne, hl, hch⟩ (hnone pre b post)
    obtain ⟨s', hs', hr'⟩ := hr.kmalloc hapart
    rw [hkmalloc] at hs' hr'
    refine ⟨s', ?_, hr'⟩
    rw [if_neg h0, hs', Option.bind_some]
    exact if_pos rfl

theorem kmallocAligned_of_aligned {s₁ : HeapMemory} {addr : Nat} (hsize : size ≠ 0)
    (h₁ : s.kmalloc (paddedSize size) = some (addr, s₁)) (h0 : addr ≠ 0)
    (haligned : addr = roundUpPage addr) :
    s.kmallocAligned size = some (roundUpPage addr, s₁) := by
  rw [HeapMemory.kmallocAligned, if_neg hsize, h₁, Option.bind_some]
  exact (if_neg h0).trans (if_pos haligned)

theorem kmallocAligned_of_shifted {s₁ s₂ s₃ : HeapMemory} {addr ptr : Nat} (hsize : size ≠ 0)
    (h₁ : s.kmalloc (paddedSize size) = some (addr, s₁)) (h0 : addr ≠ 0)
    (haligned : addr ≠ roundUpPage addr) (h₂ : s₁.kfree addr = some s₂)
    (h₃ : s₂.kmalloc (shiftedSize size addr) = some (ptr, s₃)) (hptr : ptr ≠ 0) :
    s.kmallocAligned size = some (roundUpPage addr, s₃) := by
  rw [HeapMemory.kmallocAligned, if_neg hsize, h₁, Option.bind_some]
  refine (if_neg h0).trans ((if_neg haligned).trans ?_)
  rw [h₂, Option.bind_some, h₃, Option.map_some]
  exact congrArg (fun p => some (p, s₃)) (if_neg hptr)

/-- **`kmalloc_aligned` is one `kmalloc` in effect**: the first request, when it is freed again, leaves
no trace. -/
theorem HoldsHeap.kmallocAligned (hr : HoldsHeap s h) (hused : h.usedMemory < 2 ^ 32)
    (hsize : size ≠ 0) (hapart : AlignedApart h.blocks size)
    (hp : Padded h.blocks size pre b post)
    (hfirst : b.start ≠ roundUpPage b.start → ∀ c ∈ pre, c.start ≠ b.start) :
    ∃ s', s.kmallocAligned size = some (roundUpPage b.start, s') ∧
      HoldsHeap s' (Kernel.kmalloc h (servedSize size b)).2 := by
  obtain ⟨hpadded, hround⟩ := hp.request_eq
  have hpos : 0 < paddedSize size := by omega
  have hch : Chosen (roundUp4 (paddedSize size)) pre b post := by
    rw [hround]
    exact hp.chosen
  have hb0 := (hr.inv.toHeapShape.start_le hp.mem).1
  obtain ⟨s₁, hs₁, hr₁⟩ := hr.kmalloc hapart.padded
  have hstart : (Kernel.kmalloc h (paddedSize size)).1.getD 0 = b.start := by
    rw [kmalloc_of_chosen hpos hp.blocks hch]
    rfl
  rw [hstart] at hs₁
  by_cases haligned : b.start = roundUpPage b.start
  · refine ⟨s₁, kmallocAligned_of_aligned hsize hs₁ hb0 haligned, ?_⟩
    rw [servedSize, if_pos haligned]
    exact hr₁
  · obtain ⟨s₂, hs₂, hr₂⟩ := hr₁.kfree b.start
    rw [kfree_kmalloc hr.inv hused hpos hp.blocks hch (hfirst haligned)] at hr₂
    have hserved : servedSize size b = shiftedSize size b.start := if_neg haligned
    obtain ⟨pre', b', post', hl', hch'⟩ := hp.chosen_served hr.inv
    obtain ⟨hpos', -, -, -⟩ := hp.served_spec hr.inv
    rw [hserved] at hch' hpos' ⊢
    obtain ⟨s₃, hs₃, hr₃⟩ := hr₂.kmalloc fun _ => hapart.shifted pre b post hp haligned
    have hstart' : (Kernel.kmalloc h (shiftedSize size b.start)).1.getD 0 = b'.start := by
      rw [kmalloc_of_chosen hpos' hl' hch']
      rfl
    rw [hstart'] at hs₃
    have hb'0 := (hr.inv.toHeapShape.start_le (b := b') (by simp [hl'])).1
    exact ⟨s₃, kmallocAligned_of_shifted hsize hs₁ hb0 haligned hs₂ hs₃ hb'0, hr₃⟩

end Aligned

/-! ## The property -/

/-- The bytes of the pages that hold `size` bytes. -/
def pageBytes (size : Nat) : Nat := (size + 4095) / 4096 * 4096

/--
The call that led from `s` to `s'` has marked `b`, the pages from `p` on lie in it, and `kfree(p)`
gives it back.
-/
structure AlignedBlock (s : HeapMemory) (size p : Nat) (s' : HeapMemory) (b : MemoryBlock) : Prop where
  used : b.used = true
  marked : ∀ l, BlockList s l → ∀ c ∈ l, c.addr = b.addr → c.used = false
  inside : b.start ≤ p ∧ p + pageBytes size ≤ b.start + b.size
  returned : ∃ t, s'.kfree p = some t ∧ t.usedMemory = s.usedMemory ∧
    ∃ l, BlockList t l ∧ ∀ c ∈ l, c.addr = b.addr → c.used = false

def AlignedReturned (s : HeapMemory) (size : Nat) : Prop :=
  ∃ p s', s.kmallocAligned size = some (p, s') ∧
    (p ≠ 0 → 4096 ∣ p ∧ ∃ l, BlockList s' l ∧ ∃ b ∈ l, AlignedBlock s size p s' b)

/--
If the first request finds a block, then rounding does not wrap around, and the block starts at a
page boundary, or the second request finds one that starts at the boundary.
-/
def AlignedServed (s : HeapMemory) (size : Nat) : Prop :=
  size ≠ 0 → ∀ l pre b post, BlockList s l → Padded l size pre b post →
    size ≤ 2 ^ 32 - 4096 ∧ (b.start = roundUpPage b.start ∨
      (∀ c ∈ pre, c.start ≠ b.start) ∧ ∀ pre' b' post', l = pre' ++ b' :: post' →
        Chosen (roundUp4 (shiftedSize size b.start)) pre' b' post' →
          b'.start = roundUpPage b.start)

/-- Neither request splits a descriptor off over another. -/
def AlignedClear (s : HeapMemory) (size : Nat) : Prop :=
  SplitsClear s (.kmalloc (UInt32.ofNat (paddedSize size))) ∧
    ∀ l pre b post, BlockList s l → Padded l size pre b post → b.start ≠ roundUpPage b.start →
      SplitsClear s (.kmalloc (UInt32.ofNat (shiftedSize size b.start)))

theorem toNat_ofNat_wrap32 (n : Nat) : (UInt32.ofNat (wrap32 n)).toNat = wrap32 n := by
  rw [UInt32.toNat_ofNat']
  exact Nat.mod_mod n (2 ^ 32)

theorem HoldsHeap.alignedApart {s : HeapMemory} {h : Heap} {size : Nat} (hr : HoldsHeap s h)
    (hclear : AlignedClear s size) : AlignedApart h.blocks size where
  padded hsize := by
    have hcall : (UInt32.ofNat (paddedSize size)).toNat = paddedSize size := toNat_ofNat_wrap32 _
    have hsplit := hr.splitApart hclear.1
    rw [hcall] at hsplit
    exact hsplit hsize
  shifted pre b post hp hne := by
    have hcall : (UInt32.ofNat (shiftedSize size b.start)).toNat = shiftedSize size b.start :=
      toNat_ofNat_wrap32 _
    have hsplit := hr.splitApart (hclear.2 h.blocks pre b post hr.blockList hp hne)
    rw [hcall] at hsplit
    obtain ⟨hpos, -, -, -⟩ := hp.served_spec hr.inv
    rw [servedSize, if_neg hne] at hpos
    exact hsplit (by omega)

section Returned

variable {s : HeapMemory} {h : Heap} {size : Nat} {pre post : List MemoryBlock} {b : MemoryBlock}

/-- The block that is finally carved starts at the boundary. -/
theorem HoldsHeap.alignedReturned (hr : HoldsHeap s h) (hused : h.usedMemory < 2 ^ 32)
    (hsize : size ≠ 0) (hbound : size ≤ 2 ^ 32 - 4096) (hapart : AlignedApart h.blocks size)
    (hp : Padded h.blocks size pre b post)
    (hfirst : b.start ≠ roundUpPage b.start → ∀ c ∈ pre, c.start ≠ b.start)
    {pre' post' : List MemoryBlock} {b' : MemoryBlock} (hl : h.blocks = pre' ++ b' :: post')
    (hch : Chosen (roundUp4 (servedSize size b)) pre' b' post')
    (hstart : b'.start = roundUpPage b.start) : AlignedReturned s size := by
  obtain ⟨hpos, hpages, -, hround⟩ := hp.served_spec hr.inv
  obtain ⟨s', hs', hr'⟩ := hr.kmallocAligned hused hsize hapart hp hfirst
  refine ⟨_, s', hs', fun _ => ⟨(roundUpPage_aligned b.start).1, _, hr'.blockList, ?_⟩⟩
  have hshape := hr.inv.toHeapShape
  have hsep := hr.separate
  rw [hl] at hshape hsep
  -- a page boundary is not where the first block starts
  have hapart' : ∀ c ∈ pre' ++ post', c.start ≠ b'.start := hshape.start_ne hsep fun heq => by
    have halign := (roundUpPage_aligned b.start).1
    have hhead : heapStart + blockHeader = 0xD0000010 := rfl
    omega
  obtain ⟨s'', hs'', hr''⟩ := hr'.kfree b'.start
  rw [kfree_kmalloc hr.inv hused hpos hl hch fun c hc => hapart' c (List.mem_append_left _ hc)]
    at hr''
  obtain ⟨c, rest, hcarve, hcaddr, hcstart, hcsize, hcused, -⟩ :=
    carve_head b' (roundUp4 (servedSize size b))
  have hfree : ∀ l, BlockList s l → ∀ d ∈ l, d.addr = c.addr → d.used = false := by
    intro l hlist d hd haddr
    rw [hlist.unique hr.blockList, hl] at hd
    rw [hsep.eq_of_addr (b := b') (by simp) hd (haddr.trans hcaddr)]
    exact hch.fits.1
  refine ⟨c, ?_, hcused, hfree, ?_, s'', ?_, ?_, h.blocks, hr''.blockList, ?_⟩
  · rw [kmalloc_of_chosen hpos hl hch, hcarve]
    simp
  · have hle := (le_carvedSize hch.fits.2).1
    rw [roundUpPage_eq hbound] at hpages
    rw [hcstart, hcsize, hstart]
    unfold pageBytes
    omega
  · rw [← hstart]
    exact hs''
  · rw [hr''.usedMemory, hr.usedMemory]
  · exact hfree h.blocks hr.blockList

/-- The pages lie in a block, so that rounding has not wrapped around. -/
theorem HoldsHeap.size_le (hr : HoldsHeap s h) (hb : b ∈ h.blocks) {p : Nat}
    (hinside : b.start ≤ p ∧ p + pageBytes size ≤ b.start + b.size) : size ≤ 2 ^ 32 - 4096 := by
  obtain ⟨-, -, hend⟩ := hr.inv.toHeapShape.start_le hb
  obtain ⟨pre, post, hl⟩ := List.append_of_mem hb
  have hshape := hr.inv.toHeapShape
  rw [hl] at hshape
  obtain ⟨hlow, -, -, -⟩ := hshape.bounds
  have hstart : heapStart = 0xD0000000 := rfl
  have htop : heapEnd = 0xE0000000 := rfl
  unfold pageBytes at hinside
  omega

/-- The only block that a `kmalloc` marks is the one it carves. -/
theorem eq_carved {n : Nat} (hpos : 0 < n) (hl : h.blocks = pre ++ b :: post)
    (hch : Chosen (roundUp4 n) pre b post) {c : MemoryBlock} (hc : c ∈ (kmalloc h n).2.blocks)
    (hused : c.used = true) (hnew : ∀ d ∈ h.blocks, d.addr = c.addr → d.used = false) :
    c.addr = b.addr ∧ c.start = b.start := by
  rw [kmalloc_of_chosen hpos hl hch, List.mem_append, List.mem_append] at hc
  have hold : ∀ d ∈ h.blocks, d ≠ c := by
    rintro d hd rfl
    rw [hnew d hd rfl] at hused
    cases hused
  obtain ⟨d, rest, hcarve, hdaddr, hdstart, -, -, hrest⟩ := carve_head b (roundUp4 n)
  rw [hcarve] at hc
  rcases hc with hc | hc | hc
  · exact absurd rfl (hold c (by simp [hl, hc]))
  · rcases List.mem_cons.mp hc with rfl | hc
    · exact ⟨hdaddr, hdstart⟩
    · rw [hrest c hc] at hused
      cases hused
  · exact absurd rfl (hold c (by simp [hl, hc]))

/-- Unless the block starts at the address, `kfree` does not return it. -/
theorem HoldsHeap.start_of_returned {s' : HeapMemory} {n p : Nat} (hr : HoldsHeap s h)
    (hr' : HoldsHeap s' (Kernel.kmalloc h n).2) (hpos : 0 < n) (hl : h.blocks = pre ++ b :: post)
    (hch : Chosen (roundUp4 n) pre b post) {c : MemoryBlock}
    (hc : c ∈ (Kernel.kmalloc h n).2.blocks) (hblock : AlignedBlock s size p s' c) :
    b.start = p := by
  obtain ⟨-, hstart⟩ := eq_carved hpos hl hch hc hblock.used (hblock.marked _ hr.blockList)
  by_contra hne
  obtain ⟨t, ht, -, l, hlist, hfree⟩ := hblock.returned
  obtain ⟨t', ht', hr''⟩ := hr'.kfree p
  rw [ht] at ht'
  cases ht'
  have hmem := mem_kfree hc hblock.used fun heq => hne (hstart.symm.trans heq)
  rw [← hlist.unique hr''.blockList] at hmem
  have hnot := hfree c hmem rfl
  rw [hblock.used] at hnot
  cases hnot

theorem HoldsHeap.alignedReturned_of_served (hr : HoldsHeap s h) (hused : h.usedMemory < 2 ^ 32)
    (hapart : AlignedApart h.blocks size) (hserved : AlignedServed s size) :
    AlignedReturned s size := by
  by_cases hfound : size ≠ 0 ∧ ∃ pre b post, Padded h.blocks size pre b post
  · obtain ⟨hsize, pre, b, post, hp⟩ := hfound
    obtain ⟨hbound, hstart⟩ := hserved hsize h.blocks pre b post hr.blockList hp
    rcases hstart with haligned | ⟨hfirst, hsecond⟩
    · refine hr.alignedReturned hused hsize hbound hapart hp (fun hne => absurd haligned hne)
        hp.blocks ?_ haligned
      rw [servedSize, if_pos haligned, hp.request_eq.2]
      exact hp.chosen
    · obtain ⟨pre', b', post', hl', hch'⟩ := hp.chosen_served hr.inv
      refine hr.alignedReturned hused hsize hbound hapart hp (fun _ => hfirst) hl' hch' ?_
      by_cases haligned : b.start = roundUpPage b.start
      · rw [servedSize, if_pos haligned, hp.request_eq.2] at hch'
        obtain ⟨-, rfl, -⟩ := hp.chosen.unique hch' (hp.blocks.symm.trans hl')
        exact haligned
      · rw [servedSize, if_neg haligned] at hch'
        exact hsecond pre' b' post' hl' hch'
  · by_cases hsize : size = 0
    · refine ⟨0, s, ?_, fun h0 => absurd rfl h0⟩
      rw [HeapMemory.kmallocAligned, if_pos hsize]
    · have hnone : ∀ pre b post, ¬ Padded h.blocks size pre b post := fun pre b post hp =>
        hfound ⟨hsize, pre, b, post, hp⟩
      obtain ⟨s', hs', -⟩ := hr.kmallocAligned_none hnone
      exact ⟨0, s', hs', fun h0 => absurd rfl h0⟩

theorem HoldsHeap.served_of_alignedReturned (hr : HoldsHeap s h) (hused : h.usedMemory < 2 ^ 32)
    (hapart : AlignedApart h.blocks size) (hdistinct : DistinctStarts h.blocks)
    (hret : AlignedReturned s size) : AlignedServed s size := by
  intro hsize l pre b post hlist hp
  obtain rfl : l = h.blocks := hlist.unique hr.blockList
  have hfirst : ∀ c ∈ pre, c.start ≠ b.start := by
    rw [hp.blocks] at hdistinct
    exact hdistinct.first
  obtain ⟨p, s', hs', hblock⟩ := hret
  obtain ⟨t, ht, hr'⟩ := hr.kmallocAligned hused hsize hapart hp fun _ => hfirst
  rw [hs'] at ht
  cases ht
  obtain ⟨-, l, hlist', c, hc, hblock⟩ := hblock (hr.inv.toHeapShape.boundary_ne hp.mem)
  rw [hlist'.unique hr'.blockList] at hc
  refine ⟨hr'.size_le hc hblock.inside, ?_⟩
  by_cases haligned : b.start = roundUpPage b.start
  · exact Or.inl haligned
  · refine Or.inr ⟨hfirst, fun pre' b' post' hl' hch' => ?_⟩
    obtain ⟨hpos, -, -, -⟩ := hp.served_spec hr.inv
    refine hr.start_of_returned hr' hpos hl' ?_ hc hblock
    rw [servedSize, if_neg haligned]
    exact hch'

end Returned

/-! ## Runs -/

/-- Some list of blocks is in memory, and `used_memory` has 32 bits. -/
def HoldsWord (s : HeapMemory) : Prop := ∃ h, HoldsHeap s h ∧ h.usedMemory < 2 ^ 32

theorem holdsWord_boot (mem : ByteMemory) : HoldsWord (HeapMemory.boot mem) :=
  ⟨_, holdsHeap_init mem, by decide⟩

theorem kmalloc_usedMemory_lt {h : Heap} (hused : h.usedMemory < 2 ^ 32) (size : Nat) :
    (kmalloc h size).2.usedMemory < 2 ^ 32 := by
  rcases Nat.eq_zero_or_pos size with rfl | hpos
  · exact hused
  · rcases kmalloc_cases (h := h) hpos with ⟨heq, -⟩ | ⟨pre, b, post, -, -, heq⟩
    · rw [heq]
      exact hused
    · rw [heq]
      exact wrap32_lt _

theorem kfree_usedMemory_lt {h : Heap} (hused : h.usedMemory < 2 ^ 32) (ptr : Nat) :
    (kfree h ptr).usedMemory < 2 ^ 32 := by
  by_cases hptr : ptr = 0
  · rw [kfree, if_pos hptr]
    exact hused
  · rcases kfree_cases (h := h) hptr with ⟨heq, -⟩ | ⟨pre, b, post, -, -, -, heq⟩
    · rw [heq]
      exact hused
    · rw [heq]
      exact wrap32_lt _

theorem HoldsWord.step {s : HeapMemory} (h : HoldsWord s) (call : HeapCall)
    (hclear : SplitsClear s call) : ∃ s', s.step call = some s' ∧ HoldsWord s' := by
  obtain ⟨h, hr, hused⟩ := h
  cases call with
  | kmalloc size =>
    obtain ⟨s', hs', hr'⟩ := hr.kmalloc (hr.splitApart hclear)
    refine ⟨s', ?_, _, hr', kmalloc_usedMemory_lt hused _⟩
    rw [HeapMemory.step, hs']
    rfl
  | kfree ptr =>
    obtain ⟨s', hs', hr'⟩ := hr.kfree ptr.toNat
    exact ⟨s', hs', _, hr', kfree_usedMemory_lt hused _⟩

/--
**`kfree` gives back the pages of a block that starts at a page boundary.**

In every state that a run reaches: if the first request finds a block there (or the second one finds
one at the boundary behind the first), the pages lie in a block that `kfree` gives back. Where the
starts of the blocks are distinct, it is so in no other case.
-/
theorem aligned_of_served (mem : ByteMemory) (calls : List HeapCall) {t : HeapMemory}
    (h : Guarded HeapMemory.step SplitsClear (HeapMemory.boot mem) calls)
    (ht : run HeapMemory.step (HeapMemory.boot mem) calls = some t) (size : UInt32)
    (hclear : AlignedClear t size.toNat) :
    (AlignedServed t size.toNat → AlignedReturned t size.toNat) ∧
      ((∀ l, BlockList t l → DistinctStarts l) → AlignedReturned t size.toNat →
        AlignedServed t size.toNat) := by
  obtain ⟨t', ht', h, hr, hused⟩ :=
    Guarded.run (I := HoldsWord) (fun s call hs => hs.step call) (holdsWord_boot mem) h
  rw [ht] at ht'
  cases ht'
  have hapart := hr.alignedApart hclear
  exact ⟨hr.alignedReturned_of_served hused hapart,
    fun hdistinct => hr.served_of_alignedReturned hused hapart (hdistinct _ hr.blockList)⟩

/-- Once the first page is allocated, the next block starts at a boundary. -/
theorem second_page : ∃ t,
    Guarded HeapMemory.step SplitsClear (HeapMemory.boot fun _ => 0) [.kmalloc 4080] ∧
    run HeapMemory.step (HeapMemory.boot fun _ => 0) [.kmalloc 4080] = some t ∧
    AlignedClear t (UInt32.toNat 4096) ∧
    ∀ l, BlockList t l → ∀ b ∈ l, b.used = false → b.start = roundUpPage b.start := by
  have hinit := holdsHeap_init fun _ => 0
  have hclear := splitsClear_boot (fun _ => 0) (.kmalloc 4080)
  obtain ⟨t, hkmalloc, hr⟩ := hinit.kmalloc (hinit.splitApart hclear)
  have ht : run HeapMemory.step (HeapMemory.boot fun _ => 0) [.kmalloc 4080] = some t := by
    rw [run_cons, HeapMemory.step, hkmalloc]
    rfl
  have hblocks : BlockList t (kmalloc (heapInit Heap.unset) 4080).2.blocks := hr.blockList
  have hfree : ∀ b ∈ (kmalloc (heapInit Heap.unset) 4080).2.blocks, b.used = false →
      b.start = roundUpPage b.start ∧ ∀ c ∈ (kmalloc (heapInit Heap.unset) 4080).2.blocks,
        Apart (b.start + 8192) c.addr := by decide
  have hmem : ∀ {l pre : List MemoryBlock} {b : MemoryBlock} {post : List MemoryBlock},
      BlockList t l → l = pre ++ b :: post →
        b ∈ (kmalloc (heapInit Heap.unset) 4080).2.blocks := by
    rintro l pre b post hlist rfl
    rw [← hlist.unique hblocks]
    exact List.mem_append_right pre List.mem_cons_self
  refine ⟨t, ⟨hclear, fun _ _ => trivial⟩, ht, ⟨?_, ?_⟩, ?_⟩
  · intro _ pre b post hlist hch _ c hc
    rw [hlist.unique hblocks] at hc
    exact (hfree b (hmem hlist rfl) hch.fits.1).2 c hc
  · intro l pre b post hlist hp hne
    exact absurd (hfree b (hmem hlist hp.blocks) hp.chosen.fits.1).1 hne
  · intro l hlist b hb hbfree
    rw [hlist.unique hblocks] at hb
    exact (hfree b hb hbfree).1

theorem second_page_returned :
    ∃ t, run HeapMemory.step (HeapMemory.boot fun _ => 0) [.kmalloc 4080] = some t ∧
      AlignedReturned t 4096 := by
  obtain ⟨t, hguard, ht, hclear, hfree⟩ := second_page
  refine ⟨t, ht, (aligned_of_served (fun _ => 0) [.kmalloc 4080] hguard ht 4096 hclear).1 ?_⟩
  intro _ l pre b post hlist hp
  have hb : b ∈ l := by simp [hp.blocks]
  exact ⟨by decide, Or.inl (hfree l hlist b hb hp.chosen.fits.1)⟩

/--
**The first page is not given back.**

The heap starts with a block at 0xD0000010, so the page at 0xD0001000 lies within a block of 8176
bytes, and `kfree` finds no block there.
-/
theorem aligned_not_returned :
    (((HeapMemory.boot fun _ => 0).kmallocAligned 4096).bind fun (p, s) =>
      (s.kfree p).map fun t => (p, t.usedMemory)) = some (0xD0001000, 8176) ∧
    ¬ AlignedReturned (HeapMemory.boot fun _ => 0) 4096 := by
  have hrun : (((HeapMemory.boot fun _ => 0).kmallocAligned 4096).bind fun (p, s) =>
      (s.kfree p).map fun t => (p, t.usedMemory)) = some (0xD0001000, 8176) := by
    decide +kernel
  refine ⟨hrun, ?_⟩
  rintro ⟨p, s', hs', hblock⟩
  obtain ⟨⟨p', s₁⟩, hs₁, hfreed⟩ := Option.bind_eq_some_iff.mp hrun
  rw [hs'] at hs₁
  cases hs₁
  obtain ⟨t, ht, hread⟩ := Option.map_eq_some_iff.mp hfreed
  obtain ⟨hp, hcount⟩ := Prod.mk.inj hread
  have hp0 : p ≠ 0 := by
    rw [hp]
    decide
  obtain ⟨-, l, -, b, -, -, -, -, t', ht', hsame, -⟩ := hblock hp0
  rw [ht] at ht'
  cases ht'
  rw [hcount] at hsame
  cases hsame

end MayaOs.Kernel
