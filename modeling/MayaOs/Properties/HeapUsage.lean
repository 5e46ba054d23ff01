import Mathlib.Data.List.TakeWhile
import MayaOs.Properties.HeapConservation

/-!
# The counter `used_memory`

`used_memory` should be the number of bytes in the blocks that are in use, and a `kfree` of anything
that is not the start of such a block should have no effect. `kfree` does not look at `used`, so the
second `kfree` of a block subtracts its size again.

* `usage_of_freesUsed` — while every `kfree` that finds a block finds one in use (or an empty one),
  and no block is split off over a descriptor, the counter is right
* `freed_twice_wraps` — a double free makes the counter wrap
-/

namespace MayaOs.Kernel

open MayaOs.Lib

/-! ## The property -/

/-- The bytes in the blocks marked used. -/
def usedBytes (l : List MemoryBlock) : Nat := ((l.filter (·.used)).map (·.size)).sum

def UsageExact (s : HeapMemory) : Prop := ∃ l, BlockList s l ∧ s.usedMemory = usedBytes l

/-- A `kfree` of an address where no used block starts changes neither the list nor the counter. -/
def StrayFreeIgnored (s : HeapMemory) (call : HeapCall) (t : HeapMemory) : Prop :=
  match call with
  | .kfree ptr => ∀ l, BlockList s l → (∀ b ∈ l, b.used = true → b.start ≠ ptr.toNat) →
      BlockList t l ∧ t.usedMemory = s.usedMemory
  | .kmalloc _ => True

/-- The first block that starts at the address, if there is one, is in use or has no bytes. -/
def FreesUsed (s : HeapMemory) : HeapCall → Prop
  | .kfree ptr => ptr.toNat ≠ 0 → ∀ pre b post, BlockList s (pre ++ b :: post) →
      (∀ c ∈ pre, c.start ≠ ptr.toNat) → b.start = ptr.toNat → b.used = true ∨ b.size = 0
  | .kmalloc _ => True

/-- The conditions on a call. -/
def CallSound (s : HeapMemory) (call : HeapCall) : Prop := SplitsClear s call ∧ FreesUsed s call

/-! ## Adding up the used blocks -/

theorem usedBytes_append (l₁ l₂ : List MemoryBlock) :
    usedBytes (l₁ ++ l₂) = usedBytes l₁ + usedBytes l₂ := by
  unfold usedBytes
  rw [List.filter_append, List.map_append, List.sum_append]

theorem usedBytes_cons_used {b : MemoryBlock} (h : b.used = true) (l : List MemoryBlock) :
    usedBytes (b :: l) = b.size + usedBytes l := by
  unfold usedBytes
  rw [List.filter_cons_of_pos h, List.map_cons, List.sum_cons]

theorem usedBytes_cons_free {b : MemoryBlock} (h : b.used = false) (l : List MemoryBlock) :
    usedBytes (b :: l) = usedBytes l := by
  unfold usedBytes
  rw [List.filter_cons_of_neg (by simp [h])]

theorem usedBytes_le_totalBytes (l : List MemoryBlock) : usedBytes l ≤ totalBytes l := by
  induction l with
  | nil => exact Nat.le_refl _
  | cons b l ih =>
    rw [totalBytes_cons]
    cases h : b.used with
    | true =>
      rw [usedBytes_cons_used h]
      omega
    | false =>
      rw [usedBytes_cons_free h]
      omega

/-- The counter does not overflow. -/
theorem HeapShape.usedBytes_lt {l : List MemoryBlock} (h : HeapShape l) : usedBytes l < 2 ^ 32 := by
  have hle := usedBytes_le_totalBytes l
  have htotal := h.total
  have hheap : heapEnd - heapStart = 2 ^ 28 := rfl
  omega

theorem usedBytes_carve (b : MemoryBlock) (size : Nat) :
    usedBytes (carve b size) = carvedSize b size := by
  unfold carve carvedSize
  split
  · rw [usedBytes_cons_used rfl, usedBytes_cons_free rfl]
    rfl
  · rw [usedBytes_cons_used rfl]
    rfl

/-- Merging joins free blocks only. -/
theorem mergeNext_eq_cons {b : MemoryBlock} (h : b.used = false) (post : List MemoryBlock) :
    ∃ c rest, mergeNext b post = c :: rest ∧ c.used = false ∧ usedBytes rest = usedBytes post := by
  cases post with
  | nil => exact ⟨b, [], rfl, h, rfl⟩
  | cons n rest =>
    cases hn : n.used with
    | true => exact ⟨b, n :: rest, mergeNext_used hn b rest, h, rfl⟩
    | false => exact ⟨_, rest, mergeNext_free hn b rest, h, (usedBytes_cons_free hn rest).symm⟩

theorem usedBytes_mergePrev {c : MemoryBlock} (h : c.used = false) (pre rest : List MemoryBlock) :
    usedBytes (mergePrev pre (c :: rest)) = usedBytes pre + usedBytes rest := by
  rcases List.eq_nil_or_concat pre with rfl | ⟨pre, p, rfl⟩
  · show usedBytes (c :: rest) = _
    rw [usedBytes_cons_free h]
    exact (Nat.zero_add _).symm
  · rw [List.concat_eq_append]
    cases hp : p.used with
    | true => rw [mergePrev_used hp, usedBytes_append _ (c :: rest), usedBytes_cons_free h]
    | false =>
      rw [mergePrev_free hp, usedBytes_append, usedBytes_append, usedBytes_cons_free hp,
        usedBytes_cons_free (by exact hp)]
      rfl

/-! ## The calls on the list of blocks -/

/-- The counter is right. -/
def Counted (h : Heap) : Prop := h.usedMemory = usedBytes h.blocks

theorem Counted.kmalloc {h : Heap} (hc : Counted h) (hinv : HeapInv h.blocks) (size : Nat) :
    Counted (kmalloc h size).2 := by
  have hinv' := hinv.kmalloc size
  rcases Nat.eq_zero_or_pos size with rfl | hpos
  · exact hc
  · rcases kmalloc_cases (h := h) hpos with ⟨heq, -⟩ | ⟨pre, b, post, hl, hch, heq⟩
    · rw [heq]
      exact hc
    · rw [heq] at hinv' ⊢
      have hlt := hinv'.toHeapShape.usedBytes_lt
      have hsum : usedBytes (pre ++ (carve b (roundUp4 size) ++ post)) =
          h.usedMemory + carvedSize b (roundUp4 size) := by
        rw [hc, hl, usedBytes_append, usedBytes_append, usedBytes_append, usedBytes_carve,
          usedBytes_cons_free hch.fits.1]
        omega
      show wrap32 (h.usedMemory + carvedSize b (roundUp4 size)) = _
      rw [← hsum]
      exact wrap32_eq_self hlt

/-- What `kfree` does is determined by the first block that starts at the address. -/
theorem kfree_cases {h : Heap} {ptr : Nat} (hptr : ptr ≠ 0) :
    (kfree h ptr = h ∧ ∀ b ∈ h.blocks, b.start ≠ ptr) ∨
    ∃ pre b post, h.blocks = pre ++ b :: post ∧ (∀ c ∈ pre, c.start ≠ ptr) ∧ b.start = ptr ∧
      kfree h ptr =
        { blocks := mergePrev pre (mergeNext { b with used := false } post)
          usedMemory := wrap32 (h.usedMemory + 2 ^ 32 - b.size) } := by
  have hsplit := (List.takeWhile_append_dropWhile (p := fun b => b.start != ptr)
    (l := h.blocks)).symm
  have hbefore : ∀ c ∈ h.blocks.takeWhile fun b => b.start != ptr, c.start ≠ ptr := by
    intro c hc
    have := List.mem_takeWhile_imp hc
    simpa using this
  unfold Kernel.kfree
  rw [if_neg hptr]
  cases hdrop : h.blocks.dropWhile fun b => b.start != ptr with
  | nil =>
    rw [hdrop, List.append_nil] at hsplit
    refine Or.inl ⟨rfl, fun b hb => hbefore b ?_⟩
    rw [← hsplit]
    exact hb
  | cons b post =>
    rw [hdrop] at hsplit
    have hb := List.head_dropWhile_not (fun b : MemoryBlock => b.start != ptr) (l := h.blocks)
      (by rw [hdrop]; exact List.cons_ne_nil b post)
    simp only [hdrop, List.head_cons, bne_eq_false_iff_eq] at hb
    exact Or.inr ⟨_, b, post, hsplit, hbefore, hb, rfl⟩

/-- A block that is in use is freed. -/
theorem Counted.kfree {h : Heap} (hc : Counted h) (hinv : HeapInv h.blocks) {ptr : Nat}
    (hused : ∀ pre b post, h.blocks = pre ++ b :: post → (∀ c ∈ pre, c.start ≠ ptr) →
      b.start = ptr → b.used = true ∨ b.size = 0) : Counted (kfree h ptr) := by
  by_cases hptr : ptr = 0
  · subst hptr
    exact hc
  · rcases kfree_cases (h := h) hptr with ⟨heq, -⟩ | ⟨pre, b, post, hl, hpre, hb, heq⟩
    · rw [heq]
      exact hc
    · rw [heq]
      have hlt := hinv.toHeapShape.usedBytes_lt
      have hcount : h.usedMemory = usedBytes (pre ++ b :: post) := by rw [← hl]; exact hc
      rw [hl] at hlt
      -- a block that is not in use has nothing to subtract
      have hsize : h.usedMemory = usedBytes pre + usedBytes post + b.size := by
        rw [hcount, usedBytes_append]
        cases hu : b.used with
        | true =>
          rw [usedBytes_cons_used hu]
          omega
        | false =>
          rcases hused pre b post hl hpre hb with ht | hz
          · rw [hu] at ht
            cases ht
          · rw [usedBytes_cons_free hu, hz, Nat.add_zero]
      have hmerged : usedBytes (mergePrev pre (mergeNext { b with used := false } post)) =
          usedBytes pre + usedBytes post := by
        obtain ⟨c, rest, hmerge, hfree, hrest⟩ :=
          mergeNext_eq_cons (b := { b with used := false }) rfl post
        rw [hmerge, usedBytes_mergePrev hfree, hrest]
      show wrap32 (h.usedMemory + 2 ^ 32 - b.size) = _
      rw [hmerged]
      unfold wrap32
      omega

/-- What follows a free block is used. -/
theorem HeapInv.mergeNext_eq {pre post : List MemoryBlock} {b : MemoryBlock}
    (hinv : HeapInv (pre ++ b :: post)) (hfree : b.used = false) : mergeNext b post = b :: post := by
  obtain ⟨-, -, -, hnext⟩ := coalesced_middle.mp hinv.coalesced
  rw [hfree] at hnext
  cases post with
  | nil => rfl
  | cons n rest => exact mergeNext_used ((hnext n rfl).resolve_left (by simp)) b rest

/-- What precedes a free block is used. -/
theorem HeapInv.mergePrev_eq {pre post : List MemoryBlock} {b : MemoryBlock}
    (hinv : HeapInv (pre ++ b :: post)) (hfree : b.used = false) :
    mergePrev pre (b :: post) = pre ++ b :: post := by
  obtain ⟨-, -, hprev, -⟩ := coalesced_middle.mp hinv.coalesced
  rw [hfree] at hprev
  rcases List.eq_nil_or_concat pre with rfl | ⟨pre, p, rfl⟩
  · rfl
  · rw [List.concat_eq_append] at hprev ⊢
    exact mergePrev_used ((hprev p List.getLast?_concat).resolve_right (by simp)) pre b post

theorem MemoryBlock.mark_free {b : MemoryBlock} (hfree : b.used = false) :
    { b with used := false } = b := by
  rw [← hfree]

/-- Around a free block there is nothing to merge. -/
theorem HeapInv.merge_eq {pre post : List MemoryBlock} {b : MemoryBlock}
    (hinv : HeapInv (pre ++ b :: post)) (hfree : b.used = false) :
    mergePrev pre (mergeNext { b with used := false } post) = pre ++ b :: post := by
  rw [MemoryBlock.mark_free hfree, hinv.mergeNext_eq hfree, hinv.mergePrev_eq hfree]

/-- **A `kfree` that finds no used block changes nothing**, if what it finds has no bytes. -/
theorem Counted.kfree_eq_self {h : Heap} (hc : Counted h) (hinv : HeapInv h.blocks) {ptr : Nat}
    (hstray : ∀ b ∈ h.blocks, b.used = true → b.start ≠ ptr)
    (hused : ∀ pre b post, h.blocks = pre ++ b :: post → (∀ c ∈ pre, c.start ≠ ptr) →
      b.start = ptr → b.used = true ∨ b.size = 0) : Kernel.kfree h ptr = h := by
  by_cases hptr : ptr = 0
  · rw [Kernel.kfree, if_pos hptr]
  · rcases kfree_cases (h := h) hptr with ⟨heq, -⟩ | ⟨pre, b, post, hl, hpre, hb, heq⟩
    · exact heq
    · have hnot : b.used ≠ true := fun hu => hstray b (by simp [hl]) hu hb
      have hsize : b.size = 0 := (hused pre b post hl hpre hb).resolve_left hnot
      have hlt := hinv.toHeapShape.usedBytes_lt
      rw [← hc] at hlt
      rw [hl] at hinv
      rw [heq, hinv.merge_eq (by simpa using hnot), hsize, ← hl]
      have hwrap : wrap32 (h.usedMemory + 2 ^ 32 - 0) = h.usedMemory := by
        unfold wrap32
        omega
      rw [hwrap]

/-! ## Runs -/

/-- A list of blocks is in memory, and the counter is right. -/
def HoldsCounted (s : HeapMemory) : Prop := ∃ h, HoldsHeap s h ∧ Counted h

theorem HoldsCounted.usageExact {s : HeapMemory} (h : HoldsCounted s) : UsageExact s := by
  obtain ⟨h, hr, hc⟩ := h
  exact ⟨h.blocks, hr.blockList, by rw [hr.usedMemory]; exact hc⟩

theorem HoldsHeap.freesUsed {s : HeapMemory} {h : Heap} (hr : HoldsHeap s h) {ptr : UInt32}
    (hused : FreesUsed s (.kfree ptr)) (hptr : ptr.toNat ≠ 0) :
    ∀ pre b post, h.blocks = pre ++ b :: post → (∀ c ∈ pre, c.start ≠ ptr.toNat) →
      b.start = ptr.toNat → b.used = true ∨ b.size = 0 := by
  intro pre b post hl
  refine hused hptr pre b post ?_
  rw [← hl]
  exact hr.blockList

/-- **A call returns and keeps the counter right**; a stray `kfree` is ignored. -/
theorem HoldsCounted.step {s : HeapMemory} (h : HoldsCounted s) (call : HeapCall)
    (hsound : CallSound s call) :
    ∃ s', s.step call = some s' ∧ HoldsCounted s' ∧ StrayFreeIgnored s call s' := by
  obtain ⟨h, hr, hc⟩ := h
  obtain ⟨hclear, hused⟩ := hsound
  cases call with
  | kmalloc size =>
    obtain ⟨s', hs', hr'⟩ := hr.kmalloc (hr.splitApart hclear)
    refine ⟨s', ?_, ⟨_, hr', hc.kmalloc hr.inv size.toNat⟩, trivial⟩
    rw [HeapMemory.step, hs']
    rfl
  | kfree ptr =>
    obtain ⟨s', hs', hr'⟩ := hr.kfree ptr.toNat
    by_cases hptr : ptr.toNat = 0
    · have hsame : kfree h ptr.toNat = h := by rw [hptr]; rfl
      rw [hsame] at hr'
      refine ⟨s', hs', ⟨h, hr', hc⟩, fun l hl _ => ?_⟩
      rw [hl.unique hr.blockList, hr.usedMemory]
      exact ⟨hr'.blockList, hr'.usedMemory⟩
    · have hfrees := hr.freesUsed hused hptr
      refine ⟨s', hs', ⟨_, hr', hc.kfree hr.inv hfrees⟩, fun l hl hstray => ?_⟩
      rw [hl.unique hr.blockList] at hstray ⊢
      rw [hc.kfree_eq_self hr.inv hstray hfrees] at hr'
      rw [hr.usedMemory]
      exact ⟨hr'.blockList, hr'.usedMemory⟩

theorem holdsCounted_boot (mem : ByteMemory) : HoldsCounted (HeapMemory.boot mem) :=
  ⟨_, holdsHeap_init mem, rfl⟩

/--
**While no block is split off over a descriptor and every `kfree` that finds a block finds one in
use, the counter is right**: every call returns, in every state of the run `used_memory` is the sum
of the used blocks, and a `kfree` of anything else has no effect.
-/
theorem usage_of_freesUsed (mem : ByteMemory) (calls : List HeapCall)
    (h : Guarded HeapMemory.step CallSound (HeapMemory.boot mem) calls) :
    (∃ t, run HeapMemory.step (HeapMemory.boot mem) calls = some t) ∧
      Always HeapMemory.step UsageExact (HeapMemory.boot mem) calls ∧
      Along HeapMemory.step StrayFreeIgnored (HeapMemory.boot mem) calls := by
  have hboot := holdsCounted_boot mem
  have hkeep : ∀ s call s', HoldsCounted s → CallSound s call → s.step call = some s' →
      HoldsCounted s' ∧ StrayFreeIgnored s call s' := by
    intro s call s' hs hsound hs'
    obtain ⟨t, ht, hc, hstray⟩ := hs.step call hsound
    rw [hs'] at ht
    cases ht
    exact ⟨hc, hstray⟩
  refine ⟨?_, ?_, ?_⟩
  · have hstep : ∀ s call, HoldsCounted s → CallSound s call →
        ∃ s', s.step call = some s' ∧ HoldsCounted s' := by
      intro s call hs hsound
      obtain ⟨s', hs', hc, -⟩ := hs.step call hsound
      exact ⟨s', hs', hc⟩
    obtain ⟨t, ht, -⟩ := Guarded.run hstep hboot h
    exact ⟨t, ht⟩
  · exact Guarded.always (fun s hs => hs.usageExact)
      (fun s call s' hs hg hs' => (hkeep s call s' hs hg hs').1) hboot h
  · exact Along.of_invariant (fun s call s' hs hs' hg => (hkeep s call s' hs hg hs').2)
      (fun s call s' hs hs' hg => (hkeep s call s' hs hg hs').1) hboot h.along

/-- A block is allocated and freed. -/
theorem freed_once_usage :
    (∃ t, run HeapMemory.step (HeapMemory.boot fun _ => 0) [.kmalloc 64, .kfree 0xD0000010] =
        some t) ∧
      Always HeapMemory.step UsageExact (HeapMemory.boot fun _ => 0)
        [.kmalloc 64, .kfree 0xD0000010] ∧
      Along HeapMemory.step StrayFreeIgnored (HeapMemory.boot fun _ => 0)
        [.kmalloc 64, .kfree 0xD0000010] := by
  have hinit := holdsHeap_init fun _ => 0
  have hclear := splitsClear_boot (fun _ => 0) (.kmalloc 64)
  refine usage_of_freesUsed (fun _ => 0) _ ⟨⟨hclear, trivial⟩, fun s hs => ⟨⟨trivial, ?_⟩,
    fun _ _ => trivial⟩⟩
  obtain ⟨s', hs', hr⟩ := hinit.kmalloc (hinit.splitApart hclear)
  have hsame : s' = s := by
    have : (HeapMemory.boot fun _ => 0).step (.kmalloc 64) = some s' := by
      rw [HeapMemory.step, hs']
      rfl
    rw [hs] at this
    exact (Option.some.inj this).symm
  subst hsame
  have hused : ∀ b ∈ (kmalloc (heapInit Heap.unset) 64).2.blocks,
      b.start = 0xD0000010 → b.used = true ∨ b.size = 0 := by decide
  intro _ pre b post hlist _ hb
  refine hused b ?_ hb
  have hmem : b ∈ pre ++ b :: post := List.mem_append_right pre List.mem_cons_self
  rw [hlist.unique hr.blockList] at hmem
  exact hmem

/-- A block is allocated and freed twice. -/
def doubleFree : List HeapCall := [.kmalloc 64, .kfree 0xD0000010, .kfree 0xD0000010]

/-- **The counter wraps**: no block is in use, and the counter is at 0xF0000010. -/
theorem freed_twice_wraps :
    ∃ t, run HeapMemory.step (HeapMemory.boot fun _ => 0) doubleFree = some t ∧
    BlockList t [initialBlock] ∧ t.usedMemory = 0xF0000010 ∧ ¬ UsageExact t := by
  have hrun : (run HeapMemory.step (HeapMemory.boot fun _ => 0) doubleFree).map (fun t =>
      (t.heapBlocks, t.usedMemory, descriptorAt t.mem 0xD0000000)) =
      some (0xD0000000, 0xF0000010, ⟨0xD0000010, 0x0FFFFFF0, false, 0⟩) := by
    decide +kernel
  obtain ⟨t, ht, hread⟩ := Option.map_eq_some_iff.mp hrun
  simp only [Prod.mk.injEq] at hread
  obtain ⟨hhead, hcount, hd⟩ := hread
  have hlist : BlockList t [initialBlock] := by
    refine ⟨[0xD0000000], ⟨hhead, by decide, ?_⟩, ?_⟩
    · exact congrArg Descriptor.next hd
    · rw [List.map_singleton, blockAt, hd]
      rfl
  refine ⟨t, ht, hlist, hcount, ?_⟩
  rintro ⟨l, hl, hsum⟩
  rw [hl.unique hlist, hcount] at hsum
  cases hsum

end MayaOs.Kernel
