import Mathlib.Data.List.Chain
import MayaOs.Kernel.Memory

/-!
# Conservation on the block list

What `kmalloc` and `kfree` preserve of the list of blocks, whatever they are asked for: the bytes of
the heap are all accounted for, and free blocks are merged.

* `HeapInv.kmalloc`, `HeapInv.kfree` — the two operations
* `HeapInv.eq_initial` — a heap without used blocks is the one that `heap_init` makes
-/

namespace MayaOs.Kernel

open MayaOs.Lib

/-! ## The invariant -/

/-- The bytes of the blocks together with their descriptors. -/
def totalBytes (l : List MemoryBlock) : Nat := (l.map fun b => b.size + blockHeader).sum

/-- No two neighbours are free. -/
def Coalesced (l : List MemoryBlock) : Prop := l.IsChain fun b c => b.used = true ∨ c.used = true

/-- Each block starts in the heap, and at the latest where the bytes of those before it end. -/
def Laid : Nat → List MemoryBlock → Prop
  | _, [] => True
  | o, b :: rest =>
    (heapStart + blockHeader ≤ b.start ∧ b.start ≤ o ∧ (b.addr = b.start ∨ b.addr = heapStart)) ∧
      Laid (o + (b.size + blockHeader)) rest

/-- The first block is the one of `heap_init`, perhaps smaller and perhaps used. -/
def HeadKept (l : List MemoryBlock) : Prop :=
  ∃ f ∈ l.head?, f.addr = heapStart ∧ f.start = heapStart + blockHeader

/-- Sizes and places. -/
structure HeapShape (l : List MemoryBlock) : Prop where
  total : totalBytes l = heapEnd - heapStart
  laid : Laid (heapStart + blockHeader) l
  head : HeadKept l

structure HeapInv (l : List MemoryBlock) : Prop extends HeapShape l where
  coalesced : Coalesced l

theorem heapInv_init : HeapInv (heapInit Heap.unset).blocks where
  total := rfl
  laid := ⟨⟨Nat.le_refl _, Nat.le_refl _, Or.inr rfl⟩, trivial⟩
  head := ⟨initialBlock, rfl, rfl, rfl⟩
  coalesced := List.IsChain.singleton _

/-! ## Lists in two parts -/

theorem totalBytes_append (l₁ l₂ : List MemoryBlock) :
    totalBytes (l₁ ++ l₂) = totalBytes l₁ + totalBytes l₂ := by
  unfold totalBytes
  rw [List.map_append, List.sum_append]

theorem totalBytes_cons (b : MemoryBlock) (l : List MemoryBlock) :
    totalBytes (b :: l) = b.size + blockHeader + totalBytes l := by
  unfold totalBytes
  rw [List.map_cons, List.sum_cons]

theorem laid_append {l₂ : List MemoryBlock} : ∀ {l₁ : List MemoryBlock} {o : Nat},
    Laid o (l₁ ++ l₂) ↔ Laid o l₁ ∧ Laid (o + totalBytes l₁) l₂ := by
  intro l₁
  induction l₁ with
  | nil => intro o; simp [Laid, totalBytes]
  | cons b l₁ ih =>
    intro o
    rw [List.cons_append, Laid, Laid, ih, totalBytes_cons, Nat.add_assoc]
    exact and_assoc.symm

theorem headKept_append {l₁ l₂ l₂' : List MemoryBlock} (h : HeadKept (l₁ ++ l₂))
    (hkey : HeadKept l₂ → HeadKept l₂') : HeadKept (l₁ ++ l₂') := by
  cases l₁ with
  | nil => exact hkey h
  | cons b l₁ => exact h

/-- What follows a free block is used. -/
theorem coalesced_middle {pre post : List MemoryBlock} {b : MemoryBlock} :
    Coalesced (pre ++ b :: post) ↔
      Coalesced pre ∧ Coalesced post ∧
        (∀ p ∈ pre.getLast?, p.used = true ∨ b.used = true) ∧
        ∀ n ∈ post.head?, b.used = true ∨ n.used = true := by
  unfold Coalesced
  rw [List.isChain_append, List.isChain_cons]
  simp only [List.head?_cons, Option.mem_def, Option.some.injEq, forall_eq']
  constructor
  · rintro ⟨h1, ⟨h2, h3⟩, h4⟩
    exact ⟨h1, h3, h4, h2⟩
  · rintro ⟨h1, h3, h4, h2⟩
    exact ⟨h1, ⟨h2, h3⟩, h4⟩

/-- The blocks are small enough for 32 bits. -/
theorem HeapShape.bounds {pre post : List MemoryBlock} {b : MemoryBlock}
    (h : HeapShape (pre ++ b :: post)) :
    heapStart + blockHeader ≤ b.start ∧ b.start + b.size ≤ heapEnd ∧
      (b.addr = b.start ∨ b.addr = heapStart) ∧
      b.size + blockHeader + totalBytes post ≤ heapEnd - heapStart := by
  have htotal := h.total
  rw [totalBytes_append, totalBytes_cons] at htotal
  obtain ⟨-, ⟨hlow, hstart, haddr⟩, -⟩ := laid_append.mp h.laid
  have hend : heapEnd = heapStart + (heapEnd - heapStart) := rfl
  exact ⟨hlow, by omega, haddr, by omega⟩

/-! ## kmalloc -/

/-- The fields of the block that is split off. -/
theorem HeapShape.splitBlock {pre post : List MemoryBlock} {b : MemoryBlock} {size : Nat}
    (h : HeapShape (pre ++ b :: post)) (hlarge : tooLarge b size = true) (hfit : size ≤ b.size) :
    size + blockHeader + 4 < b.size ∧
      splitBlock b size = ⟨b.start + size, b.start + size, b.size - size - blockHeader, false⟩ := by
  obtain ⟨hlow, hend, -, hsize⟩ := h.bounds
  have hheap : heapEnd - heapStart = 2 ^ 28 := rfl
  have hheader : blockHeader = 16 := rfl
  have htop : heapEnd < 2 ^ 32 := by decide
  have hroom : size + blockHeader + 4 < b.size := by
    unfold tooLarge at hlarge
    rw [wrap32_eq_self (by omega)] at hlarge
    exact of_decide_eq_true hlarge
  have hstart : wrap32 (b.start + size) = b.start + size := wrap32_eq_self (by omega)
  have hrest : wrap32 (b.size + 2 ^ 32 - size - blockHeader) = b.size - size - blockHeader := by
    unfold wrap32
    omega
  refine ⟨hroom, ?_⟩
  unfold Kernel.splitBlock
  rw [hstart, hrest]

/-- **Carving a free block keeps the invariant.** -/
theorem HeapInv.carve {pre post : List MemoryBlock} {b : MemoryBlock} {size : Nat}
    (h : HeapInv (pre ++ b :: post)) (hfit : b.Fits size) :
    HeapInv (pre ++ (carve b size ++ post)) := by
  obtain ⟨hfree, hle⟩ := hfit
  have htotal := h.total
  rw [totalBytes_append, totalBytes_cons] at htotal
  obtain ⟨hpre, ⟨hlow, hstart, haddr⟩, hpost⟩ := laid_append.mp h.laid
  obtain ⟨hcpre, hcpost, -, hnext⟩ := coalesced_middle.mp h.coalesced
  have hused : ∀ n ∈ post.head?, n.used = true := by
    intro n hn
    rcases hnext n hn with hb | hn'
    · rw [hfree] at hb
      simp at hb
    · exact hn'
  unfold Kernel.carve
  by_cases hlarge : tooLarge b size = true
  · rw [if_pos hlarge]
    obtain ⟨hroom, hsplit⟩ := h.toHeapShape.splitBlock hlarge hle
    rw [hsplit]
    refine ⟨⟨?_, laid_append.mpr ⟨hpre, ?_⟩, headKept_append h.head ?_⟩, ?_⟩
    · simp only [List.cons_append, List.nil_append, totalBytes_append, totalBytes_cons]
      omega
    · refine ⟨⟨hlow, hstart, haddr⟩, ⟨?_, ?_, Or.inl rfl⟩, ?_⟩
      · show heapStart + blockHeader ≤ b.start + size
        omega
      · show b.start + size ≤ _ + (size + blockHeader)
        omega
      · have hoffset : heapStart + blockHeader + totalBytes pre + (size + blockHeader) +
            (b.size - size - blockHeader + blockHeader) =
              heapStart + blockHeader + totalBytes pre + (b.size + blockHeader) := by omega
        rw [← hoffset] at hpost
        exact hpost
    · rintro ⟨f, hf, hkey⟩
      cases hf
      exact ⟨_, rfl, hkey⟩
    · refine coalesced_middle.mpr ⟨hcpre, ?_, fun p _ => Or.inr rfl, fun n _ => Or.inl rfl⟩
      exact List.isChain_cons.mpr ⟨fun n hn => Or.inr (hused n hn), hcpost⟩
  · rw [if_neg hlarge]
    refine ⟨⟨?_, laid_append.mpr ⟨hpre, ⟨hlow, hstart, haddr⟩, hpost⟩,
      headKept_append h.head ?_⟩, ?_⟩
    · simp only [List.cons_append, List.nil_append, totalBytes_append, totalBytes_cons]
      exact htotal
    · rintro ⟨f, hf, hkey⟩
      cases hf
      exact ⟨_, rfl, hkey⟩
    · exact coalesced_middle.mpr ⟨hcpre, hcpost, fun p _ => Or.inr rfl, fun n _ => Or.inl rfl⟩

theorem HeapInv.kmalloc {h : Heap} (hinv : HeapInv h.blocks) (size : Nat) :
    HeapInv (kmalloc h size).2.blocks := by
  rcases Nat.eq_zero_or_pos size with rfl | hpos
  · exact hinv
  · rcases kmalloc_cases (h := h) hpos with ⟨heq, -⟩ | ⟨pre, b, post, hl, hch, heq⟩
    · rw [heq]
      exact hinv
    · rw [heq]
      rw [hl] at hinv
      exact hinv.carve hch.fits

/-! ## kfree -/

theorem HeapShape.mark {pre post : List MemoryBlock} {b : MemoryBlock}
    (h : HeapShape (pre ++ b :: post)) (used : Bool) :
    HeapShape (pre ++ { b with used } :: post) where
  total := by
    have htotal := h.total
    rw [totalBytes_append, totalBytes_cons] at htotal ⊢
    exact htotal
  laid := by
    obtain ⟨hpre, hb, hpost⟩ := laid_append.mp h.laid
    exact laid_append.mpr ⟨hpre, hb, hpost⟩
  head := headKept_append h.head (by
    rintro ⟨f, hf, hkey⟩
    cases hf
    exact ⟨_, rfl, hkey⟩)

/-- **A block may take in the one after it.** -/
theorem HeapShape.merge {pre post : List MemoryBlock} {b n : MemoryBlock}
    (h : HeapShape (pre ++ b :: n :: post)) :
    HeapShape (pre ++ { b with size := wrap32 (b.size + (n.size + blockHeader)) } :: post) := by
  obtain ⟨-, -, -, hsize⟩ := h.bounds
  have htotal := h.total
  rw [totalBytes_append, totalBytes_cons, totalBytes_cons] at htotal
  rw [totalBytes_cons] at hsize
  have hheap : heapEnd - heapStart = 2 ^ 28 := rfl
  rw [wrap32_eq_self (by omega)]
  obtain ⟨hpre, ⟨hlow, hstart, haddr⟩, -, hpost⟩ := laid_append.mp h.laid
  refine ⟨?_, laid_append.mpr ⟨hpre, ⟨hlow, hstart, haddr⟩, ?_⟩, headKept_append h.head ?_⟩
  · rw [totalBytes_append, totalBytes_cons]
    show _ + (b.size + (n.size + blockHeader) + blockHeader + _) = _
    omega
  · have hoffset : heapStart + blockHeader + totalBytes pre +
        (b.size + (n.size + blockHeader) + blockHeader) =
          heapStart + blockHeader + totalBytes pre + (b.size + blockHeader) +
            (n.size + blockHeader) := by omega
    rw [← hoffset] at hpost
    exact hpost
  · rintro ⟨f, hf, hkey⟩
    cases hf
    exact ⟨_, rfl, hkey⟩

theorem mergeNext_used {n : MemoryBlock} (hn : n.used = true) (b : MemoryBlock)
    (rest : List MemoryBlock) : mergeNext b (n :: rest) = b :: n :: rest := by
  simp [mergeNext, hn]

theorem mergeNext_free {n : MemoryBlock} (hn : n.used = false) (b : MemoryBlock)
    (rest : List MemoryBlock) : mergeNext b (n :: rest) =
      { b with size := wrap32 (b.size + (n.size + blockHeader)) } :: rest := by
  simp [mergeNext, hn]

theorem mergePrev_used {p : MemoryBlock} (hp : p.used = true) (pre : List MemoryBlock)
    (b : MemoryBlock) (rest : List MemoryBlock) :
    mergePrev (pre ++ [p]) (b :: rest) = (pre ++ [p]) ++ b :: rest := by
  simp [mergePrev, hp]

theorem mergePrev_free {p : MemoryBlock} (hp : p.used = false) (pre : List MemoryBlock)
    (b : MemoryBlock) (rest : List MemoryBlock) :
    mergePrev (pre ++ [p]) (b :: rest) =
      pre ++ { p with size := wrap32 (p.size + (b.size + blockHeader)) } :: rest := by
  simp [mergePrev, hp]

/-- After "Merge with next block if free" a used block follows, or none. -/
theorem mergeNext_spec {pre post : List MemoryBlock} {b : MemoryBlock}
    (h : HeapShape (pre ++ b :: post)) (hpost : Coalesced post) :
    ∃ c rest, mergeNext b post = c :: rest ∧ HeapShape (pre ++ c :: rest) ∧ Coalesced rest ∧
      ∀ n ∈ rest.head?, n.used = true := by
  cases post with
  | nil => exact ⟨b, [], rfl, h, hpost, by simp⟩
  | cons n rest =>
    obtain ⟨hnext, hrest⟩ := List.isChain_cons.mp hpost
    cases hn : n.used with
    | true =>
      rw [mergeNext_used hn]
      refine ⟨b, n :: rest, rfl, h, hpost, fun x hx => ?_⟩
      cases hx
      exact hn
    | false =>
      rw [mergeNext_free hn]
      refine ⟨_, rest, rfl, h.merge, hrest, fun x hx => ?_⟩
      rcases hnext x hx with hn' | hx'
      · rw [hn] at hn'
        simp at hn'
      · exact hx'

/-- "Merge with previous block if free" restores the invariant. -/
theorem mergePrev_spec {pre rest : List MemoryBlock} {c : MemoryBlock}
    (h : HeapShape (pre ++ c :: rest)) (hpre : Coalesced pre) (hrest : Coalesced rest)
    (hnext : ∀ n ∈ rest.head?, n.used = true) : HeapInv (mergePrev pre (c :: rest)) := by
  rcases List.eq_nil_or_concat pre with rfl | ⟨pre, p, rfl⟩
  · exact ⟨h, coalesced_middle.mpr ⟨hpre, hrest, by simp, fun n hn => Or.inr (hnext n hn)⟩⟩
  · rw [List.concat_eq_append] at h hpre ⊢
    obtain ⟨hpre', -, hlast, -⟩ := coalesced_middle.mp hpre
    cases hp : p.used with
    | true =>
      rw [mergePrev_used hp]
      refine ⟨h, coalesced_middle.mpr ⟨hpre, hrest, fun x hx => ?_, fun n hn => Or.inr (hnext n hn)⟩⟩
      rw [List.getLast?_concat] at hx
      cases hx
      exact Or.inl hp
    | false =>
      rw [mergePrev_free hp]
      rw [List.append_assoc, List.singleton_append] at h
      refine ⟨h.merge, coalesced_middle.mpr ⟨hpre', hrest, fun x hx => ?_,
        fun n hn => Or.inr (hnext n hn)⟩⟩
      rcases hlast x hx with hx' | hp'
      · exact Or.inl hx'
      · rw [hp] at hp'
        simp at hp'

theorem HeapInv.kfree {h : Heap} (hinv : HeapInv h.blocks) (ptr : Nat) :
    HeapInv (kfree h ptr).blocks := by
  unfold Kernel.kfree
  by_cases h0 : ptr = 0
  · rw [if_pos h0]
    exact hinv
  · rw [if_neg h0]
    have hsplit := (List.takeWhile_append_dropWhile (p := fun b => b.start != ptr)
      (l := h.blocks)).symm
    cases hdrop : h.blocks.dropWhile fun b => b.start != ptr with
    | nil => exact hinv
    | cons b post =>
      rw [hdrop] at hsplit
      rw [hsplit] at hinv
      obtain ⟨hpre, hpost, -, -⟩ := coalesced_middle.mp hinv.coalesced
      obtain ⟨c, rest, hmerge, hshape, hrest, hnext⟩ :=
        mergeNext_spec (hinv.toHeapShape.mark false) hpost
      show HeapInv (mergePrev _ (mergeNext { b with used := false } post))
      rw [hmerge]
      exact mergePrev_spec hshape hpre hrest hnext

/-! ## An empty heap -/

/-- **A heap without used blocks is the one that `heap_init` makes.** -/
theorem HeapInv.eq_initial {l : List MemoryBlock} (h : HeapInv l) (hfree : ∀ b ∈ l, b.used = false) :
    l = [initialBlock] := by
  obtain ⟨f, hf, haddr, hstart⟩ := h.head
  cases l with
  | nil => cases hf
  | cons b rest =>
    obtain rfl : b = f := Option.some.inj hf
    cases rest with
    | nil =>
      have htotal := h.total
      rw [totalBytes_cons] at htotal
      have hsize : b.size = heapEnd - heapStart - blockHeader := by
        have hnil : totalBytes [] = 0 := rfl
        omega
      have hused := hfree b List.mem_cons_self
      obtain ⟨addr, start, size, used⟩ := b
      cases haddr
      cases hstart
      cases hsize
      cases hused
      rfl
    | cons n rest =>
      exfalso
      obtain ⟨hnext, -⟩ := List.isChain_cons.mp h.coalesced
      rcases hnext n rfl with hb | hn
      · rw [hfree b List.mem_cons_self] at hb
        simp at hb
      · rw [hfree n (List.mem_cons_of_mem b List.mem_cons_self)] at hn
        simp at hn

end MayaOs.Kernel
