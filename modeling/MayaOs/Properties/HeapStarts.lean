import MayaOs.Properties.HeapUsage

/-!
# Where blocks start

`kfree` knows a block by its start. Only the first descriptor lies before the start of its block, so
two blocks start at the same address only if that is where the first one starts.

* `HeapShape.start_ne` — no other block starts where one does
* `DistinctStarts.kmalloc`, `DistinctStarts.kfree` — starts stay distinct
* `kfree_kmalloc` — `kfree` undoes `kmalloc`
-/

namespace MayaOs.Kernel

open MayaOs.Lib

/-! ## Addresses and starts -/

/-- Only the first block has its descriptor before its start. -/
theorem HeapShape.addr_eq_start {l : List MemoryBlock} (h : HeapShape l) (hsep : Separate l)
    {b : MemoryBlock} (hb : b ∈ l) : b.addr = b.start ∨ b.start = heapStart + blockHeader := by
  obtain ⟨pre, post, rfl⟩ := List.append_of_mem hb
  obtain ⟨-, -, haddr, -⟩ := h.bounds
  rcases haddr with heq | hhead
  · exact Or.inl heq
  · obtain ⟨f, hf, hfaddr, hfstart⟩ := h.head
    cases pre with
    | nil =>
      cases hf
      exact Or.inr hfstart
    | cons c pre =>
      cases hf
      obtain ⟨hapart, -⟩ := separate_middle.mp hsep
      exact absurd (hhead.trans hfaddr.symm) (hapart f (by simp)).ne

/-- Two blocks have the same start only where the first one starts. -/
theorem HeapShape.start_ne {pre post : List MemoryBlock} {b : MemoryBlock}
    (h : HeapShape (pre ++ b :: post)) (hsep : Separate (pre ++ b :: post))
    (hb : b.start ≠ heapStart + blockHeader) : ∀ c ∈ pre ++ post, c.start ≠ b.start := by
  intro c hc heq
  have hbaddr := (h.addr_eq_start hsep (b := b) (by simp)).resolve_right hb
  rcases h.addr_eq_start hsep (mem_middle hc) with hcaddr | hcstart
  · obtain ⟨hapart, -⟩ := separate_middle.mp hsep
    exact (hapart c hc).ne (hbaddr.trans (heq.symm.trans hcaddr.symm))
  · exact hb (heq.symm.trans hcstart)

/-- Blocks at the same address are the same. -/
theorem Separate.eq_of_addr {l : List MemoryBlock} (h : Separate l) {b c : MemoryBlock} (hb : b ∈ l)
    (hc : c ∈ l) (haddr : c.addr = b.addr) : c = b := by
  obtain ⟨pre, post, rfl⟩ := List.append_of_mem hb
  obtain ⟨hapart, -⟩ := separate_middle.mp h
  by_contra hne
  have hmem : c ∈ pre ++ post := by
    simp only [List.mem_append, List.mem_cons, hne, false_or] at hc ⊢
    exact hc
  exact (hapart c hmem).ne haddr.symm

/-! ## Distinct starts -/

/-- No two blocks start at the same address. -/
def DistinctStarts (l : List MemoryBlock) : Prop := (l.map (·.start)).Nodup

theorem DistinctStarts.first {pre post : List MemoryBlock} {b : MemoryBlock}
    (h : DistinctStarts (pre ++ b :: post)) : ∀ c ∈ pre, c.start ≠ b.start := by
  unfold DistinctStarts at h
  rw [List.map_append, List.nodup_append] at h
  exact fun c hc => h.2.2 _ (List.mem_map_of_mem hc) _ List.mem_cons_self

section Starts

variable {h : Heap} {n : Nat}

theorem mergeNext_starts (b : MemoryBlock) (post : List MemoryBlock) :
    ((mergeNext b post).map (·.start)).Sublist ((b :: post).map (·.start)) := by
  cases post with
  | nil => exact List.Sublist.refl _
  | cons c post =>
    cases hc : c.used with
    | true => rw [mergeNext_used hc]
    | false =>
      rw [mergeNext_free hc]
      exact (List.sublist_cons_self c.start (post.map (·.start))).cons_cons b.start

theorem mergePrev_starts (pre l : List MemoryBlock) :
    ((mergePrev pre l).map (·.start)).Sublist ((pre ++ l).map (·.start)) := by
  cases l with
  | nil =>
    rw [List.append_nil]
    exact List.Sublist.refl _
  | cons b rest =>
    rcases List.eq_nil_or_concat pre with rfl | ⟨pre, p, rfl⟩
    · exact List.Sublist.refl _
    · rw [List.concat_eq_append]
      cases hp : p.used with
      | true => rw [mergePrev_used hp]
      | false =>
        rw [mergePrev_free hp, List.append_assoc, List.map_append, List.map_append]
        exact ((List.sublist_cons_self b.start (rest.map (·.start))).cons_cons p.start).append_left _

theorem DistinctStarts.kfree (h' : DistinctStarts h.blocks) (ptr : Nat) :
    DistinctStarts (kfree h ptr).blocks := by
  by_cases hptr : ptr = 0
  · rw [Kernel.kfree, if_pos hptr]
    exact h'
  · rcases kfree_cases (h := h) hptr with ⟨heq, -⟩ | ⟨pre, b, post, hl, -, -, heq⟩
    · rw [heq]
      exact h'
    · rw [heq]
      rw [hl] at h'
      refine h'.sublist ((mergePrev_starts pre _).trans ?_)
      rw [List.map_append, List.map_append]
      exact (mergeNext_starts { b with used := false } post).append_left _

/-- A block that is split off starts behind the one it is split from. -/
theorem DistinctStarts.kmalloc (h' : DistinctStarts h.blocks) (hinv : HeapInv h.blocks)
    (hsep : Separate (kmalloc h n).2.blocks)
    (hround : 0 < n → roundUp4 n = 0 → ∀ b ∈ h.blocks, b.used = true) :
    DistinctStarts (kmalloc h n).2.blocks := by
  have hinv' := (hinv.kmalloc n).toHeapShape
  rcases Nat.eq_zero_or_pos n with rfl | hpos
  · exact h'
  · rcases kmalloc_cases (h := h) hpos with ⟨heq, -⟩ | ⟨pre, b, post, hl, hch, heq⟩
    · rw [heq]
      exact h'
    · rw [heq] at hsep hinv' ⊢
      have hb : b ∈ h.blocks := by simp [hl]
      have hshape := hinv.toHeapShape
      rw [hl] at h' hshape
      have hn : roundUp4 n ≠ 0 := fun h0 => by
        have hused := hround hpos h0 b hb
        rw [hch.fits.1] at hused
        simp at hused
      unfold carve at hsep hinv' ⊢
      by_cases hlarge : tooLarge b (roundUp4 n) = true
      · obtain ⟨hlow, -, -, -⟩ := hshape.bounds
        obtain ⟨-, hsplit⟩ := hshape.splitBlock hlarge hch.fits.2
        have hassoc : ∀ c : MemoryBlock, pre ++ ([c, splitBlock b (roundUp4 n)] ++ post) =
            (pre ++ [c]) ++ splitBlock b (roundUp4 n) :: post := fun c => by simp
        rw [if_pos hlarge] at hsep hinv' ⊢
        rw [hassoc] at hsep hinv'
        have hne := hinv'.start_ne hsep (by rw [hsplit]; show b.start + roundUp4 n ≠ _; omega)
        show DistinctStarts (pre ++ ([_, splitBlock b (roundUp4 n)] ++ post))
        rw [hassoc]
        unfold DistinctStarts at h' ⊢
        rw [List.map_append, List.map_cons, List.nodup_middle, List.nodup_cons]
        constructor
        · intro hmem
          rw [← List.map_append] at hmem
          obtain ⟨c, hc, hstart⟩ := List.mem_map.mp hmem
          exact hne c hc hstart
        · rw [List.map_append, List.map_cons] at h'
          rw [List.map_append, List.append_assoc]
          exact h'
      · rw [if_neg hlarge]
        unfold DistinctStarts at h' ⊢
        rw [List.map_append, List.map_append]
        rw [List.map_append, List.map_cons] at h'
        exact h'

end Starts

/-! ## kfree undoes kmalloc -/

/-- The freed rest of a carved block is joined with it again. -/
theorem mergeNext_carve {pre post : List MemoryBlock} {b : MemoryBlock} {size : Nat}
    (h : HeapInv (pre ++ b :: post)) (hfit : b.Fits size) : ∃ c rest, carve b size ++ post = c :: rest ∧
      c.start = b.start ∧ c.size = carvedSize b size ∧
      mergeNext { c with used := false } rest = b :: post := by
  have hb : { b with used := false } = b := MemoryBlock.mark_free hfit.1
  unfold carve carvedSize
  by_cases hlarge : tooLarge b size = true
  · obtain ⟨hroom, hsplit⟩ := h.toHeapShape.splitBlock hlarge hfit.2
    obtain ⟨-, -, -, hbound⟩ := h.toHeapShape.bounds
    have hheap : heapEnd - heapStart = 2 ^ 28 := rfl
    have hheader : blockHeader = 16 := rfl
    have hsum : wrap32 (size + (b.size - size - blockHeader + blockHeader)) = b.size := by
      rw [wrap32_eq_self (by omega)]
      omega
    rw [if_pos hlarge, if_pos hlarge, hsplit, List.cons_append, List.cons_append, List.nil_append]
    refine ⟨_, _, rfl, rfl, rfl, ?_⟩
    rw [mergeNext_free (by rfl)]
    simp only [hsum, hb]
  · rw [if_neg hlarge, if_neg hlarge]
    refine ⟨_, _, rfl, rfl, rfl, ?_⟩
    simp only [hb]
    exact h.mergeNext_eq hfit.1

/-- **`kfree` undoes `kmalloc`**, when no block before the chosen one has the same start. -/
theorem kfree_kmalloc {h : Heap} (hinv : HeapInv h.blocks) (hused : h.usedMemory < 2 ^ 32)
    {size : Nat} (hsize : 0 < size) {pre post : List MemoryBlock} {b : MemoryBlock}
    (hl : h.blocks = pre ++ b :: post) (hch : Chosen (roundUp4 size) pre b post)
    (hfirst : ∀ c ∈ pre, c.start ≠ b.start) : kfree (kmalloc h size).2 b.start = h := by
  rw [hl] at hinv
  obtain ⟨hlow, -, -, -⟩ := hinv.toHeapShape.bounds
  have hptr : b.start ≠ 0 := by
    have hstart : heapStart = 0xD0000000 := rfl
    omega
  obtain ⟨c, rest, hcarve, hcstart, hcsize, hmerge⟩ := mergeNext_carve hinv hch.fits
  rw [kmalloc_of_chosen hsize hl hch, hcarve]
  have htake : (pre ++ c :: rest).takeWhile (fun x => x.start != b.start) = pre := by
    rw [List.takeWhile_append_of_pos (fun x hx => by simpa using hfirst x hx),
      List.takeWhile_cons_of_neg (by simp [hcstart]), List.append_nil]
  have hdrop : (pre ++ c :: rest).dropWhile (fun x => x.start != b.start) = c :: rest := by
    rw [List.dropWhile_append_of_pos (fun x hx => by simpa using hfirst x hx),
      List.dropWhile_cons_of_neg (by simp [hcstart])]
  unfold kfree
  rw [if_neg hptr]
  simp only [htake, hdrop, hmerge]
  have hcount : wrap32 (wrap32 (h.usedMemory + carvedSize b (roundUp4 size)) + 2 ^ 32 - c.size) =
      h.usedMemory := by
    have hbound := hinv.toHeapShape.bounds.2.2.2
    have hheap : heapEnd - heapStart = 2 ^ 28 := rfl
    have hle := (le_carvedSize hch.fits.2).2
    rw [hcsize]
    unfold wrap32
    omega
  rw [hinv.mergePrev_eq hch.fits.1, hcount, ← hl]

/-- A used block that does not start at the address stays as it is. -/
theorem mem_kfree {h : Heap} {ptr : Nat} {c : MemoryBlock} (hc : c ∈ h.blocks) (hused : c.used = true)
    (hstart : c.start ≠ ptr) : c ∈ (kfree h ptr).blocks := by
  by_cases hptr : ptr = 0
  · subst hptr
    exact hc
  · rcases kfree_cases (h := h) hptr with ⟨heq, -⟩ | ⟨pre, b, post, hl, -, hb, heq⟩
    · rw [heq]
      exact hc
    · rw [heq]
      have hnext : ∃ d rest, mergeNext { b with used := false } post = d :: rest ∧
          (c ∈ post → c ∈ rest) := by
        cases post with
        | nil => exact ⟨_, [], rfl, id⟩
        | cons n rest =>
          cases hn : n.used with
          | true => exact ⟨_, n :: rest, mergeNext_used hn _ rest, id⟩
          | false =>
            refine ⟨_, rest, mergeNext_free hn _ rest, fun hmem => ?_⟩
            refine (List.mem_cons.mp hmem).resolve_left fun heq' => ?_
            rw [heq', hn] at hused
            simp at hused
      obtain ⟨d, rest, hmerge, hpost⟩ := hnext
      rw [hl, List.mem_append, List.mem_cons] at hc
      have hmem : c ∈ pre ∨ c ∈ rest := by
        rcases hc with hpre | rfl | hmem
        · exact Or.inl hpre
        · exact absurd hb hstart
        · exact Or.inr (hpost hmem)
      show c ∈ mergePrev pre (mergeNext { b with used := false } post)
      rw [hmerge]
      rcases List.eq_nil_or_concat pre with rfl | ⟨pre, p, rfl⟩
      · exact List.mem_cons_of_mem _ (hmem.resolve_left List.not_mem_nil)
      · rw [List.concat_eq_append] at hmem ⊢
        cases hp : p.used with
        | true =>
          rw [mergePrev_used hp]
          rcases hmem with hmem | hmem
          · exact List.mem_append_left _ hmem
          · exact List.mem_append_right _ (List.mem_cons_of_mem _ hmem)
        | false =>
          rw [mergePrev_free hp]
          rcases hmem with hmem | hmem
          · refine List.mem_append_left _ ((List.mem_append.mp hmem).resolve_right fun hlast => ?_)
            rw [List.mem_singleton] at hlast
            rw [hlast, hp] at hused
            simp at hused
          · exact List.mem_append_right _ (List.mem_cons_of_mem _ hmem)

end MayaOs.Kernel
