import MayaOs.Kernel.HeapMemory
import MayaOs.Properties.HeapBlocks

/-!
# The heap in memory and the list of blocks

As long as no two descriptors overlap, what `kmalloc` and `kfree` do to the descriptors in memory is
what `Kernel/Memory.lean` does to a list of them.

* `findBestFit_eq`, `findBlock_eq`, `findPrevious_eq_lastPtr` — the loops
* `Linked.carve`, `mergeWithNext_eq`, `mergeWithPrevious_eq` — the writes
* `HoldsHeap.kmalloc` — unless the new descriptor overlaps one that is in use
* `HoldsHeap.kfree` — with any pointer
-/

namespace MayaOs.Kernel

open MayaOs.Lib

/-! ## Lists in memory -/

/-- The address of the first block, `e` when there is none. -/
def headPtr (e : Nat) : List MemoryBlock → Nat
  | [] => e
  | b :: _ => b.addr

/-- The blocks are in memory, linked in this order, with `e` behind the last. -/
def Linked (m : ByteMemory) (e : Nat) : List MemoryBlock → Prop
  | [] => True
  | b :: rest =>
    descriptorAt m b.addr = ⟨b.start, b.size, b.used, headPtr e rest⟩ ∧ Linked m e rest

theorem headPtr_append (e : Nat) (l₁ l₂ : List MemoryBlock) :
    headPtr e (l₁ ++ l₂) = headPtr (headPtr e l₂) l₁ := by
  cases l₁ with
  | nil => rfl
  | cons b l₁ => rfl

theorem linked_append {m : ByteMemory} {e : Nat} {l₂ : List MemoryBlock} :
    ∀ {l₁ : List MemoryBlock}, Linked m e (l₁ ++ l₂) ↔
      Linked m (headPtr e l₂) l₁ ∧ Linked m e l₂ := by
  intro l₁
  induction l₁ with
  | nil => simp [Linked]
  | cons b l₁ ih =>
    rw [List.cons_append, Linked, Linked, ih, headPtr_append]
    exact and_assoc.symm

theorem Linked.congr {m m' : ByteMemory} {e : Nat} : ∀ {l : List MemoryBlock}, Linked m e l →
    (∀ b ∈ l, descriptorAt m' b.addr = descriptorAt m b.addr) → Linked m' e l := by
  intro l
  induction l with
  | nil => intro _ _; trivial
  | cons b l ih =>
    intro h heq
    refine ⟨(heq b List.mem_cons_self).trans h.1, ?_⟩
    exact ih h.2 fun c hc => heq c (List.mem_cons_of_mem b hc)

/-! ## The loops -/

/-- The pointer that stands for the best fit so far. -/
def bestPtr : Option (Nat × MemoryBlock) → Nat
  | none => 0
  | some (_, b) => b.addr

theorem findBestFit_eq {m : ByteMemory} (size : Nat) : ∀ {l : List MemoryBlock} {fuel : Nat},
    Linked m 0 l → (∀ b ∈ l, 0 < b.addr) → l.length < fuel →
      ∀ (k : Nat) (best : Option (Nat × MemoryBlock)) (bestSize : Nat),
        HeapMemory.findBestFit m size fuel (headPtr 0 l) (bestPtr best) bestSize =
          some (bestPtr (bestFit size l k best bestSize)) := by
  intro l
  induction l with
  | nil =>
    intro fuel _ _ hfuel k best bestSize
    obtain ⟨n, rfl⟩ := Nat.exists_eq_add_one_of_ne_zero (Nat.ne_zero_of_lt hfuel)
    rfl
  | cons b l ih =>
    intro fuel h hpos hfuel k best bestSize
    rw [List.length_cons] at hfuel
    obtain ⟨n, rfl⟩ := Nat.exists_eq_add_one_of_ne_zero (Nat.ne_zero_of_lt hfuel)
    have hb : b.addr ≠ 0 := Nat.ne_of_gt (hpos b List.mem_cons_self)
    have hrec := fun k best bestSize =>
      ih h.2 (fun c hc => hpos c (List.mem_cons_of_mem b hc)) (by omega : l.length < n)
        k best bestSize
    rw [headPtr, HeapMemory.findBestFit, if_neg hb]
    simp only [h.1, bestFit]
    by_cases hfit : b.Fits size ∧ b.size < bestSize
    · rw [if_pos ⟨hfit.1.1, hfit.1.2, hfit.2⟩, if_pos hfit]
      exact hrec (k + 1) (some (k, b)) b.size
    · rw [if_neg fun hc => hfit ⟨⟨hc.1, hc.2.1⟩, hc.2.2⟩, if_neg hfit]
      exact hrec (k + 1) best bestSize

theorem findBlock_eq {m : ByteMemory} (ptr : Nat) : ∀ {l : List MemoryBlock} {fuel : Nat},
    Linked m 0 l → (∀ b ∈ l, 0 < b.addr) → l.length < fuel →
      HeapMemory.findBlock m ptr fuel (headPtr 0 l) =
        some (headPtr 0 (l.dropWhile fun b => b.start != ptr)) := by
  intro l
  induction l with
  | nil =>
    intro fuel _ _ hfuel
    obtain ⟨n, rfl⟩ := Nat.exists_eq_add_one_of_ne_zero (Nat.ne_zero_of_lt hfuel)
    rfl
  | cons b l ih =>
    intro fuel h hpos hfuel
    rw [List.length_cons] at hfuel
    obtain ⟨n, rfl⟩ := Nat.exists_eq_add_one_of_ne_zero (Nat.ne_zero_of_lt hfuel)
    have hb : b.addr ≠ 0 := Nat.ne_of_gt (hpos b List.mem_cons_self)
    rw [headPtr, HeapMemory.findBlock, if_neg hb]
    simp only [h.1]
    by_cases hstart : b.start = ptr
    · rw [if_pos hstart, List.dropWhile_cons_of_neg (by simp [hstart])]
      rfl
    · rw [if_neg hstart, List.dropWhile_cons_of_pos (by simp [hstart])]
      exact ih h.2 (fun c hc => hpos c (List.mem_cons_of_mem b hc)) (by omega)

/-- No block has a pointer to the first one. -/
theorem findPrevious_eq_zero {m : ByteMemory} {target : Nat} (htarget : target ≠ 0) :
    ∀ {l : List MemoryBlock} {fuel : Nat}, Linked m 0 l → (∀ b ∈ l, 0 < b.addr) →
      l.length < fuel → (∀ b ∈ l.tail, b.addr ≠ target) →
        HeapMemory.findPrevious m target fuel (headPtr 0 l) = some 0 := by
  intro l
  induction l with
  | nil =>
    intro fuel _ _ hfuel _
    obtain ⟨n, rfl⟩ := Nat.exists_eq_add_one_of_ne_zero (Nat.ne_zero_of_lt hfuel)
    rfl
  | cons b l ih =>
    intro fuel h hpos hfuel htail
    rw [List.length_cons] at hfuel
    obtain ⟨n, rfl⟩ := Nat.exists_eq_add_one_of_ne_zero (Nat.ne_zero_of_lt hfuel)
    have hb : b.addr ≠ 0 := Nat.ne_of_gt (hpos b List.mem_cons_self)
    have hnext : ¬ headPtr 0 l = target := by
      cases l with
      | nil => exact htarget.symm
      | cons c l => exact htail c List.mem_cons_self
    rw [headPtr, HeapMemory.findPrevious, if_neg hb]
    simp only [h.1]
    rw [if_neg hnext]
    exact ih h.2 (fun c hc => hpos c (List.mem_cons_of_mem b hc)) (by omega)
      fun c hc => htail c (List.mem_of_mem_tail hc)

theorem findPrevious_eq {m : ByteMemory} {p b : MemoryBlock} {post : List MemoryBlock} :
    ∀ {pre : List MemoryBlock} {fuel : Nat}, Linked m 0 (pre ++ p :: b :: post) →
      (∀ c ∈ pre ++ [p], 0 < c.addr ∧ c.addr ≠ b.addr) → pre.length + 1 < fuel →
        HeapMemory.findPrevious m b.addr fuel (headPtr 0 (pre ++ p :: b :: post)) =
          some p.addr := by
  intro pre
  induction pre with
  | nil =>
    intro fuel h hpos hfuel
    obtain ⟨n, rfl⟩ := Nat.exists_eq_add_one_of_ne_zero (Nat.ne_zero_of_lt hfuel)
    have hp : p.addr ≠ 0 := Nat.ne_of_gt (hpos p List.mem_cons_self).1
    rw [List.nil_append, headPtr, HeapMemory.findPrevious, if_neg hp]
    have hd := h.1
    rw [hd]
    exact if_pos rfl
  | cons c pre ih =>
    intro fuel h hpos hfuel
    rw [List.length_cons] at hfuel
    obtain ⟨n, rfl⟩ := Nat.exists_eq_add_one_of_ne_zero (Nat.ne_zero_of_lt hfuel)
    have hc : c.addr ≠ 0 := Nat.ne_of_gt (hpos c List.mem_cons_self).1
    have hnext : ¬ headPtr 0 (pre ++ p :: b :: post) = b.addr := by
      cases pre with
      | nil => exact (hpos p (by simp)).2
      | cons d pre => exact (hpos d (by simp)).2
    rw [List.cons_append, headPtr, HeapMemory.findPrevious, if_neg hc]
    have hd : descriptorAt m c.addr =
        ⟨c.start, c.size, c.used, headPtr 0 (pre ++ p :: b :: post)⟩ := h.1
    simp only [hd]
    rw [if_neg hnext]
    exact ih h.2 (fun x hx => hpos x (List.mem_cons_of_mem c hx)) (by omega)

/-! ## Writes -/

/-- What the two writes to `p` leave. -/
theorem descriptorAt_resize {m : ByteMemory} {p size next : Nat} (hp : p + 16 ≤ 2 ^ 32)
    (hsize : size < 2 ^ 32) (hnext : next < 2 ^ 32) :
    descriptorAt (setNext (setSize m p size) p next) p =
      { descriptorAt m p with size, next } := by
  rw [descriptorAt_setNext hp hnext, descriptorAt_setSize hp hsize]

theorem descriptorAt_resize_apart {m : ByteMemory} {p q size next : Nat} (hp : p + 16 ≤ 2 ^ 32)
    (hq : q + 16 ≤ 2 ^ 32) (hapart : Apart p q) :
    descriptorAt (setNext (setSize m p size) p next) q = descriptorAt m q := by
  rw [(sameOutside_setNext hp).descriptorAt hq hapart,
    (sameOutside_setSize hp).descriptorAt hq hapart]

/-- The descriptor that `kmalloc` writes at `n` before it shrinks the chosen block. -/
def writeDescriptor (m : ByteMemory) (n : Nat) (d : Descriptor) : ByteMemory :=
  setNext (setUsed (setSize (setStart m n d.start) n d.size) n d.used) n d.next

theorem descriptorAt_writeDescriptor {m : ByteMemory} {n : Nat} {d : Descriptor}
    (hn : n + 16 ≤ 2 ^ 32) (hstart : d.start < 2 ^ 32) (hsize : d.size < 2 ^ 32)
    (hnext : d.next < 2 ^ 32) : descriptorAt (writeDescriptor m n d) n = d := by
  unfold writeDescriptor
  rw [descriptorAt_setNext hn hnext, descriptorAt_setUsed hn, descriptorAt_setSize hn hsize,
    descriptorAt_setStart hn hstart]

theorem sameOutside_writeDescriptor {m : ByteMemory} {n : Nat} {d : Descriptor}
    (hn : n + 16 ≤ 2 ^ 32) : SameOutside n m (writeDescriptor m n d) := by
  intro x hx
  unfold writeDescriptor
  rw [sameOutside_setNext hn x hx, sameOutside_setUsed hn d.used x hx, sameOutside_setSize hn x hx,
    sameOutside_setStart hn x hx]

theorem descriptorAt_writeDescriptor_apart {m : ByteMemory} {n q : Nat} (d : Descriptor)
    (hn : n + 16 ≤ 2 ^ 32) (hq : q + 16 ≤ 2 ^ 32) (hapart : Apart n q) :
    descriptorAt (writeDescriptor m n d) q = descriptorAt m q :=
  (sameOutside_writeDescriptor hn).descriptorAt hq hapart

/-- A new descriptor that overlaps the chosen one nowhere is made of what was read from it. -/
theorem split_eq {m : ByteMemory} {p size : Nat} {d : Descriptor} (hd : descriptorAt m p = d)
    (hp : p + 16 ≤ 2 ^ 32) (hn : d.start + size + 16 ≤ 2 ^ 32)
    (hroom : size + blockHeader + 4 < d.size) (hsize : d.size < 2 ^ 32)
    (hapart : Apart (d.start + size) p) :
    HeapMemory.split m p size =
      setNext (setSize (writeDescriptor m (d.start + size)
        ⟨d.start + size, d.size - size - blockHeader, false, d.next⟩) p size) p
        (d.start + size) := by
  have hheader : blockHeader = 16 := rfl
  have hwrap : wrap32 (size + blockHeader + 4) = size + blockHeader + 4 :=
    wrap32_eq_self (by omega)
  have hstart : wrap32 (d.start + size) = d.start + size := wrap32_eq_self (by omega)
  have hrest : wrap32 (d.size + 2 ^ 32 - size + 2 ^ 32 - blockHeader) =
      d.size - size - blockHeader := by
    unfold wrap32
    omega
  have hread : ∀ v, descriptorAt (setStart m (d.start + size) v) p = d := fun v =>
    ((sameOutside_setStart hn).descriptorAt hp hapart).trans hd
  have hread' : ∀ v w u, descriptorAt (setUsed (setSize (setStart m (d.start + size) v)
      (d.start + size) w) (d.start + size) u) p = d := fun v w u => by
    rw [(sameOutside_setUsed hn u).descriptorAt hp hapart,
      (sameOutside_setSize hn).descriptorAt hp hapart]
    exact hread v
  unfold HeapMemory.split writeDescriptor
  rw [hd, hwrap, if_pos hroom]
  simp only [hstart, hread, hrest, hread']

theorem split_of_not {m : ByteMemory} {p size : Nat}
    (h : ¬ wrap32 (size + blockHeader + 4) < (descriptorAt m p).size) :
    HeapMemory.split m p size = m := by
  unfold HeapMemory.split
  rw [if_neg h]

/-! ## Blocks in memory -/

/-- No two descriptors overlap. -/
def Separate (l : List MemoryBlock) : Prop := l.Pairwise fun b c => Apart b.addr c.addr

theorem separate_middle {pre post : List MemoryBlock} {b : MemoryBlock} :
    Separate (pre ++ b :: post) ↔
      (∀ c ∈ pre ++ post, Apart b.addr c.addr) ∧ Separate (pre ++ post) := by
  unfold Separate
  rw [List.pairwise_middle fun h => h.symm, List.pairwise_cons]

theorem mem_middle {pre post : List MemoryBlock} {b c : MemoryBlock} (h : c ∈ pre ++ post) :
    c ∈ pre ++ b :: post :=
  ((List.sublist_cons_self b post).append_left pre).subset h

/-- The descriptors are at addresses that are not NULL, and do not reach over the end of memory. -/
def Addressable (l : List MemoryBlock) : Prop := ∀ b ∈ l, 0 < b.addr ∧ b.addr + 16 ≤ 2 ^ 32

theorem HeapShape.addressable {l : List MemoryBlock} (h : HeapShape l) : Addressable l := by
  intro b hb
  obtain ⟨pre, post, rfl⟩ := List.append_of_mem hb
  obtain ⟨hlow, hend, haddr, -⟩ := h.bounds
  have hstart : heapStart = 0xD0000000 := rfl
  have htop : heapEnd = 0xE0000000 := rfl
  have hheader : blockHeader = 16 := rfl
  omega

/-- There is room in the heap for so many descriptors only. -/
theorem HeapShape.length_lt {l : List MemoryBlock} (h : HeapShape l) :
    l.length < HeapMemory.maxSteps := by
  have hcount : ∀ l : List MemoryBlock, l.length ≤ totalBytes l := by
    intro l
    induction l with
    | nil => exact Nat.zero_le _
    | cons b l ih =>
      have hheader : blockHeader = 16 := rfl
      rw [totalBytes_cons, List.length_cons]
      omega
  have htotal := h.total
  have hheap : heapEnd - heapStart = 2 ^ 28 := rfl
  have hsteps : HeapMemory.maxSteps = 2 ^ 32 := rfl
  have := hcount l
  omega

/-- One block changes, with what follows it; those before it stay as they are. -/
theorem Linked.replace {m m' : ByteMemory} {e : Nat} {pre post post' : List MemoryBlock}
    {b : MemoryBlock} (h : Linked m e (pre ++ b :: post)) (b' : MemoryBlock)
    (haddr : b'.addr = b.addr)
    (hpre : ∀ c ∈ pre, descriptorAt m' c.addr = descriptorAt m c.addr)
    (hb : descriptorAt m' b.addr = ⟨b'.start, b'.size, b'.used, headPtr e post'⟩)
    (hpost : Linked m' e post') : Linked m' e (pre ++ b' :: post') := by
  obtain ⟨hfirst, -⟩ := linked_append.mp h
  refine linked_append.mpr ⟨?_, ?_, hpost⟩
  · have hptr : headPtr e (b' :: post') = headPtr e (b :: post) := haddr
    rw [hptr]
    exact hfirst.congr hpre
  · rw [haddr]
    exact hb

theorem Linked.middle {m : ByteMemory} {e : Nat} {pre post : List MemoryBlock} {b : MemoryBlock}
    (h : Linked m e (pre ++ b :: post)) :
    descriptorAt m b.addr = ⟨b.start, b.size, b.used, headPtr e post⟩ ∧ Linked m e post :=
  (linked_append.mp h).2

/-- Only the descriptor of `b` is written, and the blocks in `mid` leave the list. -/
theorem Linked.rewrite {m m' : ByteMemory} {pre post : List MemoryBlock} {b b' : MemoryBlock}
    (mid : List MemoryBlock) (h : Linked m 0 (pre ++ b :: (mid ++ post)))
    (hsep : Separate (pre ++ b :: (mid ++ post)))
    (haddr : Addressable (pre ++ b :: (mid ++ post))) (hb' : b'.addr = b.addr)
    (hsame : ∀ q, q + 16 ≤ 2 ^ 32 → Apart b.addr q → descriptorAt m' q = descriptorAt m q)
    (hb : descriptorAt m' b.addr = ⟨b'.start, b'.size, b'.used, headPtr 0 post⟩) :
    Linked m' 0 (pre ++ b' :: post) := by
  obtain ⟨hapart, -⟩ := separate_middle.mp hsep
  obtain ⟨-, hpost⟩ := linked_append.mp h.middle.2
  refine h.replace b' hb' (fun c hc => ?_) hb (hpost.congr fun c hc => ?_)
  · exact hsame c.addr (haddr c (by simp [hc])).2 (hapart c (by simp [hc]))
  · exact hsame c.addr (haddr c (by simp [hc])).2 (hapart c (by simp [hc]))

section Middle

variable {m : ByteMemory} {pre post : List MemoryBlock} {b n : MemoryBlock}

theorem Linked.mark (h : Linked m 0 (pre ++ b :: post)) (hsep : Separate (pre ++ b :: post))
    (haddr : Addressable (pre ++ b :: post)) (used : Bool) :
    Linked (setUsed m b.addr used) 0 (pre ++ { b with used } :: post) := by
  have hbound := (haddr b (by simp)).2
  refine Linked.rewrite [] h hsep haddr rfl (fun q hq hapart => ?_) ?_
  · exact (sameOutside_setUsed hbound used).descriptorAt hq hapart
  · rw [descriptorAt_setUsed hbound, h.middle.1]

/-- `b` grows to `v` bytes and takes the place of `n` too. -/
theorem Linked.absorb {v : Nat} (h : Linked m 0 (pre ++ b :: n :: post))
    (hsep : Separate (pre ++ b :: n :: post)) (haddr : Addressable (pre ++ b :: n :: post))
    (hv : v < 2 ^ 32) :
    Linked (setNext (setSize m b.addr v) b.addr (descriptorAt m n.addr).next) 0
      (pre ++ { b with size := v } :: post) := by
  have hbound := (haddr b (by simp)).2
  obtain ⟨hb, hn, -⟩ := h.middle
  have hnext : (descriptorAt m n.addr).next < 2 ^ 32 := word_lt m _
  refine Linked.rewrite [n] h hsep haddr rfl (fun q hq hapart => ?_) ?_
  · exact descriptorAt_resize_apart hbound hq hapart
  · rw [descriptorAt_resize hbound hv hnext, hb, hn]

theorem Separate.mark (h : Separate (pre ++ b :: post)) (used : Bool) :
    Separate (pre ++ { b with used } :: post) := by
  obtain ⟨hapart, hrest⟩ := separate_middle.mp h
  exact separate_middle.mpr ⟨hapart, hrest⟩

theorem Separate.absorb (h : Separate (pre ++ b :: n :: post)) (v : Nat) :
    Separate (pre ++ { b with size := v } :: post) := by
  obtain ⟨hapart, hrest⟩ := separate_middle.mp h
  exact separate_middle.mpr
    ⟨fun c hc => hapart c (mem_middle hc), (separate_middle.mp hrest).2⟩

/-! ## Merging -/

theorem mergeWithNext_eq (h : Linked m 0 (pre ++ b :: post)) (hsep : Separate (pre ++ b :: post))
    (haddr : Addressable (pre ++ b :: post)) :
    Linked (HeapMemory.mergeWithNext m b.addr) 0 (pre ++ mergeNext b post) ∧
      Separate (pre ++ mergeNext b post) := by
  obtain ⟨hb, hpost⟩ := h.middle
  unfold HeapMemory.mergeWithNext
  cases post with
  | nil =>
    rw [hb]
    exact ⟨h, hsep⟩
  | cons n rest =>
    have hn : n.addr ≠ 0 := Nat.ne_of_gt (haddr n (by simp)).1
    rw [hb]
    simp only [headPtr, hpost.1]
    cases hused : n.used with
    | true =>
      rw [mergeNext_used hused, if_neg (by simp)]
      exact ⟨h, hsep⟩
    | false =>
      rw [mergeNext_free hused, if_pos ⟨hn, rfl⟩]
      have hv : wrap32 (b.size + (n.size + blockHeader)) < 2 ^ 32 := Nat.mod_lt _ (by decide)
      have hbound := (haddr b (by simp)).2
      have hread : descriptorAt (setSize m b.addr (wrap32 (b.size + (n.size + blockHeader))))
          b.addr = ⟨b.start, wrap32 (b.size + (n.size + blockHeader)), b.used, n.addr⟩ := by
        rw [descriptorAt_setSize hbound hv, hb]
        rfl
      have hapart : Apart b.addr n.addr := (separate_middle.mp hsep).1 n (by simp)
      rw [hread]
      simp only []
      rw [(sameOutside_setSize hbound).descriptorAt (haddr n (by simp)).2 hapart]
      exact ⟨h.absorb hsep haddr hv, hsep.absorb _⟩

/-- The block before, 0 when there is none. -/
def lastPtr (pre : List MemoryBlock) : Nat := (pre.getLast?.map (·.addr)).getD 0

theorem mergeWithPrevious_eq (h : Linked m 0 (pre ++ b :: post))
    (hsep : Separate (pre ++ b :: post)) (haddr : Addressable (pre ++ b :: post)) :
    Linked (HeapMemory.mergeWithPrevious m (lastPtr pre) b.addr) 0 (mergePrev pre (b :: post)) ∧
      Separate (mergePrev pre (b :: post)) := by
  unfold HeapMemory.mergeWithPrevious
  rcases List.eq_nil_or_concat pre with rfl | ⟨pre, p, rfl⟩
  · exact ⟨h, hsep⟩
  · rw [List.concat_eq_append] at h hsep haddr ⊢
    have hlast : lastPtr (pre ++ [p]) = p.addr := by simp [lastPtr]
    have hjoin : pre ++ [p] ++ b :: post = pre ++ p :: b :: post := by simp
    have hp : p.addr ≠ 0 := Nat.ne_of_gt (haddr p (by simp)).1
    rw [hjoin] at h hsep haddr
    obtain ⟨hpd, hbd, -⟩ := h.middle
    rw [hlast]
    simp only [hpd, hbd]
    cases hused : p.used with
    | true =>
      rw [mergePrev_used hused, if_neg (by simp), hjoin]
      exact ⟨h, hsep⟩
    | false =>
      rw [mergePrev_free hused, if_pos ⟨hp, rfl⟩]
      have hv : wrap32 (p.size + (b.size + blockHeader)) < 2 ^ 32 := Nat.mod_lt _ (by decide)
      have hbound := (haddr p (by simp)).2
      have hapart : Apart p.addr b.addr := (separate_middle.mp hsep).1 b (by simp)
      rw [(sameOutside_setSize hbound).descriptorAt (haddr b (by simp)).2 hapart]
      exact ⟨h.absorb hsep haddr hv, hsep.absorb _⟩

/-! ## Splitting -/

variable {size : Nat}

theorem Separate.carve (h : Separate (pre ++ b :: post))
    (hclear : tooLarge b size = true →
      ∀ c ∈ pre ++ b :: post, Apart (splitBlock b size).addr c.addr) :
    Separate (pre ++ (Kernel.carve b size ++ post)) := by
  unfold Kernel.carve
  by_cases hlarge : tooLarge b size = true
  · rw [if_pos hlarge]
    have hnew := hclear hlarge
    obtain ⟨hapart, hrest⟩ := separate_middle.mp h
    have hrest' : Separate (pre ++ splitBlock b size :: post) :=
      separate_middle.mpr ⟨fun c hc => hnew c (mem_middle hc), hrest⟩
    refine separate_middle.mpr ⟨fun c hc => ?_, hrest'⟩
    have hc' : c ∈ pre ++ splitBlock b size :: post := hc
    rw [List.mem_append, List.mem_cons] at hc'
    rcases hc' with hc | rfl | hc
    · exact hapart c (List.mem_append_left _ hc)
    · exact (hnew b (by simp)).symm
    · exact hapart c (List.mem_append_right _ hc)
  · rw [if_neg hlarge]
    exact h.mark true

theorem Linked.carve (h : Linked m 0 (pre ++ b :: post)) (hsep : Separate (pre ++ b :: post))
    (hshape : HeapShape (pre ++ b :: post)) (hfit : size ≤ b.size)
    (hclear : tooLarge b size = true →
      ∀ c ∈ pre ++ b :: post, Apart (splitBlock b size).addr c.addr) :
    Linked (setUsed (HeapMemory.split m b.addr size) b.addr true) 0
      (pre ++ (Kernel.carve b size ++ post)) := by
  have haddr := hshape.addressable
  have hb := h.middle.1
  have hbound := (haddr b (by simp)).2
  unfold Kernel.carve
  by_cases hlarge : tooLarge b size = true
  · obtain ⟨hapart, -⟩ := separate_middle.mp hsep
    obtain ⟨hroom, hnew⟩ := hshape.splitBlock hlarge hfit
    obtain ⟨-, hend, -, -⟩ := hshape.bounds
    have hnew' := hclear hlarge
    rw [if_pos hlarge]
    rw [hnew] at hnew' ⊢
    have htop : heapEnd = 0xE0000000 := rfl
    have hheader : blockHeader = 16 := rfl
    have hn : b.start + size + 16 ≤ 2 ^ 32 := by omega
    have hnb : Apart (b.start + size) b.addr := hnew' b (by simp)
    have hnext : headPtr 0 post < 2 ^ 32 := by
      have hlt : (descriptorAt m b.addr).next < 2 ^ 32 := word_lt m _
      rw [hb] at hlt
      exact hlt
    rw [split_eq hb hbound hn hroom (by show b.size < 2 ^ 32; omega) hnb]
    -- whoever overlaps neither descriptor is as before
    have hsame : ∀ c ∈ pre ++ post, descriptorAt (setUsed (setNext (setSize
        (writeDescriptor m (b.start + size)
          ⟨b.start + size, b.size - size - blockHeader, false, headPtr 0 post⟩)
        b.addr size) b.addr (b.start + size)) b.addr true) c.addr = descriptorAt m c.addr := by
      intro c hc
      have hmem : c ∈ pre ++ b :: post := mem_middle hc
      rw [(sameOutside_setUsed hbound true).descriptorAt (haddr c hmem).2 (hapart c hc),
        descriptorAt_resize_apart hbound (haddr c hmem).2 (hapart c hc),
        descriptorAt_writeDescriptor_apart _ hn (haddr c hmem).2 (hnew' c hmem)]
    refine h.replace { b with size := size, used := true } rfl
      (fun c hc => hsame c (List.mem_append_left _ hc)) ?_ ⟨?_, ?_⟩
    · rw [descriptorAt_setUsed hbound,
        descriptorAt_resize hbound (by omega) (by show b.start + size < 2 ^ 32; omega),
        descriptorAt_writeDescriptor_apart _ hn hbound hnb, hb]
      rfl
    · show descriptorAt _ (b.start + size) = _
      rw [(sameOutside_setUsed hbound true).descriptorAt hn hnb.symm,
        descriptorAt_resize_apart hbound hn hnb.symm,
        descriptorAt_writeDescriptor hn (by show b.start + size < 2 ^ 32; omega)
          (by show b.size - size - blockHeader < 2 ^ 32; omega) hnext]
      rfl
    · exact h.middle.2.congr fun c hc => hsame c (List.mem_append_right _ hc)
  · have hsmall : ¬ wrap32 (size + blockHeader + 4) < (descriptorAt m b.addr).size := by
      rw [hb]
      exact fun hlt => hlarge (decide_eq_true hlt)
    rw [if_neg hlarge, split_of_not hsmall]
    exact h.mark hsep haddr true

end Middle

/-! ## The operations -/

theorem HeapShape.headPtr_eq {l : List MemoryBlock} (h : HeapShape l) :
    headPtr 0 l = heapStart := by
  obtain ⟨f, hf, haddr, -⟩ := h.head
  cases l with
  | nil => cases hf
  | cons b l =>
    cases hf
    exact haddr

/-- The memory holds the blocks of the list, no descriptor overlaps another. -/
structure HoldsHeap (s : HeapMemory) (h : Heap) : Prop where
  head : s.heapBlocks = heapStart
  usedMemory : s.usedMemory = h.usedMemory
  linked : Linked s.mem 0 h.blocks
  separate : Separate h.blocks
  inv : HeapInv h.blocks

theorem holdsHeap_init (mem : ByteMemory) :
    HoldsHeap (HeapMemory.boot mem) (heapInit Heap.unset) where
  head := rfl
  usedMemory := rfl
  linked := by
    have hbound : heapStart + 16 ≤ 2 ^ 32 := by decide
    refine ⟨?_, trivial⟩
    show descriptorAt (writeDescriptor mem heapStart ⟨wrap32 (heapStart + blockHeader),
      heapEnd - heapStart - blockHeader, false, 0⟩) heapStart = _
    rw [descriptorAt_writeDescriptor hbound (by decide) (by decide) (by decide)]
    rfl
  separate := List.pairwise_singleton _ _
  inv := heapInv_init

/-- The descriptor that `kmalloc` would split off overlaps none on the list. -/
def SplitApart (l : List MemoryBlock) (size : Nat) : Prop :=
  ∀ pre b post, l = pre ++ b :: post → Chosen (roundUp4 size) pre b post →
    tooLarge b (roundUp4 size) = true → ∀ c ∈ l, Apart (splitBlock b (roundUp4 size)).addr c.addr

theorem carvedSize_eq {m : ByteMemory} {pre post : List MemoryBlock} {b : MemoryBlock} {size : Nat}
    (h : Linked m 0 (pre ++ (carve b size ++ post))) :
    (descriptorAt m b.addr).start = b.start ∧ (descriptorAt m b.addr).size = carvedSize b size := by
  unfold carve at h
  unfold carvedSize
  by_cases hlarge : tooLarge b size = true
  · rw [if_pos hlarge] at h ⊢
    have hb := h.middle.1
    exact ⟨congrArg Descriptor.start hb, congrArg Descriptor.size hb⟩
  · rw [if_neg hlarge] at h ⊢
    have hb := h.middle.1
    exact ⟨congrArg Descriptor.start hb, congrArg Descriptor.size hb⟩

/-- The memory once `kmalloc` has split the block and marked it. -/
def served (m : ByteMemory) (b : MemoryBlock) (size : Nat) : ByteMemory :=
  setUsed (HeapMemory.split m b.addr size) b.addr true

/-- `kmalloc` serves the chosen block, wherever a descriptor that it splits off comes to lie. -/
theorem HoldsHeap.kmalloc_served {s : HeapMemory} {h : Heap} (hr : HoldsHeap s h) {size : Nat}
    (hsize : 0 < size) :
    (s.kmalloc size = some (0, s) ∧ Kernel.kmalloc h size = (none, h) ∧
      ∀ c ∈ h.blocks, c.Fits (roundUp4 size) → 0xFFFFFFFF ≤ c.size) ∨
    ∃ pre b post, h.blocks = pre ++ b :: post ∧ Chosen (roundUp4 size) pre b post ∧
      s.kmalloc size =
        some ((descriptorAt (served s.mem b (roundUp4 size)) b.addr).start,
          { s with
            mem := served s.mem b (roundUp4 size)
            usedMemory := wrap32
              (s.usedMemory + (descriptorAt (served s.mem b (roundUp4 size)) b.addr).size) }) := by
  have haddr := hr.inv.toHeapShape.addressable
  have hsearch := findBestFit_eq (roundUp4 size) hr.linked (fun b hb => (haddr b hb).1)
    (Nat.lt_succ_of_lt hr.inv.toHeapShape.length_lt) 0 none 0xFFFFFFFF
  rw [hr.inv.toHeapShape.headPtr_eq, ← hr.head] at hsearch
  have hnone : bestPtr none = 0 := rfl
  rw [hnone] at hsearch
  unfold HeapMemory.kmalloc
  rw [if_neg (by omega : size ≠ 0)]
  simp only [hsearch]
  rcases bestFit_eq (roundUp4 size) h.blocks 0 none 0xFFFFFFFF with
    ⟨heq, hall⟩ | ⟨pre, b, post, hl, heq, hfit, hlt, hpre, hpost⟩
  · rw [heq]
    refine Or.inl ⟨rfl, ?_, hall⟩
    rcases kmalloc_cases (h := h) hsize with ⟨hk, -⟩ | ⟨pre, b, post, hl, hch, -⟩
    · exact hk
    · have hle := hall b (by simp [hl]) hch.fits
      have hlt := hch.small
      omega
  · rw [heq]
    have hb : bestPtr (some (0 + pre.length, b)) ≠ 0 :=
      Nat.ne_of_gt (haddr b (by simp [hl])).1
    rw [if_neg hb]
    exact Or.inr ⟨pre, b, post, hl, ⟨hfit, hlt, hpre, hpost⟩, rfl⟩

/-- **`kmalloc` in memory is `kmalloc` on the list, unless descriptors overlap.** -/
theorem HoldsHeap.kmalloc {s : HeapMemory} {h : Heap} (hr : HoldsHeap s h) {size : Nat}
    (hsplit : size ≠ 0 → SplitApart h.blocks size) :
    ∃ s', s.kmalloc size = some ((kmalloc h size).1.getD 0, s') ∧
      HoldsHeap s' (kmalloc h size).2 := by
  rcases Nat.eq_zero_or_pos size with rfl | hpos
  · exact ⟨s, rfl, hr⟩
  · rcases hr.kmalloc_served hpos with ⟨hs, heq, -⟩ | ⟨pre, b, post, hl, hch, hs⟩
    · rw [heq]
      exact ⟨s, hs, hr⟩
    · have hinv := hr.inv.kmalloc size
      rw [kmalloc_of_chosen hpos hl hch] at hinv ⊢
      have hclear := hsplit (by omega) pre b post hl hch
      have hlinked := hr.linked
      have hsep := hr.separate
      have hshape := hr.inv.toHeapShape
      rw [hl] at hlinked hsep hshape hclear
      have hlinked' := hlinked.carve hsep hshape hch.fits.2 hclear
      obtain ⟨hstart, hsize⟩ := carvedSize_eq hlinked'
      refine ⟨_, hs.trans (congrArg some (Prod.ext hstart rfl)), hr.head, ?_, hlinked',
        hsep.carve hclear, hinv⟩
      show wrap32 (s.usedMemory + _) = wrap32 (h.usedMemory + _)
      rw [hr.usedMemory]
      exact congrArg (fun x => wrap32 (h.usedMemory + x)) hsize

/-- The freed block keeps its address. -/
theorem mergeNext_addr (b : MemoryBlock) (post : List MemoryBlock) :
    ∃ c rest, mergeNext b post = c :: rest ∧ c.addr = b.addr := by
  cases post with
  | nil => exact ⟨b, [], rfl, rfl⟩
  | cons n rest =>
    cases hn : n.used with
    | true => exact ⟨b, n :: rest, mergeNext_used hn b rest, rfl⟩
    | false => exact ⟨_, rest, mergeNext_free hn b rest, rfl⟩

theorem findPrevious_eq_lastPtr {m : ByteMemory} {pre rest : List MemoryBlock} {c : MemoryBlock}
    (h : Linked m 0 (pre ++ c :: rest)) (hsep : Separate (pre ++ c :: rest))
    (hshape : HeapShape (pre ++ c :: rest)) :
    HeapMemory.findPrevious m c.addr (HeapMemory.maxSteps + 1) heapStart = some (lastPtr pre) := by
  have haddr := hshape.addressable
  have hlength := hshape.length_lt
  obtain ⟨hapart, -⟩ := separate_middle.mp hsep
  have hne : ∀ d ∈ pre ++ rest, d.addr ≠ c.addr := fun d hd => (hapart d hd).ne.symm
  have hpos : ∀ d ∈ pre ++ c :: rest, 0 < d.addr := fun d hd => (haddr d hd).1
  rw [← hshape.headPtr_eq]
  rcases List.eq_nil_or_concat pre with rfl | ⟨pre, p, rfl⟩
  · have hc : c.addr ≠ 0 := Nat.ne_of_gt (hpos c (by simp))
    exact findPrevious_eq_zero hc h hpos (Nat.lt_succ_of_lt hlength) hne
  · rw [List.concat_eq_append] at *
    have hlast : lastPtr (pre ++ [p]) = p.addr := by simp [lastPtr]
    have hjoin : pre ++ [p] ++ c :: rest = pre ++ p :: c :: rest := by simp
    rw [hlast]
    rw [hjoin] at h hlength ⊢
    refine findPrevious_eq h (fun d hd => ⟨hpos d ?_, hne d ?_⟩) ?_
    · exact List.mem_append_left _ hd
    · exact List.mem_append_left _ hd
    · rw [List.length_append] at hlength
      simp only [List.length_cons] at hlength
      omega

/-- What `kfree` does once it has found the block. -/
theorem Linked.free {m : ByteMemory} {pre post : List MemoryBlock} {b : MemoryBlock}
    (h : Linked m 0 (pre ++ b :: post)) (hsep : Separate (pre ++ b :: post))
    (hinv : HeapInv (pre ++ b :: post)) :
    ∃ prev, HeapMemory.findPrevious (HeapMemory.mergeWithNext (setUsed m b.addr false) b.addr)
        b.addr (HeapMemory.maxSteps + 1) heapStart = some prev ∧
      Linked (HeapMemory.mergeWithPrevious
        (HeapMemory.mergeWithNext (setUsed m b.addr false) b.addr) prev b.addr) 0
        (mergePrev pre (mergeNext { b with used := false } post)) ∧
      Separate (mergePrev pre (mergeNext { b with used := false } post)) := by
  have hmarked := hinv.toHeapShape.mark false
  have hlinked := h.mark hsep hinv.toHeapShape.addressable false
  obtain ⟨hlinked', hsep'⟩ := mergeWithNext_eq hlinked (hsep.mark false) hmarked.addressable
  obtain ⟨-, hpost, -, -⟩ := coalesced_middle.mp hinv.coalesced
  obtain ⟨c, rest, hmerge, hshape', -, -⟩ := mergeNext_spec hmarked hpost
  have hcaddr : c.addr = b.addr := by
    obtain ⟨c', rest', hmerge', hcaddr⟩ := mergeNext_addr { b with used := false } post
    rw [hmerge] at hmerge'
    obtain ⟨rfl, -⟩ := List.cons.inj hmerge'
    exact hcaddr
  rw [hmerge] at hlinked' hsep' ⊢
  have hprev := findPrevious_eq_lastPtr hlinked' hsep' hshape'
  have hmerged := mergeWithPrevious_eq hlinked' hsep' hshape'.addressable
  rw [hcaddr] at hprev hmerged
  exact ⟨lastPtr pre, hprev, hmerged⟩

/-- **`kfree` in memory is `kfree` on the list**, whatever pointer it is given. -/
theorem HoldsHeap.kfree {s : HeapMemory} {h : Heap} (hr : HoldsHeap s h) (ptr : Nat) :
    ∃ s', s.kfree ptr = some s' ∧ HoldsHeap s' (kfree h ptr) := by
  have hinv := hr.inv.kfree ptr
  have hshape := hr.inv.toHeapShape
  have haddr := hshape.addressable
  unfold Kernel.kfree at hinv ⊢
  unfold HeapMemory.kfree
  by_cases h0 : ptr = 0
  · rw [if_pos h0, if_pos h0]
    exact ⟨s, rfl, hr⟩
  · rw [if_neg h0] at hinv ⊢
    rw [if_neg h0]
    have hsearch := findBlock_eq ptr hr.linked (fun b hb => (haddr b hb).1)
      (Nat.lt_succ_of_lt hshape.length_lt)
    rw [hshape.headPtr_eq, ← hr.head] at hsearch
    have hl := (List.takeWhile_append_dropWhile (p := fun b => b.start != ptr)
      (l := h.blocks)).symm
    cases hdrop : h.blocks.dropWhile fun b => b.start != ptr with
    | nil =>
      rw [hdrop] at hsearch
      simp only [hsearch]
      exact ⟨s, rfl, hr⟩
    | cons b post =>
      rw [hdrop] at hsearch hl hinv
      dsimp only at hinv
      have hb : b.addr ≠ 0 := Nat.ne_of_gt (haddr b (by rw [hl]; simp)).1
      simp only [hsearch, headPtr]
      rw [if_neg hb]
      generalize h.blocks.takeWhile (fun b => b.start != ptr) = pre at hl hinv ⊢
      have hlinked := hr.linked
      have hsep := hr.separate
      have hinv₀ := hr.inv
      rw [hl] at hlinked hsep hinv₀ haddr
      have hread : (descriptorAt (setUsed s.mem b.addr false) b.addr).size = b.size := by
        rw [descriptorAt_setUsed (haddr b (by simp)).2, hlinked.middle.1]
      obtain ⟨prev, hprev, hlinked', hsep'⟩ := hlinked.free hsep hinv₀
      rw [← hr.head] at hprev
      simp only [hprev]
      refine ⟨_, rfl, hr.head, ?_, hlinked', hsep', hinv⟩
      show wrap32 (s.usedMemory + 2 ^ 32 - _) = wrap32 (h.usedMemory + 2 ^ 32 - b.size)
      rw [hread, hr.usedMemory]

end MayaOs.Kernel
