import MayaOs.Gui.WindowHeap
import MayaOs.Properties.HeapLayout
import MayaOs.Properties.HeapRequests
import MayaOs.Properties.WindowRecords

/-!
# The size of the window buffers

The number of bytes of a buffer is a product in 32-bit arithmetic. A block that is as long as the
product says is too short for the window when the product has wrapped around.

* `HeapReached.inv` — the heap in every state of every run
* `kmalloc_block` — the block that a request gets
* `heapWindowHandleMouse_gui` — the heap only decides what `kmalloc` returns
* `buffer_fits_iff` — the buffer is large enough iff the exact product is below 2^32
-/

namespace MayaOs.Gui

open MayaOs.Lib
open MayaOs.Kernel

/-! ## The heap -/

/-- Any call of `kmalloc` or `kfree`, by anyone. -/
def heapCall (h : Heap) : HeapOp → Option Heap
  | .kmalloc size => some (kmalloc h size).2
  | .kfree ptr => some (kfree h ptr)

/-- A heap that calls lead to after `heap_init`. -/
def HeapReached (h : Heap) : Prop := Reachable heapCall (heapInit Heap.unset) h

theorem HeapReached.inv {h : Heap} (hr : HeapReached h) : HeapInv h.blocks := by
  refine Reachable.invariant (I := fun h => HeapInv h.blocks) ?_ heapInv_init hr
  rintro h op h' hinv hs
  cases op with
  | kmalloc size => cases hs; exact hinv.kmalloc size
  | kfree ptr => cases hs; exact hinv.kfree ptr

theorem HeapReached.kmalloc {h : Heap} (hr : HeapReached h) (size : Nat) :
    HeapReached (kmalloc h size).2 := by
  obtain ⟨ops, hops⟩ := hr
  refine ⟨ops ++ [.kmalloc size], ?_⟩
  rw [run_append, hops]
  rfl

/-- The block at a pointer holds `n` bytes. -/
def Holds (h : Heap) (ptr n : Nat) : Prop :=
  ∃ b ∈ h.blocks, b.start = ptr ∧ b.used = true ∧ n ≤ b.size

/-- **A request that is met** gets a block of at least the rounded size. -/
theorem kmalloc_block {h h' : Heap} {n ptr : Nat} (hk : kmalloc h n = (some ptr, h')) :
    Holds h' ptr (roundUp4 n) := by
  rcases Nat.eq_zero_or_pos n with rfl | hpos
  · cases hk
  · rcases kmalloc_cases (h := h) hpos with ⟨heq, -⟩ | ⟨pre, b, post, -, hch, heq⟩
    · rw [heq] at hk
      cases hk
    · obtain ⟨c, rest, hcarve, -, hstart, hsize, hused, -⟩ := carve_head b (roundUp4 n)
      rw [heq] at hk
      obtain ⟨hptr, rfl⟩ := Prod.mk.inj hk
      refine ⟨c, by simp [hcarve], by rw [hstart]; exact Option.some.inj hptr, hused, ?_⟩
      rw [hsize]
      exact (le_carvedSize hch.fits.2).1

theorem kmalloc_ne_null {h h' : Heap} (hr : HeapReached h) {n ptr : Nat}
    (hk : kmalloc h n = (some ptr, h')) : ptr ≠ null := by
  have hinv : HeapInv h'.blocks := by
    have := (hr.kmalloc n).inv
    rwa [hk] at this
  obtain ⟨b, hb, hstart, -⟩ := kmalloc_block hk
  obtain ⟨pre, post, hl⟩ := List.append_of_mem hb
  have hshape := hinv.toHeapShape
  rw [hl] at hshape
  obtain ⟨hlow, -⟩ := hshape.bounds
  have hzero : heapStart + blockHeader = 0xD0000010 := rfl
  rw [← hstart, null]
  omega

/-! ## The bytes of a buffer -/

/-- The bytes of a window without wrap-around. -/
def exactBytes (width height : Int32) : Nat := 4 * (width.toNatClampNeg * height.toNatClampNeg)

theorem bufferBytes_eq {width height : Int32} (hwidth : 0 ≤ width) (hheight : 0 ≤ height) :
    bufferBytes width height = exactBytes width height % 2 ^ 32 := by
  rw [bufferBytes, exactBytes, Int32.toUInt32_mul, UInt32.toNat_mul, UInt32.toNat_mul,
    Int32.toNat_toUInt32_of_le hwidth, Int32.toNat_toUInt32_of_le hheight, Nat.mod_mul_mod,
    Nat.mul_comm]
  rfl

/-- What is requested is a multiple of 4 already. -/
theorem roundUp4_bufferBytes {width height : Int32} (hwidth : 0 ≤ width) (hheight : 0 ≤ height) :
    roundUp4 (bufferBytes width height) = bufferBytes width height := by
  rw [bufferBytes_eq hwidth hheight, exactBytes, roundUp4, wrap32]
  omega

/-- The buffer of the window is large enough for it, and the clearing stays inside it. -/
def BufferFits (r : Window) (c : Clearing) : Prop :=
  r.buffer = c.buffer ∧
    ∃ b ∈ c.heap.blocks, b.start = c.buffer ∧ b.used = true ∧
      exactBytes r.width r.height ≤ b.size ∧ c.length ≤ b.size

/-- The clearing of a new buffer, which `kmalloc` gave in the heap `h`. -/
structure ClearsNew (h : Heap) (width height : Int32) (c : Clearing) : Prop where
  reached : HeapReached h
  wide : 0 ≤ width
  high : 0 ≤ height
  alloc : kmalloc h (bufferBytes width height) = (some c.buffer, c.heap)
  length : c.length = bufferBytes width height

/-- **A block that kmalloc gave** has room for the window iff the product has not wrapped around. -/
theorem ClearsNew.fits_iff {h : Heap} {width height : Int32} {c : Clearing}
    (hc : ClearsNew h width height c) {r : Window} (hbuffer : r.buffer = c.buffer)
    (hwidth : r.width = width) (hheight : r.height = height) :
    BufferFits r c ↔ exactBytes width height < 2 ^ 32 := by
  have hbytes := bufferBytes_eq hc.wide hc.high
  have hinv : HeapInv c.heap.blocks := by
    have := (hc.reached.kmalloc (bufferBytes width height)).inv
    rwa [hc.alloc] at this
  unfold BufferFits
  rw [hwidth, hheight]
  constructor
  · rintro ⟨-, b, hb, -, -, hroom, -⟩
    have hsmall := hinv.toHeapShape.size_lt hb
    omega
  · intro hexact
    obtain ⟨b, hb, hstart, hused, hroom⟩ := kmalloc_block hc.alloc
    rw [roundUp4_bufferBytes hc.wide hc.high] at hroom
    refine ⟨hbuffer, b, hb, hstart, hused, ?_, by rw [hc.length]; exact hroom⟩
    rwa [hbytes, Nat.mod_eq_of_lt hexact] at hroom

/-- The clearing never leaves the buffer, whatever its size. -/
theorem ClearsNew.length_le {h : Heap} {width height : Int32} {c : Clearing}
    (hc : ClearsNew h width height c) : Holds c.heap c.buffer c.length := by
  have hblock := kmalloc_block hc.alloc
  rwa [roundUp4_bufferBytes hc.wide hc.high, ← hc.length] at hblock

/-! ## The heap decides what `kmalloc` returns -/

theorem heapWindowResize_gui (s : WindowHeap) (w : WindowPtr) (width height : Int32) :
    (heapWindowResize s w width height).2.gui =
      windowResize s.gui w width height
        ((kmalloc s.heap (bufferBytes width height)).1.getD null) := by
  unfold heapWindowResize
  by_cases hargs : w = null ∨ width < minWindowWidth ∨ height < minWindowHeight
  · rw [if_pos hargs, windowResize, if_pos hargs]
  · rw [if_neg hargs]
    rcases kmalloc s.heap (bufferBytes width height) with ⟨_ | buffer, heap⟩
    · simp [windowResize, hargs]
    · rfl

theorem heapClickTitle_gui (s : WindowHeap) (w : WindowPtr) (x y : Int32) :
    ∃ buffer, (heapClickTitle s w x y).2.gui = clickTitle s.gui w x y buffer := by
  unfold heapClickTitle clickTitle
  dsimp only
  split
  · refine ⟨null, ?_⟩
    unfold heapWindowDestroy
    split
    · next hoff => rw [windowDestroy, if_pos hoff]
    · rfl
  · split
    · unfold heapToggleMaximize toggleMaximize
      split
      · exact ⟨_, heapWindowResize_gui ..⟩
      · exact ⟨_, heapWindowResize_gui ..⟩
    · exact ⟨null, rfl⟩

/-- **With the heap, `window_handle_mouse` does what it does for some outcome of `kmalloc`.** -/
theorem heapWindowHandleMouse_gui (s : WindowHeap) (x y : Int32) (left : Bool) :
    ∃ buffer, (heapWindowHandleMouse s x y left).2.2.gui =
      (windowHandleMouse s.gui x y left buffer).2 := by
  unfold heapWindowHandleMouse windowHandleMouse
  split
  · exact ⟨null, rfl⟩
  · cases windowAt s.gui x y s.gui.wm.windowCount with
    | none => exact ⟨null, rfl⟩
    | some w =>
      dsimp only
      split
      · exact heapClickTitle_gui s w x y
      · exact ⟨null, rfl⟩

/-! ## The two places -/

theorem nonneg_of_minWidth {width : Int32} (h : ¬ width < minWindowWidth) : 0 ≤ width :=
  Int32.le_trans (by decide) (Int32.not_lt.mp h)

theorem nonneg_of_minHeight {height : Int32} (h : ¬ height < minWindowHeight) : 0 ≤ height :=
  Int32.le_trans (by decide) (Int32.not_lt.mp h)

/-- **`window_create`** returns a window for which it has cleared a new buffer. -/
theorem heapWindowCreate_clears {s : WindowHeap} (hheap : HeapReached s.heap)
    {title : Option (List UInt8)} {x y width height : Int32} {w : WindowPtr}
    {cleared : Option Clearing} {t : WindowHeap}
    (hcreate : heapWindowCreate s title x y width height = (w, cleared, t)) (hw : w ≠ null) :
    ∃ h c, cleared = some c ∧ ClearsNew h width height c ∧ (t.gui.mem w).buffer = c.buffer ∧
      (t.gui.mem w).width = width ∧ (t.gui.mem w).height = height := by
  unfold heapWindowCreate at hcreate
  cases title with
  | none => cases hcreate; exact absurd rfl hw
  | some title =>
    dsimp only at hcreate
    by_cases hargs :
        s.gui.wm.initialized = false ∨ width < minWindowWidth ∨ height < minWindowHeight
    · rw [if_pos hargs] at hcreate
      cases hcreate
      exact absurd rfl hw
    rw [if_neg hargs] at hcreate
    by_cases hroom : maxWindows ≤ s.gui.wm.windowCount
    · rw [if_pos hroom] at hcreate
      cases hcreate
      exact absurd rfl hw
    rw [if_neg hroom] at hcreate
    rcases hblock : kmalloc s.heap windowBytes with ⟨_ | block, heap⟩
    · rw [hblock] at hcreate
      cases hcreate
      exact absurd rfl hw
    rw [hblock] at hcreate
    dsimp only at hcreate
    rcases hbuffer : kmalloc heap (bufferBytes width height) with ⟨_ | buffer, heap'⟩
    · rw [hbuffer] at hcreate
      cases hcreate
      exact absurd rfl (windowCreate_record hw).2.2.1
    · rw [hbuffer] at hcreate
      cases hcreate
      obtain ⟨hpointer, -, -, name, i, j, hrecord⟩ := windowCreate_record hw
      refine ⟨heap, _, rfl, ⟨?_, ?_, ?_, hbuffer, rfl⟩, ?_⟩
      · have := hheap.kmalloc windowBytes
        rwa [hblock] at this
      · exact nonneg_of_minWidth fun hlt => hargs (Or.inr (Or.inl hlt))
      · exact nonneg_of_minHeight fun hlt => hargs (Or.inr (Or.inr hlt))
      · rw [hpointer, hrecord]
        exact ⟨rfl, rfl, rfl⟩

/-- **`window_resize`** gives the window a new buffer when it has cleared one. -/
theorem heapWindowResize_clears {s : WindowHeap} (hheap : HeapReached s.heap) {w : WindowPtr}
    {width height : Int32} {c : Clearing} {t : WindowHeap}
    (hresize : heapWindowResize s w width height = (some c, t)) :
    ClearsNew s.heap width height c ∧
      t.gui.mem w = resized (s.gui.mem w) width height c.buffer := by
  unfold heapWindowResize at hresize
  by_cases hargs : w = null ∨ width < minWindowWidth ∨ height < minWindowHeight
  · rw [if_pos hargs] at hresize
    cases hresize
  rw [if_neg hargs] at hresize
  rcases hbuffer : kmalloc s.heap (bufferBytes width height) with ⟨_ | buffer, heap⟩
  · rw [hbuffer] at hresize
    cases hresize
  rw [hbuffer] at hresize
  cases hresize
  refine ⟨⟨hheap, ?_, ?_, hbuffer, rfl⟩, ?_⟩
  · exact nonneg_of_minWidth fun hlt => hargs (Or.inr (Or.inl hlt))
  · exact nonneg_of_minHeight fun hlt => hargs (Or.inr (Or.inr hlt))
  · unfold windowResize
    rw [if_neg hargs, if_neg (kmalloc_ne_null hheap hbuffer)]
    exact Function.update_self ..

/--
**A window that `window_create` or `window_resize` has made has the buffer it needs iff its size
in bytes, computed exactly, is below 2^32.**

The heap is what any calls of `kmalloc` and `kfree` lead to; the windows are arbitrary.
-/
theorem buffer_fits_iff {s : WindowHeap} (hheap : HeapReached s.heap) (width height : Int32) :
    (∀ title x y w cleared t, heapWindowCreate s title x y width height = (w, cleared, t) →
      w ≠ null →
        ((∃ c, cleared = some c ∧ BufferFits (t.gui.mem w) c) ↔ exactBytes width height < 2 ^ 32)) ∧
      ∀ w c t, heapWindowResize s w width height = (some c, t) →
        (BufferFits (t.gui.mem w) c ↔ exactBytes width height < 2 ^ 32) := by
  constructor
  · intro title x y w cleared t hcreate hw
    obtain ⟨h, c, rfl, hclears, hbuffer, hwidth, hheight⟩ :=
      heapWindowCreate_clears hheap hcreate hw
    rw [← hclears.fits_iff hbuffer hwidth hheight]
    constructor
    · rintro ⟨c', hc, hfits⟩
      cases hc
      exact hfits
    · exact fun hfits => ⟨c, rfl, hfits⟩
  · intro w c t hresize
    obtain ⟨hclears, hrecord⟩ := heapWindowResize_clears hheap hresize
    rw [hrecord]
    exact hclears.fits_iff rfl rfl rfl

/-- A window manager without windows and the heap after `heap_init`. -/
def emptyDesktop : WindowHeap where
  gui := windowManagerInit (GuiState.boot fun _ => newWindow [] 0 0 0 0 0 0)
  heap := heapInit Heap.unset

theorem buffer_fits_screen :
    ∃ w c t, heapWindowCreate emptyDesktop (some []) 0 0 320 200 = (w, some c, t) ∧ w ≠ null ∧
      BufferFits (t.gui.mem w) c := by
  have hheap : HeapReached emptyDesktop.heap := ⟨[], rfl⟩
  refine ⟨_, _, _, rfl, by decide, ?_⟩
  obtain ⟨c, hc, hfits⟩ := ((buffer_fits_iff hheap 320 200).1 (some []) 0 0 _ _ _ rfl
    (by decide)).mpr (by decide)
  cases hc
  exact hfits

/-- 32768 × 32769 pixels get 131072 bytes. -/
theorem buffer_too_short :
    ∃ w c t, heapWindowCreate emptyDesktop (some []) 0 0 32768 32769 = (w, some c, t) ∧ w ≠ null ∧
      c.length = 131072 ∧ ¬ BufferFits (t.gui.mem w) c := by
  have hheap : HeapReached emptyDesktop.heap := ⟨[], rfl⟩
  refine ⟨_, _, _, rfl, by decide, by decide, ?_⟩
  obtain ⟨h, c, hc, hclears, hbuffer, hwidth, hheight⟩ :=
    heapWindowCreate_clears hheap
      (rfl : heapWindowCreate emptyDesktop (some []) 0 0 32768 32769 = (_, _, _)) (by decide)
  cases hc
  rw [hclears.fits_iff hbuffer hwidth hheight]
  decide

end MayaOs.Gui
