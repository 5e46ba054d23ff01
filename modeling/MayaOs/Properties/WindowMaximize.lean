import MayaOs.Properties.WindowBuffers
import MayaOs.Properties.WindowShape

/-!
# The maximize button

A click on the maximize button writes the state and the position, then asks for a new buffer. The
size, the buffer and the buttons change only when it gets one.

* `click_maximize` — the click is a `window_resize` of a window that was moved already
* `toggle_lost`, `toggle_made` — without and with a new buffer
* `toggle_atomic_iff` — the toggle is all or nothing iff the allocation succeeds
-/

namespace MayaOs.Gui

open MayaOs.Lib
open MayaOs.Kernel

/-! ## The property -/

/-- A click with the left button on the maximize button of the topmost window there. -/
structure ClicksMaximize (g : GuiState) (w : WindowPtr) (x y : Int32) : Prop where
  topmost : windowAt g x y g.wm.windowCount = some w
  bar : y < (g.mem w).y + windowTitleHeight
  notClose : inside (x - (g.mem w).x) (y - (g.mem w).y) (g.mem w).closeX (g.mem w).closeY
    (g.mem w).closeW (g.mem w).closeH = false
  maximize : inside (x - (g.mem w).x) (y - (g.mem w).y) (g.mem w).maxX (g.mem w).maxY
    (g.mem w).maxW (g.mem w).maxH = true

structure Placement where
  state : WindowState
  x : Int32
  y : Int32
  width : Int32
  height : Int32
  deriving DecidableEq

def placementOf (r : Window) : Placement := ⟨r.state, r.x, r.y, r.width, r.height⟩

/-- The state that the button leads to. -/
def nextPlacement (r : Window) : Placement :=
  if r.state = .maximized then ⟨.normal, 50, 50, 640, 480⟩
  else ⟨.maximized, 0, 0, screenWidth, screenHeight⟩

/-- State, position, size, buffer and button regions are as before. -/
structure LayoutKept (r r' : Window) : Prop where
  placement : placementOf r' = placementOf r
  buffer : r'.buffer = r.buffer
  buttons : buttonRegions r' = buttonRegions r

/-- State, position, size, buffer and button regions are those of the new state. -/
structure LayoutReplaced (r r' : Window) (c : Clearing) : Prop where
  placement : placementOf r' = nextPlacement r
  buffer : BufferFits r' c
  buttons : buttonRegions r' = regionsFor (nextPlacement r).width

/-- `kmalloc` finds a buffer for the new state. -/
def NewBufferFound (s : WindowHeap) (w : WindowPtr) : Prop :=
  (kmalloc s.heap (bufferBytes (nextPlacement (s.gui.mem w)).width
    (nextPlacement (s.gui.mem w)).height)).1.isSome = true

instance (s : WindowHeap) (w : WindowPtr) : Decidable (NewBufferFound s w) :=
  inferInstanceAs (Decidable (_ = true))

/-- The click changes everything or nothing, as the allocation of the buffer goes. -/
structure ToggleAtomic (s : WindowHeap) (w : WindowPtr) (x y : Int32) : Prop where
  kept : ¬ NewBufferFound s w →
    LayoutKept (s.gui.mem w) ((heapWindowHandleMouse s x y true).2.2.gui.mem w)
  replaced : NewBufferFound s w →
    ∃ c, (heapWindowHandleMouse s x y true).2.1 = some c ∧
      LayoutReplaced (s.gui.mem w) ((heapWindowHandleMouse s x y true).2.2.gui.mem w) c

/-! ## The click -/

/-- The window after the first writes of the toggle. -/
def replaced (s : WindowHeap) (w : WindowPtr) : WindowHeap :=
  { s with
    gui := s.gui.modify w fun r =>
      { r with
        state := (nextPlacement (s.gui.mem w)).state
        x := (nextPlacement (s.gui.mem w)).x
        y := (nextPlacement (s.gui.mem w)).y } }

theorem nextPlacement_size (r : Window) :
    ¬ ((nextPlacement r).width < minWindowWidth ∨ (nextPlacement r).height < minWindowHeight) ∧
      exactBytes (nextPlacement r).width (nextPlacement r).height < 2 ^ 32 := by
  unfold nextPlacement
  split <;> decide

/-- **The click** is a resize of a window that has its new state and position already. -/
theorem click_maximize {s : WindowHeap} (hon : s.gui.wm.initialized = true) {w : WindowPtr}
    {x y : Int32} (hclick : ClicksMaximize s.gui w x y) :
    heapWindowHandleMouse s x y true =
      (true, heapWindowResize (replaced s w) w (nextPlacement (s.gui.mem w)).width
        (nextPlacement (s.gui.mem w)).height) := by
  have htoggle : heapToggleMaximize s w =
      heapWindowResize (replaced s w) w (nextPlacement (s.gui.mem w)).width
        (nextPlacement (s.gui.mem w)).height := by
    unfold heapToggleMaximize replaced nextPlacement
    by_cases hmax : (s.gui.mem w).state = .maximized
    · simp only [if_pos hmax]
    · simp only [if_neg hmax]
  unfold heapWindowHandleMouse
  rw [if_neg (by simp [hon]), hclick.topmost]
  dsimp only
  rw [if_pos ⟨hclick.bar, rfl⟩]
  unfold heapClickTitle
  simp only [hclick.notClose, hclick.maximize, htoggle, if_true, Bool.false_eq_true, if_false]

theorem replaced_mem (s : WindowHeap) (w : WindowPtr) :
    (replaced s w).gui.mem w = { s.gui.mem w with
      state := (nextPlacement (s.gui.mem w)).state
      x := (nextPlacement (s.gui.mem w)).x
      y := (nextPlacement (s.gui.mem w)).y } :=
  Function.update_self ..

/-- **Without a buffer** the window has its new state and nothing else of it. -/
theorem toggle_lost {s : WindowHeap} {w : WindowPtr} (hw : w ≠ null)
    (hlost : ¬ NewBufferFound s w) :
    (heapWindowResize (replaced s w) w (nextPlacement (s.gui.mem w)).width
      (nextPlacement (s.gui.mem w)).height).2.gui = (replaced s w).gui := by
  have hnone : (kmalloc (replaced s w).heap _).1 = none := Option.not_isSome_iff_eq_none.mp hlost
  unfold heapWindowResize
  rw [if_neg fun h => h.elim hw (nextPlacement_size _).1]
  split
  · rfl
  · next heq =>
    rw [heq] at hnone
    cases hnone

/-- **With a buffer** everything is replaced. -/
theorem toggle_made {s : WindowHeap} (hheap : HeapReached s.heap) {w : WindowPtr} (hw : w ≠ null)
    (hshape : HasShape (s.gui.mem w)) (hfound : NewBufferFound s w) :
    ∃ c t, heapWindowResize (replaced s w) w (nextPlacement (s.gui.mem w)).width
        (nextPlacement (s.gui.mem w)).height = (some c, t) ∧
      LayoutReplaced (s.gui.mem w) (t.gui.mem w) c := by
  obtain ⟨hsize, hbytes⟩ := nextPlacement_size (s.gui.mem w)
  obtain ⟨c, t, hresize⟩ : ∃ c t, heapWindowResize (replaced s w) w
      (nextPlacement (s.gui.mem w)).width (nextPlacement (s.gui.mem w)).height = (some c, t) := by
    unfold heapWindowResize
    rw [if_neg fun h => h.elim hw hsize]
    split
    · next heq =>
      have hsome : (kmalloc (replaced s w).heap _).1.isSome = true := hfound
      rw [heq] at hsome
      cases hsome
    · exact ⟨_, _, rfl⟩
  have hheap' : HeapReached (replaced s w).heap := hheap
  obtain ⟨hclears, hrecord⟩ := heapWindowResize_clears hheap' hresize
  refine ⟨c, t, hresize, ?_, ?_, ?_⟩
  · rw [hrecord, replaced_mem]
    rfl
  · rw [hrecord]
    exact (hclears.fits_iff rfl rfl rfl).mpr hbytes
  · have hmoved : HasShape ((replaced s w).gui.mem w) := by
      rw [replaced_mem]
      exact ⟨hshape.tall, hshape.buttons⟩
    rw [hrecord]
    exact (hmoved.resized _ (Int32.not_lt.mp fun hlt => hsize (Or.inr hlt)) _).buttons

/--
**The maximize button changes all of the layout or nothing of it iff the allocation succeeds.**

The window is clicked on in any state that any calls lead to, and with any heap that calls of
`kmalloc` and `kfree` lead to.
-/
theorem toggle_atomic_iff {mem : WindowPtr → Window} {ops : List GuiOp} {s : WindowHeap}
    (hrun : run guiStep (GuiState.boot mem) ops = some s.gui) (hheap : HeapReached s.heap)
    {w : WindowPtr} {x y : Int32} (hclick : ClicksMaximize s.gui w x y) :
    ToggleAtomic s w x y ↔ NewBufferFound s w := by
  obtain ⟨⟨l, hl⟩, hshaped⟩ := windows_shaped hrun
  have hmem : w ∈ l := windowAt_mem hl x y (Nat.le_refl _) hclick.topmost
  have hw : w ≠ null := fun he => hl.nonnull (he ▸ hmem)
  have hon : s.gui.wm.initialized = true := hl.on_of_mem hmem
  have heq := click_maximize hon hclick
  constructor
  · intro h
    by_contra hlost
    -- the state is toggled before the allocation
    have hkept := congrArg Placement.state (h.kept hlost).placement
    rw [heq] at hkept
    dsimp only at hkept
    rw [toggle_lost hw hlost, replaced_mem] at hkept
    unfold placementOf nextPlacement at hkept
    split at hkept
    · next hmax =>
      rw [hmax] at hkept
      cases hkept
    · next hnot => exact hnot hkept.symm
  · intro hfound
    refine ⟨fun hlost => absurd hfound hlost, fun _ => ?_⟩
    obtain ⟨c, t, hresize, hreplaced⟩ :=
      toggle_made hheap hw (hshaped w ((hl.live w).mp hmem)) hfound
    rw [heq, hresize]
    exact ⟨c, rfl, hreplaced⟩

/-- The middle of the maximize button of the one window. -/
theorem clicks_oneWindow : ClicksMaximize oneWindow 1 223 60 := by
  exact ⟨by decide, by decide, by decide, by decide⟩

theorem toggle_atomic_fresh : ToggleAtomic ⟨oneWindow, heapInit Heap.unset⟩ 1 223 60 :=
  (toggle_atomic_iff (s := ⟨oneWindow, heapInit Heap.unset⟩) run_oneWindow ⟨[], rfl⟩
    clicks_oneWindow).mpr (by decide)

/-- With a heap that is used up, the window is called maximized and stays 200 × 100 pixels large. -/
theorem toggle_half :
    ∃ h, HeapReached h ∧ ¬ ToggleAtomic ⟨oneWindow, h⟩ 1 223 60 ∧
      placementOf ((heapWindowHandleMouse ⟨oneWindow, h⟩ 223 60 true).2.2.gui.mem 1) =
        ⟨.maximized, 0, 0, 200, 100⟩ := by
  let h := (kmalloc (heapInit Heap.unset) (2 ^ 28 - 16)).2
  have hlost : ¬ NewBufferFound ⟨oneWindow, h⟩ 1 := by decide
  have hplacement : placementOf ((heapWindowHandleMouse ⟨oneWindow, h⟩ 223 60 true).2.2.gui.mem 1) =
      ⟨.maximized, 0, 0, 200, 100⟩ := by decide
  refine ⟨h, ⟨[.kmalloc (2 ^ 28 - 16)], rfl⟩, fun hatomic => ?_, hplacement⟩
  have hkept := (hatomic.kept hlost).placement
  rw [hplacement] at hkept
  exact absurd hkept (by decide)

end MayaOs.Gui
