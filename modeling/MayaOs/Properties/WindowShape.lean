import MayaOs.Properties.WindowKept

/-!
# The shape of the windows

* `windows_shaped` — in every state of every run each window is as high as it has to be and has
  its buttons where its width puts them
-/

namespace MayaOs.Gui

open MayaOs.Lib
open MayaOs.Kernel (null)

/-- The regions of the close, maximize and minimize buttons. -/
def buttonRegions (r : Window) : List Int32 :=
  [r.closeX, r.closeY, r.closeW, r.closeH, r.maxX, r.maxY, r.maxW, r.maxH,
    r.minX, r.minY, r.minW, r.minH]

/-- The button that is the `n`-th from the right. -/
def nthRegion (width n : Int32) : List Int32 :=
  [width - n * (titleButtonSize + titleButtonMargin), titleButtonMargin, titleButtonSize,
    titleButtonSize]

/-- The regions in a title bar of this width. -/
def regionsFor (width : Int32) : List Int32 :=
  nthRegion width 1 ++ nthRegion width 2 ++ nthRegion width 3

structure HasShape (r : Window) : Prop where
  tall : minWindowHeight ≤ r.height
  buttons : buttonRegions r = regionsFor r.width

theorem newWindow_shape (title : List UInt8) (x y width : Int32) {height : Int32}
    (hheight : minWindowHeight ≤ height) (id buffer : Nat) :
    HasShape (newWindow title x y width height id buffer) := by
  refine ⟨hheight, ?_⟩
  simp only [buttonRegions, newWindow, regionsFor, nthRegion, titleButtonSize, titleButtonMargin,
    List.cons_append, List.nil_append, List.cons.injEq, and_true, true_and]
  grind

theorem HasShape.resized {r : Window} (h : HasShape r) (width : Int32) {height : Int32}
    (hheight : minWindowHeight ≤ height) (buffer : Nat) :
    HasShape (resized r width height buffer) := by
  have hbuttons := h.buttons
  refine ⟨hheight, ?_⟩
  simp only [buttonRegions, Gui.resized, regionsFor, nthRegion, titleButtonSize, titleButtonMargin,
    List.cons_append, List.nil_append, List.cons.injEq, and_true] at hbuttons ⊢
  grind

theorem ofExtent_hasShape : OfExtent HasShape where
  congr heq h := by
    obtain ⟨hwidth, hrest⟩ := Prod.mk.inj heq
    obtain ⟨hheight, hrest⟩ := Prod.mk.inj hrest
    obtain ⟨-, hbuttons⟩ := Prod.mk.inj hrest
    refine ⟨by rw [hheight]; exact h.tall, ?_⟩
    rw [hwidth, ← h.buttons]
    exact hbuttons
  new title x y width _ id buffer _ htall _ := newWindow_shape title x y width htall id buffer
  resized h _ htall _ := h.resized _ htall _

/-- **In every state that is reached, the windows are listed in order and have their shape.** -/
theorem windows_shaped {mem : WindowPtr → Window} {ops : List GuiOp} {g : GuiState}
    (h : run guiStep (GuiState.boot mem) ops = some g) : (∃ l, Stacked g l) ∧ Keeps HasShape g :=
  windows_keep ofExtent_hasShape h

/-- A window of 200 × 100 pixels at (50, 50), the only one. -/
def oneWindow : GuiState :=
  createWindow (windowManagerInit (GuiState.boot fun _ => newWindow [] 0 0 0 0 0 0))
    (some []) 50 50 200 100 1 2

theorem run_oneWindow :
    run guiStep (GuiState.boot fun _ => newWindow [] 0 0 0 0 0 0)
      [.init, .create (some []) 50 50 200 100 1 2] = some oneWindow := rfl

end MayaOs.Gui
