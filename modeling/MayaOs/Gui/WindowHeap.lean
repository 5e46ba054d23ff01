import MayaOs.Gui.Window
import MayaOs.Kernel.Memory

/-!
# The window manager and the heap (`gui/window.c`)

The calls of `window.c` that allocate and free, with the heap of `kernel/memory.c` in place of the
pointers that `Gui.Window` takes from outside. The contents of the buffers are left out, except
that each function says what it clears. So what is written to a block, such as the `memset` of a new
buffer, does not reach the descriptors of the heap here; in the source it can, as these stand in the
same memory.

`sizeof(window_t)` is 148 on the 32-bit target.
-/

namespace MayaOs.Gui

open MayaOs.Kernel (null Heap kmalloc kfree)

structure WindowHeap where
  gui : GuiState
  heap : Heap

/-- `sizeof(window_t)`. -/
def windowBytes : Nat := 148

/-- `width * height * sizeof(uint32_t)`: an `int` product, converted to `size_t`. -/
def bufferBytes (width height : Int32) : Nat := ((width * height).toUInt32 * 4).toNat

/-- `memset(buffer, 0, length)`, with the heap that it is called in. -/
structure Clearing where
  buffer : Nat
  length : Nat
  heap : Heap

def heapWindowCreate (s : WindowHeap) (title : Option (List UInt8)) (x y width height : Int32) :
    WindowPtr × Option Clearing × WindowHeap :=
  match title with
  | none => (null, none, s)
  | some title =>
    if s.gui.wm.initialized = false ∨ width < minWindowWidth ∨ height < minWindowHeight then
      (null, none, s)
    else if maxWindows ≤ s.gui.wm.windowCount then (null, none, s)
    else
      match kmalloc s.heap windowBytes with
      | (none, heap) => (null, none, { s with heap })
      | (some block, heap) =>
        match kmalloc heap (bufferBytes width height) with
        | (none, heap) =>
          let r := windowCreate s.gui (some title) x y width height block null
          (r.1, none, { gui := r.2, heap := kfree heap block })
        | (some buffer, heap) =>
          let r := windowCreate s.gui (some title) x y width height block buffer
          (r.1, some { buffer, length := bufferBytes width height, heap }, { gui := r.2, heap })

/-- `kfree` of the old buffer ignores NULL, as the test before it does. -/
def heapWindowResize (s : WindowHeap) (window : WindowPtr) (width height : Int32) :
    Option Clearing × WindowHeap :=
  if window = null ∨ width < minWindowWidth ∨ height < minWindowHeight then (none, s)
  else
    match kmalloc s.heap (bufferBytes width height) with
    | (none, heap) => (none, { s with heap })
    | (some buffer, heap) =>
      (some { buffer, length := bufferBytes width height, heap },
        { gui := windowResize s.gui window width height buffer
          heap := kfree heap (s.gui.mem window).buffer })

def heapWindowDestroy (s : WindowHeap) (window : WindowPtr) : WindowHeap :=
  if s.gui.wm.initialized = false ∨ window = null then s
  else
    { gui := windowDestroy s.gui window
      heap := kfree (kfree s.heap (s.gui.mem window).buffer) window }

/-! ## window_handle_mouse -/

/-- A click on the maximize button. -/
def heapToggleMaximize (s : WindowHeap) (window : WindowPtr) : Option Clearing × WindowHeap :=
  if (s.gui.mem window).state = .maximized then
    heapWindowResize
      { s with gui := s.gui.modify window fun r => { r with state := .normal, x := 50, y := 50 } }
      window 640 480
  else
    heapWindowResize
      { s with gui := s.gui.modify window fun r => { r with state := .maximized, x := 0, y := 0 } }
      window screenWidth screenHeight

/-- "Title bar interaction" with the left button down. -/
def heapClickTitle (s : WindowHeap) (window : WindowPtr) (x y : Int32) :
    Option Clearing × WindowHeap :=
  let r := s.gui.mem window
  let relX := x - r.x
  let relY := y - r.y
  if inside relX relY r.closeX r.closeY r.closeW r.closeH then (none, heapWindowDestroy s window)
  else if inside relX relY r.maxX r.maxY r.maxW r.maxH then heapToggleMaximize s window
  else (none, { s with gui := startDrag s.gui window relX relY })

def heapWindowHandleMouse (s : WindowHeap) (x y : Int32) (left : Bool) :
    Bool × Option Clearing × WindowHeap :=
  if s.gui.wm.initialized = false then (false, none, s)
  else
    match windowAt s.gui x y s.gui.wm.windowCount with
    | none =>
      let r := handleDrag s.gui x y left
      (r.1, none, { s with gui := r.2 })
    | some window =>
      if y < (s.gui.mem window).y + windowTitleHeight ∧ left = true then
        (true, heapClickTitle s window x y)
      else (true, none, s)

end MayaOs.Gui
