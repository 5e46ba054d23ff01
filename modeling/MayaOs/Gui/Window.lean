import MayaOs.Kernel.State
import MayaOs.Lib.NumberedArray

/-!
# The window manager (`gui/window.c`)

`wm.windows` is a fixed array of pointers of which the first `window_count` cells are in use; the
`window_t` records are in memory. What `kmalloc` returns is an argument of the functions that call
it. `int` is `Int32`; sums that overflow it wrap around.

Left out are the contents of the window buffers and the drawing functions; the list of widgets is in
`Gui.Widgets`, the heap in `Gui.WindowHeap`. The value of `MOUSE_LEFT_BUTTON` is not part of the
source: `window_handle_mouse` is told whether that bit is set in `buttons`.
-/

namespace MayaOs.Gui

open MayaOs.Lib
open MayaOs.Kernel (null)

abbrev WindowPtr := Nat

/-- `window_state_t`. -/
inductive WindowState where
  | normal
  | minimized
  | maximized
  | dragging
  | resizing
  deriving Repr, DecidableEq

structure Window where
  x : Int32
  y : Int32
  width : Int32
  height : Int32
  title : List UInt8
  buffer : Nat
  visible : Bool
  dragging : Bool
  resizing : Bool
  state : WindowState
  id : Nat
  closeX : Int32
  closeY : Int32
  closeW : Int32
  closeH : Int32
  minX : Int32
  minY : Int32
  minW : Int32
  minH : Int32
  maxX : Int32
  maxY : Int32
  maxW : Int32
  maxH : Int32
  deriving DecidableEq

def maxWindows : Nat := 32
def windowTitleHeight : Int32 := 20
def minWindowWidth : Int32 := 100
def minWindowHeight : Int32 := 50
def titleButtonSize : Int32 := 14
def titleButtonMargin : Int32 := 3
def windowTitleMax : Nat := 64
def screenWidth : Int32 := 320
def screenHeight : Int32 := 200

/-- `window_manager_t wm`. -/
structure WindowManager where
  windows : List WindowPtr
  focusedWindow : WindowPtr
  windowCount : Nat
  initialized : Bool
  deriving Repr, DecidableEq

/-- `wm` after `memset(&wm, 0, sizeof(window_manager_t))`. -/
def WindowManager.zero : WindowManager where
  windows := List.replicate maxWindows null
  focusedWindow := null
  windowCount := 0
  initialized := false

/--
The manager, the records in memory, and the static variables of `window_handle_mouse`.

`live` lists the windows that have been created and not destroyed: no function of the source reads
or writes it, the runs keep it beside the calls (`noteCreated`, `noteDestroyed`).
-/
structure GuiState where
  wm : WindowManager
  mem : WindowPtr → Window
  live : List WindowPtr
  dragStartX : Int32
  dragStartY : Int32

/-- Writes to the record at `w`. -/
def GuiState.modify (g : GuiState) (w : WindowPtr) (f : Window → Window) : GuiState :=
  { g with mem := Function.update g.mem w (f (g.mem w)) }

/-- `window_create` returned `w`: NULL, or a window that exists from now on. -/
def GuiState.noteCreated (g : GuiState) (w : WindowPtr) : GuiState :=
  if w = null then g else { g with live := w :: g.live }

/-- `window_destroy` was given `w`: NULL, or a window that no longer exists. -/
def GuiState.noteDestroyed (g : GuiState) (w : WindowPtr) : GuiState :=
  if w = null then g else { g with live := g.live.erase w }

@[simp] theorem GuiState.noteCreated_null (g : GuiState) : g.noteCreated null = g := if_pos rfl

@[simp] theorem GuiState.noteDestroyed_null (g : GuiState) : g.noteDestroyed null = g := if_pos rfl

def windowManagerInit (g : GuiState) : GuiState :=
  if g.wm.initialized then g
  else { g with wm := { WindowManager.zero with initialized := true } }

/-! ## window_focus -/

def setId (id : Nat) (r : Window) : Window := { r with id := id }

/-- The loop "Shift remaining windows", from index `i`. -/
def shiftWindows (g : GuiState) (i : Nat) : GuiState :=
  let r := shiftNumbered setId g.wm.windows g.mem i (g.wm.windowCount - 1 - i)
  { g with wm := { g.wm with windows := r.1 }, mem := r.2 }

/-- "Move window to top". -/
def moveToTop (g : GuiState) (window : WindowPtr) : GuiState :=
  match (g.wm.windows.take g.wm.windowCount).findIdx? (fun w => w == window) with
  | none => g
  | some i =>
    let g := shiftWindows g i
    let top := g.wm.windowCount - 1
    let g := { g with wm := { g.wm with windows := g.wm.windows.set top window } }
    g.modify window (setId top)

def windowFocus (g : GuiState) (window : WindowPtr) : GuiState :=
  if g.wm.initialized = false ∨ window = null then g
  else if g.wm.focusedWindow = window then g
  else
    let g := moveToTop g window
    { g with wm := { g.wm with focusedWindow := window } }

/-! ## window_create -/

/-- `strncpy` of at most 63 characters into `title`, which has 64 bytes and ends in a zero. -/
def copyTitle (title : List UInt8) : List UInt8 :=
  let t := title.take (windowTitleMax - 1)
  t ++ List.replicate (windowTitleMax - t.length) 0

/-- "Initialize window properties" and "Initialize button regions". -/
def newWindow (title : List UInt8) (x y width height : Int32) (id buffer : Nat) : Window :=
  let closeX := width - titleButtonSize - titleButtonMargin
  let maxX := closeX - titleButtonSize - titleButtonMargin
  let minX := maxX - titleButtonSize - titleButtonMargin
  { x, y, width, height
    title := copyTitle title
    buffer
    visible := true
    dragging := false
    resizing := false
    state := .normal
    id
    closeX, closeY := titleButtonMargin, closeW := titleButtonSize, closeH := titleButtonSize
    minX, minY := titleButtonMargin, minW := titleButtonSize, minH := titleButtonSize
    maxX, maxY := titleButtonMargin, maxW := titleButtonSize, maxH := titleButtonSize }

/-- `block` and `buffer` are what the two `kmalloc` calls return; `none` is a NULL title. -/
def windowCreate (g : GuiState) (title : Option (List UInt8)) (x y width height : Int32)
    (block buffer : Nat) : WindowPtr × GuiState :=
  match title with
  | none => (null, g)
  | some title =>
    if g.wm.initialized = false ∨ width < minWindowWidth ∨ height < minWindowHeight then (null, g)
    else if maxWindows ≤ g.wm.windowCount then (null, g)
    else if block = null then (null, g)
    else
      let id := g.wm.windowCount
      let g := g.modify block fun _ => newWindow title x y width height id buffer
      -- on failure the record is freed and the counter taken back
      if buffer = null then (null, g)
      else
        let g :=
          { g with
            wm := { g.wm with windows := g.wm.windows.set id block, windowCount := id + 1 } }
        (block, windowFocus g block)

/-! ## window_destroy -/

/-- "Remove from window list". -/
def removeWindow (g : GuiState) (window : WindowPtr) : GuiState :=
  match (g.wm.windows.take g.wm.windowCount).findIdx? (fun w => w == window) with
  | none => g
  | some i =>
    let g := shiftWindows g i
    { g with wm := { g.wm with windowCount := g.wm.windowCount - 1 } }

/-- "Update focused window". -/
def refocus (g : GuiState) (window : WindowPtr) : GuiState :=
  if g.wm.focusedWindow = window then
    { g with
      wm :=
        { g.wm with
          focusedWindow :=
            if 0 < g.wm.windowCount then g.wm.windows.getD (g.wm.windowCount - 1) null else null } }
  else g

def windowDestroy (g : GuiState) (window : WindowPtr) : GuiState :=
  if g.wm.initialized = false ∨ window = null then g
  else refocus (removeWindow g window) window

/-! ## Operations on one window -/

def windowShow (g : GuiState) (window : WindowPtr) : GuiState :=
  if window = null then g else g.modify window fun r => { r with visible := true }

def windowHide (g : GuiState) (window : WindowPtr) : GuiState :=
  if window = null then g else g.modify window fun r => { r with visible := false }

def windowMove (g : GuiState) (window : WindowPtr) (x y : Int32) : GuiState :=
  if window = null then g else g.modify window fun r => { r with x := x, y := y }

/-- "Reposition buttons", for the new width. -/
def resized (r : Window) (width height : Int32) (buffer : Nat) : Window :=
  let closeX := width - titleButtonSize - titleButtonMargin
  let maxX := closeX - titleButtonSize - titleButtonMargin
  { r with
    buffer, width, height, closeX, maxX
    minX := maxX - titleButtonSize - titleButtonMargin }

/-- `buffer` is what `kmalloc` returns. -/
def windowResize (g : GuiState) (window : WindowPtr) (width height : Int32) (buffer : Nat) :
    GuiState :=
  if window = null ∨ width < minWindowWidth ∨ height < minWindowHeight then g
  else if buffer = null then g
  else g.modify window fun r => resized r width height buffer

/-! ## window_handle_mouse -/

/-- Position relative to a button of the title bar. -/
def inside (relX relY x y w h : Int32) : Bool :=
  x ≤ relX ∧ relX < x + w ∧ y ≤ relY ∧ relY < y + h

/-- A click on the maximize button. -/
def toggleMaximize (g : GuiState) (window : WindowPtr) (buffer : Nat) : GuiState :=
  if (g.mem window).state = .maximized then
    windowResize (g.modify window fun r => { r with state := .normal, x := 50, y := 50 })
      window 640 480 buffer
  else
    windowResize (g.modify window fun r => { r with state := .maximized, x := 0, y := 0 })
      window screenWidth screenHeight buffer

/-- A click elsewhere on the title bar. -/
def startDrag (g : GuiState) (window : WindowPtr) (relX relY : Int32) : GuiState :=
  if (g.mem window).dragging then g
  else
    let g := windowFocus g window
    let r := g.mem window
    if r.width - 15 < relX ∧ r.height - 15 < relY then
      g.modify window fun r => { r with resizing := true }
    else
      { g.modify window fun r => { r with dragging := true } with
        dragStartX := relX
        dragStartY := relY }

/-- "Title bar interaction" with the left button down. -/
def clickTitle (g : GuiState) (window : WindowPtr) (x y : Int32) (buffer : Nat) : GuiState :=
  let r := g.mem window
  let relX := x - r.x
  let relY := y - r.y
  if inside relX relY r.closeX r.closeY r.closeW r.closeH then windowDestroy g window
  else if inside relX relY r.maxX r.maxY r.maxW r.maxH then toggleMaximize g window buffer
  else startDrag g window relX relY

/-- The topmost visible window below index `n` that the position is in. -/
def windowAt (g : GuiState) (x y : Int32) : Nat → Option WindowPtr
  | 0 => none
  | n + 1 =>
    let window := g.wm.windows.getD n null
    let r := g.mem window
    if r.visible = false then windowAt g x y n
    else if r.x ≤ x ∧ x < r.x + r.width ∧ r.y ≤ y ∧ y < r.y + r.height then some window
    else windowAt g x y n

/-- "Handle window dragging". -/
def handleDrag (g : GuiState) (x y : Int32) (left : Bool) : Bool × GuiState :=
  let focused := g.wm.focusedWindow
  if focused = null ∨ (g.mem focused).dragging = false then (false, g)
  else if left then
    (true, g.modify focused fun r => { r with x := x - g.dragStartX, y := y - g.dragStartY })
  else (true, g.modify focused fun r => { r with dragging := false })

/-- Every branch that acts on a window returns, so the scan is over when the array changes. -/
def windowHandleMouse (g : GuiState) (x y : Int32) (left : Bool) (buffer : Nat) :
    Bool × GuiState :=
  if g.wm.initialized = false then (false, g)
  else
    match windowAt g x y g.wm.windowCount with
    | none => handleDrag g x y left
    | some window =>
      if y < (g.mem window).y + windowTitleHeight ∧ left = true then
        (true, clickTitle g window x y buffer)
      else (true, g)

/-! ## Steps -/

def GuiState.boot (mem : WindowPtr → Window) : GuiState where
  wm := WindowManager.zero
  mem := mem
  live := []
  dragStartX := 0
  dragStartY := 0

inductive GuiOp where
  | init
  | create (title : Option (List UInt8)) (x y width height : Int32) (block buffer : Nat)
  | destroy (window : WindowPtr)
  | focus (window : WindowPtr)
  | show (window : WindowPtr)
  | hide (window : WindowPtr)
  | move (window : WindowPtr) (x y : Int32)
  | resize (window : WindowPtr) (width height : Int32) (buffer : Nat)
  | mouse (x y : Int32) (left : Bool) (buffer : Nat)

/-- NULL or a window that exists. -/
def GuiState.Valid (g : GuiState) (window : WindowPtr) : Prop := window = null ∨ window ∈ g.live

instance (g : GuiState) (window : WindowPtr) : Decidable (g.Valid window) :=
  inferInstanceAs (Decidable (_ ∨ _))

/-- A call of `window_create`, and what exists afterwards. -/
def createWindow (g : GuiState) (title : Option (List UInt8)) (x y width height : Int32)
    (block buffer : Nat) : GuiState :=
  let r := windowCreate g title x y width height block buffer
  r.2.noteCreated r.1

/-- A call of `window_destroy`, and what exists afterwards. -/
def destroyWindow (g : GuiState) (window : WindowPtr) : GuiState :=
  (windowDestroy g window).noteDestroyed window

/-- The window that a mouse event closes, NULL if none: the click is on its close button. -/
def closedBy (g : GuiState) (x y : Int32) (left : Bool) : WindowPtr :=
  match windowAt g x y g.wm.windowCount with
  | none => null
  | some window =>
    let r := g.mem window
    if g.wm.initialized = true ∧ (y < r.y + windowTitleHeight ∧ left = true) ∧
        inside (x - r.x) (y - r.y) r.closeX r.closeY r.closeW r.closeH then window
    else null

/--
One call. `kmalloc` returns NULL or a block that is not in use, and the operations on windows are
given NULL or a window that exists.
-/
def guiStep (g : GuiState) : GuiOp → Option GuiState
  | .init => some (windowManagerInit g)
  | .create title x y width height block buffer =>
    if block ∈ g.live then none else some (createWindow g title x y width height block buffer)
  | .destroy w => if g.Valid w then some (destroyWindow g w) else none
  | .focus w => if g.Valid w then some (windowFocus g w) else none
  | .show w => if g.Valid w then some (windowShow g w) else none
  | .hide w => if g.Valid w then some (windowHide g w) else none
  | .move w x y => if g.Valid w then some (windowMove g w x y) else none
  | .resize w width height buffer =>
    if g.Valid w then some (windowResize g w width height buffer) else none
  | .mouse x y left buffer =>
    some ((windowHandleMouse g x y left buffer).2.noteDestroyed (closedBy g x y left))

end MayaOs.Gui
