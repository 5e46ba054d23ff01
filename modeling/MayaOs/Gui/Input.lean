import Mathlib.Data.List.Basic

/-!
# The input manager (`gui/input.c`)

`now` is what `timer_get_ticks` returns during a call. The functions that a shortcut calls do not
touch the input manager; `maya_input_add_key_event` gives back which shortcut it was.
-/

namespace MayaOs.Gui

/-- `input_event_type_t`. -/
inductive InputEventType where
  | keyPress
  | keyRelease
  | mouseMove
  | mouseClick
  | mouseRelease
  deriving Repr, DecidableEq

/-- The union in `maya_input_event_t`. -/
inductive InputData where
  | key (ascii scancode modifiers : UInt8)
  | mouse (x y : Int) (buttons : UInt8)
  deriving Repr, DecidableEq

/-- `maya_input_event_t`. -/
structure InputEvent where
  type : InputEventType
  data : InputData
  timestamp : UInt32
  deriving Repr, DecidableEq

def InputEvent.zero : InputEvent where
  type := .keyPress
  data := .key 0 0 0
  timestamp := 0

/-- `maya_input_manager_t`. -/
structure InputManager where
  eventQueue : List InputEvent
  queueHead : Nat
  queueTail : Nat
  queueCount : Nat
  mouseX : Int
  mouseY : Int
  mouseButtons : UInt8
  keyModifiers : UInt8
  lastClickTime : UInt32
  lastClickX : Int
  lastClickY : Int
  isDoubleClick : Bool
  deriving Repr, DecidableEq

def inputQueueSize : Nat := 32

/-- `maya_input_init`. -/
def inputInit : InputManager where
  eventQueue := List.replicate inputQueueSize InputEvent.zero
  queueHead := 0
  queueTail := 0
  queueCount := 0
  mouseX := 0
  mouseY := 0
  mouseButtons := 0
  keyModifiers := 0
  lastClickTime := 0
  lastClickX := 0
  lastClickY := 0
  isDoubleClick := false

def mayaKeyCtrl : UInt8 := 29
def mayaKeyAlt : UInt8 := 56
def mayaKeyShift : UInt8 := 42
def mayaKeySuper : UInt8 := 91
def keyTab : UInt8 := 15
def keyF4 : UInt8 := 62
def mayaMouseLeft : UInt8 := 1

/-- An event is put at the head of the queue. -/
def InputManager.enqueue (m : InputManager) (event : InputEvent) : InputManager :=
  { m with
    eventQueue := m.eventQueue.set m.queueHead event
    queueHead := (m.queueHead + 1) % inputQueueSize
    queueCount := m.queueCount + 1 }

/-! ## Keys -/

/-- "Maintain global modifier state". -/
def updateModifiers (modifiers scancode : UInt8) (pressed : Bool) : UInt8 :=
  if scancode = mayaKeyCtrl then
    if pressed then modifiers ||| 0x01 else modifiers &&& ~~~ 0x01
  else if scancode = mayaKeyAlt then
    if pressed then modifiers ||| 0x02 else modifiers &&& ~~~ 0x02
  else if scancode = mayaKeyShift then
    if pressed then modifiers ||| 0x04 else modifiers &&& ~~~ 0x04
  else modifiers

inductive Shortcut where
  | taskView (altTab : Bool)
  | startMenu
  /-- `window_destroy` of the focused window, if there is one -/
  | closeFocused
  | copy
  | paste
  deriving Repr, DecidableEq

/-- "Global Shortcuts Trigger", for a key that is pressed. -/
def shortcutOf (modifiers ascii scancode : UInt8) : Option Shortcut :=
  if scancode = mayaKeySuper then
    if modifiers &&& 0x08 ≠ 0 then some (.taskView false) else some .startMenu
  else if modifiers &&& 0x02 ≠ 0 ∧ scancode = keyF4 then some .closeFocused
  -- the ASCII codes of c and v
  else if modifiers &&& 0x01 ≠ 0 ∧ ascii = 99 then some .copy
  else if modifiers &&& 0x01 ≠ 0 ∧ ascii = 118 then some .paste
  else if modifiers &&& 0x02 ≠ 0 ∧ scancode = keyTab then some (.taskView true)
  else none

/-- `maya_input_add_key_event`. -/
def inputAddKeyEvent (m : InputManager) (ascii scancode : UInt8) (pressed : Bool) (now : UInt32) :
    Option Shortcut × InputManager :=
  if inputQueueSize ≤ m.queueCount then (none, m)
  else
    let m := { m with keyModifiers := updateModifiers m.keyModifiers scancode pressed }
    match if pressed then shortcutOf m.keyModifiers ascii scancode else none with
    | some shortcut => (some shortcut, m)
    | none =>
      (none, m.enqueue
        { type := if pressed then .keyPress else .keyRelease
          data := .key ascii scancode m.keyModifiers
          timestamp := now })

def inputIsCtrlPressed (m : InputManager) : Bool := m.keyModifiers &&& 0x01 != 0
def inputIsAltPressed (m : InputManager) : Bool := m.keyModifiers &&& 0x02 != 0
def inputIsShiftPressed (m : InputManager) : Bool := m.keyModifiers &&& 0x04 != 0

/-! ## The mouse -/

/-- "Double click detection". -/
def InputManager.noteClick (m : InputManager) (x y : Int) (now : UInt32) : InputManager :=
  { m with
    isDoubleClick :=
      decide (now - m.lastClickTime < 50 ∧ (x - m.lastClickX).natAbs < 5 ∧
        (y - m.lastClickY).natAbs < 5)
    lastClickTime := now
    lastClickX := x
    lastClickY := y }

def InputManager.enqueueMouse (m : InputManager) (type : InputEventType) (x y : Int)
    (buttons : UInt8) (now : UInt32) : InputManager :=
  { m with mouseX := x, mouseY := y, mouseButtons := buttons }.enqueue
    { type := type, data := .mouse x y buttons, timestamp := now }

/-- `maya_input_add_mouse_event`. -/
def inputAddMouseEvent (m : InputManager) (x y : Int) (buttons : UInt8) (now : UInt32) :
    InputManager :=
  if inputQueueSize ≤ m.queueCount then m
  else if x ≠ m.mouseX ∨ y ≠ m.mouseY then m.enqueueMouse .mouseMove x y buttons now
  else if buttons ≠ m.mouseButtons then
    if m.mouseButtons < buttons then
      let m := if buttons = mayaMouseLeft then m.noteClick x y now else m
      m.enqueueMouse .mouseClick x y buttons now
    else m.enqueueMouse .mouseRelease x y buttons now
  else m

/-! ## Taking events -/

/-- `maya_input_get_event`. -/
def inputGetEvent (m : InputManager) : InputEvent × InputManager :=
  if 0 < m.queueCount then
    (m.eventQueue.getD m.queueTail InputEvent.zero,
      { m with
        queueTail := (m.queueTail + 1) % inputQueueSize
        queueCount := m.queueCount - 1 })
  else (InputEvent.zero, m)

end MayaOs.Gui
