import MayaOs.Drivers.Keyboard
import MayaOs.Gui.Desktop
import MayaOs.Gui.Input

/-!
# The command loop (`kernel/kernel.c`)

The loop at the end of `kernel_main`, with interrupts enabled. It is cut where it reads and writes the
input manager, so that an interrupt may come between any two of these accesses; `queue_count--` is a
load and a store. A handler runs to its end.

Left out are the initialisation before the loop, of which there is the state that the loop starts
from, and what the shortcuts call but for the start menu.
-/

namespace MayaOs.Kernel

open MayaOs.Drivers (KeyboardState keyboardHandler)
open MayaOs.Gui (Desktop InputEvent InputManager Shortcut desktopHandleStartMenuInput
  desktopToggleStartMenu inputAddKeyEvent inputAddMouseEvent inputInit inputQueueSize)

/-- Where the loop is. -/
inductive LoopPc where
  /-- about to read `queue_count` in `maya_input_has_events` -/
  | check
  /-- about to read it again in `maya_input_get_event` -/
  | get
  /-- about to copy the event at the tail -/
  | copy
  /-- about to move the tail -/
  | advance (event : InputEvent)
  /-- about to read `queue_count` for `queue_count--` -/
  | load (event : InputEvent)
  /-- about to write it -/
  | store (event : InputEvent) (count : Nat)
  /-- about to act on the event -/
  | dispatch (event : InputEvent)
  deriving Repr, DecidableEq

/--
The drivers and the loop. `accepted` and `taken` are the events that were put in the queue and those
taken out of it, `handed` the characters that went to the start menu, `lost` how many events have come
between a load and a store of `queue_count`; `overrun` says that an event that was not taken has been
written over.
-/
structure CommandLoop where
  keyboard : KeyboardState
  input : InputManager
  desktop : Desktop
  pc : LoopPc
  accepted : List InputEvent
  taken : List InputEvent
  handed : List UInt8
  shortcuts : List Shortcut
  lost : Nat
  overrun : Bool

def CommandLoop.boot (keyboard : KeyboardState) : CommandLoop where
  keyboard := keyboard
  input := inputInit
  desktop := Desktop.zero
  pc := .check
  accepted := []
  taken := []
  handed := []
  shortcuts := []
  lost := 0
  overrun := false

/-! ## Interrupts -/

/-- The input manager after a handler; a count that has grown says that an event was put in at the
head. -/
def CommandLoop.accept (s : CommandLoop) (input : InputManager) : CommandLoop :=
  if s.input.queueCount < input.queueCount then
    { s with
      input := input
      accepted := s.accepted ++ [input.eventQueue.getD s.input.queueHead InputEvent.zero]
      overrun := s.overrun || decide (s.taken.length + inputQueueSize ≤ s.accepted.length) }
  else { s with input := input }

/-- `keyboard_handler`, with `maya_input_add_key_event_callback` as its callback. -/
def CommandLoop.key (s : CommandLoop) (data : UInt8) (now : UInt32) : CommandLoop :=
  let (keyboard, typed) := keyboardHandler s.keyboard data
  let s := { s with keyboard := keyboard }
  match typed with
  | none => s
  | some ascii =>
    let (shortcut, input) := inputAddKeyEvent s.input ascii 0 true now
    let s := s.accept input
    match shortcut with
    | none => s
    | some shortcut =>
      { s with
        shortcuts := s.shortcuts ++ [shortcut]
        desktop := if shortcut = .startMenu then desktopToggleStartMenu s.desktop else s.desktop }

/-! ## The loop -/

/-- The character of a key that was pressed. -/
def keyOf (event : InputEvent) : Option UInt8 :=
  match event.type, event.data with
  | .keyPress, .key ascii _ _ => some ascii
  | _, _ => none

/-- One access. -/
def CommandLoop.turn (s : CommandLoop) : CommandLoop :=
  match s.pc with
  | .check => if 0 < s.input.queueCount then { s with pc := .get } else s
  | .get =>
    if 0 < s.input.queueCount then { s with pc := .copy } else { s with pc := .dispatch InputEvent.zero }
  | .copy => { s with pc := .advance (s.input.eventQueue.getD s.input.queueTail InputEvent.zero) }
  | .advance event =>
    { s with
      input := { s.input with queueTail := (s.input.queueTail + 1) % inputQueueSize }
      taken := s.taken ++ [event]
      pc := .load event }
  | .load event => { s with pc := .store event s.input.queueCount }
  | .store event count =>
    { s with
      input := { s.input with queueCount := count - 1 }
      lost := s.lost + (s.input.queueCount - count)
      pc := .dispatch event }
  | .dispatch event =>
    match keyOf event with
    | none => { s with pc := .check }
    | some ascii =>
      { s with
        desktop := desktopHandleStartMenuInput s.desktop ascii
        handed := s.handed ++ [ascii]
        pc := .check }

inductive LoopAction where
  | key (data : UInt8) (now : UInt32)
  | mouse (x y : Int) (buttons : UInt8) (now : UInt32)
  | turn
  deriving Repr, DecidableEq

def loopStep (s : CommandLoop) : LoopAction → Option CommandLoop
  | .key data now => some (s.key data now)
  | .mouse x y buttons now => some (s.accept (inputAddMouseEvent s.input x y buttons now))
  | .turn => some s.turn

end MayaOs.Kernel
