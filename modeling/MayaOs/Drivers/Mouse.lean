import Mathlib.Data.List.Basic

/-!
# The mouse (`drivers/mouse.c`)

Left out: the wait for the controller, and what `mouse_init` tells it. The callback gets the state that
`mouse_handler` gives back.
-/

namespace MayaOs.Drivers

/-- The size of the screen (`gui/graphics.h`). -/
def screenWidth : Int := 320
def screenHeight : Int := 200

/-- `mouse_state_t` -/
structure MouseState where
  x : Int
  y : Int
  buttons : UInt8
  deriving Repr, DecidableEq

/-- `mouse_state`, `mouse_cycle` and `mouse_byte`. -/
structure MouseDriver where
  state : MouseState
  cycle : Nat
  byte0 : UInt8
  byte1 : UInt8
  byte2 : UInt8
  deriving Repr, DecidableEq

/-- What an interrupt finds in the status port and in the data port. -/
structure MouseInterrupt where
  status : UInt8
  data : UInt8
  deriving Repr, DecidableEq

/-- `mov`, an `int8_t`: the byte, with `mov |= 0xFFFFFF00` if the sign bit is set. -/
def mouseMovement (negative : Bool) (byte : UInt8) : Int8 :=
  let mov := byte.toInt8
  if negative then (mov.toInt32.toUInt32 ||| 0xFFFFFF00).toUInt8.toInt8 else mov

/-- The end of a packet: "Update mouse state". -/
def mouseUpdate (s : MouseState) (byte0 byte1 byte2 : UInt8) : MouseState :=
  let buttons := byte0 &&& 0x07
  let x := s.x + (mouseMovement (byte0 &&& 0x10 != 0) byte1).toInt
  let y := s.y - (mouseMovement (byte0 &&& 0x20 != 0) byte2).toInt
  let x := if x < 0 then 0 else x
  let y := if y < 0 then 0 else y
  let x := if screenWidth ≤ x then screenWidth - 1 else x
  let y := if screenHeight ≤ y then screenHeight - 1 else y
  { x := x, y := y, buttons := buttons }

/-- `mouse_handler`, and the state if a packet has come to its end. -/
def mouseHandler (d : MouseDriver) (i : MouseInterrupt) : MouseDriver × Option MouseState :=
  if i.status &&& 0x20 = 0 then (d, none)
  else
    match d.cycle with
    | 0 =>
      let d := { d with byte0 := i.data }
      if i.data &&& 0x08 = 0 then (d, none) else ({ d with cycle := 1 }, none)
    | 1 => ({ d with byte1 := i.data, cycle := 2 }, none)
    | 2 =>
      let state := mouseUpdate d.state d.byte0 d.byte1 i.data
      ({ d with byte2 := i.data, state := state, cycle := 0 }, some state)
    | _ => (d, none)

/-- `mouse_init`; `mouse_cycle` and `mouse_byte` are 0 from the start. -/
def mouseInit : MouseDriver where
  state := { x := screenWidth / 2, y := screenHeight / 2, buttons := 0 }
  cycle := 0
  byte0 := 0
  byte1 := 0
  byte2 := 0

/-- The states after the packets that end in a list of interrupts. -/
def mouseStates : MouseDriver → List MouseInterrupt → List MouseState
  | _, [] => []
  | d, i :: is => (mouseHandler d i).2.toList ++ mouseStates (mouseHandler d i).1 is

end MayaOs.Drivers
