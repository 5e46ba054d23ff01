import Mathlib.Logic.Function.Basic

/-!
# The text screen (`drivers/vga.c`)

`writes` are the indices of the buffer that have been written, newest first; `cursor` is what the two
registers of the cursor hold.
-/

namespace MayaOs.Drivers

def vgaWidth : Nat := 80
def vgaHeight : Nat := 25

/-- `VGA_COLOR(VGA_WHITE, VGA_BLACK)` -/
def vgaWhiteOnBlack : UInt8 := 0x0F

/-- `vga_state`. -/
structure VgaState where
  buffer : Nat → UInt16
  x : UInt8
  y : UInt8
  color : UInt8
  cursorEnabled : Bool
  initialized : Bool
  cursor : Nat
  writes : List Nat

/-- `char` is a signed type. -/
def vgaEntry (c color : UInt8) : UInt16 :=
  c.toInt8.toInt16.toUInt16 ||| (color.toUInt16 <<< 8)

def VgaState.store (s : VgaState) (i : Nat) (v : UInt16) : VgaState :=
  { s with buffer := Function.update s.buffer i v, writes := i :: s.writes }

/-- The index of the cursor. -/
def VgaState.pos (s : VgaState) : Nat := s.y.toNat * vgaWidth + s.x.toNat

def vgaUpdateCursor (s : VgaState) : VgaState :=
  if s.cursorEnabled then { s with cursor := s.pos } else s

/-- "Move everything up one line" -/
def vgaMoveUp (s : VgaState) : VgaState :=
  (List.range (vgaHeight - 1)).foldl (fun s y => (List.range vgaWidth).foldl (fun s x =>
    s.store (y * vgaWidth + x) (s.buffer ((y + 1) * vgaWidth + x))) s) s

/-- A line is filled with spaces. -/
def vgaClearLine (s : VgaState) (y : Nat) : VgaState :=
  (List.range vgaWidth).foldl (fun s x => s.store (y * vgaWidth + x) (vgaEntry 32 s.color)) s

-- 2000 stores are not carried out by unfolding
attribute [irreducible] vgaMoveUp vgaClearLine

def vgaScroll (s : VgaState) : VgaState := vgaClearLine (vgaMoveUp s) (vgaHeight - 1)

def vgaClear (s : VgaState) : VgaState :=
  let s := (List.range vgaHeight).foldl vgaClearLine s
  vgaUpdateCursor { s with x := 0, y := 0 }

def vgaInit (s : VgaState) : VgaState :=
  if s.initialized then s
  else
    { vgaClear { s with x := 0, y := 0, color := vgaWhiteOnBlack, cursorEnabled := true } with
      initialized := true }

/-- The cursor goes back. -/
def vgaBack (s : VgaState) : VgaState :=
  if 0 < s.x then { s with x := s.x - 1 }
  else if 0 < s.y then { s with y := s.y - 1, x := UInt8.ofNat (vgaWidth - 1) }
  else s

/-- The `switch` of `vga_putchar`. -/
def vgaPlace (s : VgaState) (c : UInt8) : VgaState :=
  -- newline
  if c = 10 then { s with x := 0, y := s.y + 1 }
  -- carriage return
  else if c = 13 then { s with x := 0 }
  -- tab
  else if c = 9 then { s with x := (s.x + 8) &&& ~~~ 7 }
  -- backspace
  else if c = 8 then
    let s := vgaBack s
    s.store s.pos (vgaEntry 32 s.color)
  else { s.store s.pos (vgaEntry c s.color) with x := s.x + 1 }

def vgaWrap (s : VgaState) : VgaState :=
  if vgaWidth ≤ s.x.toNat then { s with x := 0, y := s.y + 1 } else s

def vgaScrollIfBelow (s : VgaState) : VgaState :=
  if vgaHeight ≤ s.y.toNat then { vgaScroll s with y := UInt8.ofNat (vgaHeight - 1) } else s

def vgaPutchar (s : VgaState) (c : UInt8) : VgaState :=
  if s.initialized then vgaUpdateCursor (vgaScrollIfBelow (vgaWrap (vgaPlace s c))) else s

def vgaWrite (s : VgaState) (data : List UInt8) : VgaState := data.foldl vgaPutchar s

def vgaSetColor (s : VgaState) (color : UInt8) : VgaState := { s with color := color }

def vgaSetCursor (s : VgaState) (x y : UInt8) : VgaState :=
  if vgaWidth ≤ x.toNat ∨ vgaHeight ≤ y.toNat then s
  else vgaUpdateCursor { s with x := x, y := y }

end MayaOs.Drivers
