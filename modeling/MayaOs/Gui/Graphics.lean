import Mathlib.Logic.Function.Basic
import MayaOs.Lib.Loops
import MayaOs.Lib.MachineInt

/-!
# Drawing (`gui/graphics.c`)

The framebuffer is a function of the index. `int` is `Int` with `int32` wherever the source
computes; an index is computed in `uint32_t`, where `width` makes the sum unsigned. Loops that may
not end have fuel.

Left out are `pitch` and `bpp`, which no function reads. `default_font` has no initializer in the
source, so that all its bytes are 0.
-/

namespace MayaOs.Gui

open MayaOs.Lib

/-- `graphics_state`. -/
structure Graphics where
  framebuffer : Nat → UInt32
  width : Nat
  height : Nat
  initialized : Bool

/-- `graphics_state` before `graphics_init`, over any contents of the video memory. -/
def Graphics.boot (framebuffer : Nat → UInt32) : Graphics where
  framebuffer := framebuffer
  width := 0
  height := 0
  initialized := false

/-- `framebuffer[i] = color`. -/
def Graphics.store (g : Graphics) (i : Nat) (color : UInt32) : Graphics :=
  { g with framebuffer := Function.update g.framebuffer i color }

def graphicsClear (g : Graphics) (color : UInt32) : Graphics :=
  if g.initialized = false then g
  else
    (List.range g.height).foldl
      (fun g i => (List.range g.width).foldl (fun g j => g.store (wrap32 (i * g.width + j)) color) g) g

/-- `graphics_clear` does nothing here: `initialized` is set after it. -/
def graphicsInit (g : Graphics) : Graphics :=
  if g.initialized then g
  else { graphicsClear { g with width := 320, height := 200 } 0 with initialized := true }

/-- On the screen, as every function that draws tests it. -/
def Graphics.onScreen (g : Graphics) (x y : Int) : Bool :=
  0 ≤ x ∧ x < int32 g.width ∧ 0 ≤ y ∧ y < int32 g.height

/-- `y * graphics_state.width + x`. -/
def Graphics.index (g : Graphics) (x y : Int) : Nat := wrap32 (y.toNat * g.width + x.toNat)

def graphicsPutPixel (g : Graphics) (x y : Int) (color : UInt32) : Graphics :=
  if g.initialized = false ∨ g.onScreen x y = false then g else g.store (g.index x y) color

/-! ## graphics_draw_line -/

/-- The variables of the loop. -/
structure LineState where
  x : Int
  y : Int
  err : Int
  deriving Repr, DecidableEq

/-- One turn, after the test for the end point. -/
def lineStep (dx dy sx sy : Int) (s : LineState) : LineState :=
  let e2 := s.err
  let s :=
    if int32 (-dx) < e2 then { s with err := int32 (s.err - dy), x := int32 (s.x + sx) } else s
  if e2 < dy then { s with err := int32 (s.err + dx), y := int32 (s.y + sy) } else s

/-- The positions of the calls of `graphics_put_pixel`. -/
def lineLoop (dx dy sx sy x2 y2 : Int) : Nat → LineState → Option (List (Int × Int))
  | 0, _ => none
  | fuel + 1, s =>
    if s.x = x2 ∧ s.y = y2 then some [(s.x, s.y)]
    else (lineLoop dx dy sx sy x2 y2 fuel (lineStep dx dy sx sy s)).map ((s.x, s.y) :: ·)

/-- `abs`. -/
def intAbs (x : Int) : Int := if x < 0 then int32 (-x) else x

def linePixels (fuel : Nat) (x1 y1 x2 y2 : Int) : Option (List (Int × Int)) :=
  let dx := intAbs (int32 (x2 - x1))
  let dy := intAbs (int32 (y2 - y1))
  let sx := if x1 < x2 then 1 else -1
  let sy := if y1 < y2 then 1 else -1
  let err := (if dy < dx then dx else int32 (-dy)).tdiv 2
  lineLoop dx dy sx sy x2 y2 fuel ⟨x1, y1, err⟩

def graphicsDrawLine (fuel : Nat) (g : Graphics) (x1 y1 x2 y2 : Int) (color : UInt32) :
    Option Graphics :=
  if g.initialized = false then some g
  else
    (linePixels fuel x1 y1 x2 y2).map fun pixels =>
      pixels.foldl (fun g p => graphicsPutPixel g p.1 p.2 color) g

/-! ## graphics_draw_rect -/

def graphicsDrawRect (fuel : Nat) (g : Graphics) (x y width height : Int) (color : UInt32) :
    Option Graphics :=
  if g.initialized = false then some g
  else do
    let right := int32 (int32 (x + width) - 1)
    let bottom := int32 (int32 (y + height) - 1)
    let g ← graphicsDrawLine fuel g x y right y color
    let g ← graphicsDrawLine fuel g x bottom right bottom color
    let g ← graphicsDrawLine fuel g x y x bottom color
    graphicsDrawLine fuel g right y right bottom color

/-! ## graphics_fill_rect -/

def graphicsFillRect (g : Graphics) (x y width height : Int) (color : UInt32) : Graphics :=
  if g.initialized = false then g
  else
    (intRange y (int32 (y + height))).foldl
      (fun g i =>
        (intRange x (int32 (x + width))).foldl (fun g j => graphicsPutPixel g j i color) g) g

/-! ## graphics_fill_rect_alpha -/

/-- The pixel that is stored over `dest`. -/
def blend (dest color : UInt32) (alpha : UInt8) : UInt32 :=
  let a := alpha.toUInt32
  let rb := ((dest &&& 0xFF00FF) * (255 - a) + (color &&& 0xFF00FF) * a) >>> 8
  let g := ((dest &&& 0x00FF00) * (255 - a) + (color &&& 0x00FF00) * a) >>> 8
  (rb &&& 0xFF00FF) ||| (g &&& 0x00FF00)

def graphicsFillRectAlpha (g : Graphics) (x y width height : Int) (color : UInt32)
    (alpha : UInt8) : Graphics :=
  if g.initialized = false then g
  else
    (intRange y (int32 (y + height))).foldl
      (fun g i =>
        (intRange x (int32 (x + width))).foldl
          (fun g j =>
            if g.onScreen j i = false then g
            else g.store (g.index j i) (blend (g.framebuffer (g.index j i)) color alpha))
          g)
      g

/-! ## graphics_draw_text -/

/-- `default_font`. -/
def defaultFont (_c : UInt8) (_row : Nat) : UInt8 := 0

def graphicsDrawChar (g : Graphics) (c : UInt8) (x y : Int) (color : UInt32) : Graphics :=
  if g.initialized = false then g
  else
    (List.range 16).foldl
      (fun g i =>
        let row := defaultFont c i
        (List.range 8).foldl
          (fun g j =>
            if row.toNat.testBit (7 - j) then
              graphicsPutPixel g (int32 (x + j)) (int32 (y + i)) color
            else g)
          g)
      g

/-- The loop of `graphics_draw_text`, up to the zero. -/
def drawTextLoop (x : Int) (color : UInt32) : List UInt8 → Graphics → Int → Int → Graphics
  | [], g, _, _ => g
  | c :: text, g, cursorX, cursorY =>
    if c = 0 then g
    else if c = 0x0A then drawTextLoop x color text g x (int32 (cursorY + 16))
    else if c = 0x0D then drawTextLoop x color text g x cursorY
    else
      drawTextLoop x color text (graphicsDrawChar g c cursorX cursorY color) (int32 (cursorX + 8))
        cursorY

def graphicsDrawText (g : Graphics) (text : List UInt8) (x y : Int) (color : UInt32) : Graphics :=
  if g.initialized = false then g else drawTextLoop x color text g x y

/-! ## graphics_blit -/

/-- The screen, and the indices of `src` that were read. -/
structure BlitState where
  graphics : Graphics
  reads : List Int

/-- One pixel of a row that is on the screen. -/
def blitPixel (src : Int → UInt32) (x y srcWidth i : Int) (s : BlitState) (j : Int) : BlitState :=
  let destX := int32 (x + j)
  if destX < 0 ∨ int32 s.graphics.width ≤ destX then s
  else
    let source := int32 (int32 (i * srcWidth) + j)
    { graphics := s.graphics.store (s.graphics.index destX (int32 (y + i))) (src source)
      reads := s.reads ++ [source] }

def blitRow (src : Int → UInt32) (x y width srcWidth : Int) (s : BlitState) (i : Int) : BlitState :=
  let destY := int32 (y + i)
  if destY < 0 ∨ int32 s.graphics.height ≤ destY then s
  else (intRange 0 width).foldl (blitPixel src x y srcWidth i) s

/-- `none` is a NULL `src`. -/
def graphicsBlit (g : Graphics) (src : Option (Int → UInt32)) (x y width height srcWidth : Int) :
    BlitState :=
  match src with
  | none => ⟨g, []⟩
  | some src =>
    if g.initialized = false then ⟨g, []⟩
    else (intRange 0 height).foldl (blitRow src x y width srcWidth) ⟨g, []⟩

end MayaOs.Gui
