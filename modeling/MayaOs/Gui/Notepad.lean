import MayaOs.Gui.Window
import MayaOs.Lib.Bytes

/-!
# The notepad (`gui/apps/notepad.c`)

`text_buffer` is a function of row and column. Left out is what `notepad_draw_content` draws.
-/

namespace MayaOs.Gui

open MayaOs.Lib
open MayaOs.Kernel (null)

def notepadMaxLines : Nat := 100
def notepadMaxCols : Nat := 80

/-- The static variables, and the window manager. -/
structure Notepad where
  gui : GuiState
  notepadWindow : WindowPtr
  textBuffer : Nat → Nat → UInt8
  cursorRow : Nat
  cursorCol : Nat
  maxWrittenRow : Nat

/-- `text_buffer[row]` as a string. -/
def Notepad.rowText (s : Notepad) (row : Nat) : Bytes :=
  cString ((List.range notepadMaxCols).map (s.textBuffer row))

/-- `text_buffer[row][col] = c`. -/
def Notepad.write (s : Notepad) (row col : Nat) (c : UInt8) : Notepad :=
  { s with
    textBuffer := Function.update s.textBuffer row (Function.update (s.textBuffer row) col c) }

/-- The key `\n`. -/
def typeNewline (s : Notepad) : Notepad :=
  if s.cursorRow < notepadMaxLines - 1 then
    { s with
      cursorRow := s.cursorRow + 1
      cursorCol := 0
      maxWrittenRow :=
        if s.maxWrittenRow < s.cursorRow + 1 then s.cursorRow + 1 else s.maxWrittenRow }
  else s

/-- The key `\b`. -/
def typeBackspace (s : Notepad) : Notepad :=
  if 0 < s.cursorCol then
    { s.write s.cursorRow (s.cursorCol - 1) 0 with cursorCol := s.cursorCol - 1 }
  else if 0 < s.cursorRow then
    { s with cursorRow := s.cursorRow - 1, cursorCol := (s.rowText (s.cursorRow - 1)).length }
  else s

/-- A printable character. -/
def typeChar (s : Notepad) (c : UInt8) : Notepad :=
  if s.cursorCol < notepadMaxCols - 1 then
    { (s.write s.cursorRow s.cursorCol c).write s.cursorRow (s.cursorCol + 1) 0 with
      cursorCol := s.cursorCol + 1 }
  else s

def notepadHandleInput (s : Notepad) (key : UInt32) : Notepad :=
  if s.notepadWindow = null ∨ (s.gui.mem s.notepadWindow).visible = false then s
  else if key = 10 then typeNewline s
  else if key = 8 then typeBackspace s
  else if 32 ≤ key ∧ key ≤ 126 then typeChar s key.toUInt8
  else s

/-- "Untitled - Notepad". -/
def notepadTitle : List UInt8 :=
  [85, 110, 116, 105, 116, 108, 101, 100, 32, 45, 32, 78, 111, 116, 101, 112, 97, 100]

/-- `block` and `buffer` are what `kmalloc` returns to `window_create`. -/
def notepadInit (s : Notepad) (block buffer : Nat) : Notepad :=
  let r := windowCreate s.gui (some notepadTitle) 150 100 500 400 block buffer
  let s := { s with gui := r.2, notepadWindow := r.1 }
  if s.notepadWindow = null then s
  else
    { s with
      textBuffer := fun i j =>
        if i < notepadMaxLines ∧ j < notepadMaxCols then 0 else s.textBuffer i j
      cursorRow := 0
      cursorCol := 0
      maxWrittenRow := 0 }

/-! ## notepad_save -/

/-- A call of `vfs_write`. -/
structure VfsWrite where
  offset : Nat
  data : Bytes
  deriving Repr, DecidableEq

/-- The calls of `vfs_write`, when the file could be opened. -/
def notepadSave (s : Notepad) : List VfsWrite :=
  (List.range (s.maxWrittenRow + 1)).flatMap fun i => [⟨0, s.rowText i⟩, ⟨0, [10]⟩]

end MayaOs.Gui
