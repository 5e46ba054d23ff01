import MayaOs.Apps.Shell
import MayaOs.Gui.Window

/-!
# The terminal (`gui/apps/terminal.c`)

A key gives the calls of `graphics_draw_text` that it ends in. `window_clear` is declared in
`window.h` only. Left out is the notification that `terminal_init` pushes.
-/

namespace MayaOs.Gui

open MayaOs.Lib
open MayaOs.Apps
open MayaOs.Kernel (null)

def termRows : Nat := 25
def termCols : Nat := 80
def charHeight : Int32 := 16
def currentCommandSize : Nat := 256

/-- A row of `term_lines`. -/
abbrev TermRow := { row : Bytes // row.length = termCols }

def TermRow.blank : TermRow := ⟨List.replicate termCols 0, List.length_replicate⟩

/-- `strncpy` into a row, the last byte of which is not written. -/
def TermRow.copy (row : TermRow) (text : Bytes) : TermRow :=
  ⟨strncpy row.1 text (termCols - 1), (length_strncpy (by rw [row.2]; decide) text).trans row.2⟩

/-- The static variables, the shell library and the window manager. -/
structure Terminal where
  gui : GuiState
  termWindow : WindowPtr
  currentCommand : Bytes
  cmdPos : Nat
  termLines : Nat → TermRow
  lineCount : Nat
  shell : Shell

/-- A call of `graphics_draw_text`. -/
structure DrawText where
  text : Bytes
  x : Int32
  y : Int32
  color : UInt32
  deriving Repr, DecidableEq

/-- The loop over `memcpy(term_lines[i], term_lines[i+1], TERM_COLS)`, `n` turns of it. -/
def scrollLines (lines : Nat → TermRow) (n : Nat) : Nat → TermRow :=
  (List.range n).foldl (fun lines i => Function.update lines i (lines (i + 1))) lines

def terminalWriteln (t : Terminal) (text : Bytes) : Terminal :=
  if t.lineCount < termRows then
    { t with
      termLines :=
        Function.update t.termLines t.lineCount ((t.termLines t.lineCount).copy text)
      lineCount := t.lineCount + 1 }
  else
    let lines := scrollLines t.termLines (termRows - 1)
    { t with termLines := Function.update lines (termRows - 1) ((lines (termRows - 1)).copy text) }

/-- The output function of the shell. -/
def terminalShellOutput (t : Terminal) (text : Bytes) : Terminal := terminalWriteln t text

/-! ## The keys -/

/-- The key `\n`. -/
def terminalEnter (files : Bytes → Option (List Bytes)) (t : Terminal) : Except Fault Terminal := do
  let command ← write t.currentCommand t.cmdPos [0]
  let t := terminalWriteln t (chars "> " ++ cString command)
  let (shell, texts) ← shellExecute files t.shell (some command)
  let t := texts.foldl terminalShellOutput { t with shell := shell }
  return { t with cmdPos := 0, currentCommand := List.replicate currentCommandSize 0 }

/-- The key `\b`. -/
def terminalBackspace (t : Terminal) : Except Fault Terminal :=
  if 0 < t.cmdPos then do
    let command ← write t.currentCommand (t.cmdPos - 1) [0]
    return { t with currentCommand := command, cmdPos := t.cmdPos - 1 }
  else .ok t

/-- The key `\t`. -/
def terminalTab (t : Terminal) : Except Fault Terminal := do
  let result ← shellAutocomplete (some t.currentCommand) (some (List.replicate 256 0))
  let text := cString (result.getD [])
  if 0 < text.length then
    let command ← write t.currentCommand 0 (text ++ [0])
    return { t with currentCommand := command, cmdPos := text.length }
  else return t

def terminalChar (t : Terminal) (key : UInt32) : Except Fault Terminal :=
  if t.cmdPos < currentCommandSize - 1 ∧ key < 128 then do
    let command ← write t.currentCommand t.cmdPos [key.toUInt8]
    return { t with currentCommand := command, cmdPos := t.cmdPos + 1 }
  else .ok t

/-- The `i`-th text of the window, counted from its title. -/
def Terminal.drawAt (t : Terminal) (text : Bytes) (i : Nat) : DrawText where
  text := text
  x := (t.gui.mem t.termWindow).x + 5
  y := (t.gui.mem t.termWindow).y + windowTitleHeight + Int32.ofNat i * charHeight + 5
  color := 0x00FF00

/-- The lines and the prompt. -/
def terminalRefresh (t : Terminal) : List DrawText :=
  (List.range t.lineCount).map (fun i => t.drawAt (cString (t.termLines i).1) i) ++
    [t.drawAt (chars "> " ++ cString t.currentCommand ++ chars "_") t.lineCount]

/-- The branches on `key`. -/
def terminalKey (files : Bytes → Option (List Bytes)) (t : Terminal) (key : UInt32) :
    Except Fault Terminal :=
  if key = 10 then terminalEnter files t
  else if key = 8 then terminalBackspace t
  else if key = 9 then terminalTab t
  else terminalChar t key

/-- `files` are the directories at the time of the call. -/
def terminalHandleInput (files : Bytes → Option (List Bytes)) (t : Terminal) (key : UInt32) :
    Except Fault (Terminal × List DrawText) :=
  if t.termWindow = null ∨ (t.gui.mem t.termWindow).visible = false then .ok (t, [])
  else do
    let t ← terminalKey files t key
    return (t, terminalRefresh t)

/-! ## The start -/

/-- `block` and `buffer` are what `kmalloc` returns to `window_create`. -/
def terminalInit (t : Terminal) (block buffer : Nat) : Terminal :=
  let r := windowCreate t.gui (some (chars "Terminal")) 100 100 640 480 block buffer
  let t := { t with gui := r.2, termWindow := r.1 }
  if t.termWindow = null then t
  else
    let t := { t with termLines := fun _ => TermRow.blank, lineCount := 0, shell := shellInit true }
    terminalWriteln (terminalWriteln t (chars "Maya OS Terminal v1.1"))
      (chars "Type 'help' for commands.")

/-- The variables before `terminal_init`, which no function has written. -/
def Terminal.boot (gui : GuiState) : Terminal where
  gui := gui
  termWindow := null
  currentCommand := List.replicate currentCommandSize 0
  cmdPos := 0
  termLines := fun _ => TermRow.blank
  lineCount := 0
  shell := shellInit false

end MayaOs.Gui
