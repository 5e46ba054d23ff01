import Mathlib.Data.List.GetD
import MayaOs.Gui.Notepad
import MayaOs.Lib.Lines
import MayaOs.Properties.WindowRecords

/-!
# The text of the notepad

The rows of `text_buffer` are the lines of the text that was typed. Behind a line and below the last
one there is nothing but zeros, so nothing that was deleted comes back.

* `rowText_of_holds` — a row that holds a line is read as that line
* `holds_newline`, `holds_backspace`, `holds_char` — the keys
* `notepad_text` — the text after any sequence of keys
-/

namespace MayaOs.Gui

open MayaOs.Lib
open MayaOs.Kernel (null)

/-! ## The text -/

def newline : UInt8 := 10

def linesOf (text : Bytes) : List Bytes := text.splitOn newline

/-- A key typed at the end of a text of at most 100 lines of at most 79 characters. -/
def typeKey (text : Bytes) (key : UInt32) : Bytes :=
  if key = 10 then if (linesOf text).length < notepadMaxLines then text ++ [newline] else text
  else if key = 8 then text.dropLast
  else if 32 ≤ key ∧ key ≤ 126 then
    if ((linesOf text).getLastD []).length < notepadMaxCols - 1 then text ++ [key.toUInt8] else text
  else text

/-- The rows up to the cursor are the lines of the text, and the cursor is at its end. -/
structure ShowsText (s : Notepad) (text : Bytes) : Prop where
  rows : (List.range (s.cursorRow + 1)).map s.rowText = linesOf text
  col : s.cursorCol = ((linesOf text).getLastD []).length
  below : ∀ r, s.cursorRow < r → r < notepadMaxLines → s.rowText r = []

/-! ## The invariant -/

/-- `text_buffer` holds the lines `above` and, where the cursor is, `last`. -/
structure HoldsLines (s : Notepad) (above : List Bytes) (last : Bytes) : Prop where
  cells : ∀ i j, i < notepadMaxLines → j < notepadMaxCols →
    s.textBuffer i j = ((above ++ [last]).getD i []).getD j 0
  row : s.cursorRow = above.length
  col : s.cursorCol = last.length
  room : above.length < notepadMaxLines
  fits : ∀ l ∈ above ++ [last], l.length < notepadMaxCols ∧ 0 ∉ l
  written : s.cursorRow ≤ s.maxWrittenRow
  writtenRoom : s.maxWrittenRow < notepadMaxLines

/-- A line in a row of zeros is read back. -/
theorem cString_line {l : Bytes} (hlen : l.length < notepadMaxCols) (hzero : 0 ∉ l)
    {row : Nat → UInt8} (hrow : ∀ j, j < notepadMaxCols → row j = l.getD j 0) :
    cString ((List.range notepadMaxCols).map row) = l := by
  have hcells : (List.range notepadMaxCols).map row =
      l ++ List.replicate (notepadMaxCols - l.length) 0 := by
    refine List.ext_getElem (by simp; omega) fun j hj _ => ?_
    have hlt : j < notepadMaxCols := by simpa using hj
    rw [List.getElem_map, List.getElem_range, hrow j hlt]
    by_cases hin : j < l.length
    · rw [List.getElem_append_left hin, List.getD_eq_getElem _ _ hin]
    · rw [List.getElem_append_right (by omega), List.getD_eq_default _ _ (by omega),
        List.getElem_replicate]
  obtain ⟨k, hk⟩ : ∃ k, notepadMaxCols - l.length = k + 1 := ⟨_, (Nat.succ_pred (by omega)).symm⟩
  rw [hcells, hk, List.replicate_succ, cString, List.takeWhile_append_of_pos,
    List.takeWhile_cons_of_neg (by simp), List.append_nil]
  intro c hc
  exact decide_eq_true fun he => hzero (he ▸ hc)

/-- **A row that holds a line is read as that line**, and a row below them as nothing. -/
theorem rowText_of_holds {s : Notepad} {above : List Bytes} {last : Bytes}
    (h : HoldsLines s above last) {i : Nat} (hi : i < notepadMaxLines) :
    s.rowText i = (above ++ [last]).getD i [] := by
  have hline : ((above ++ [last]).getD i []).length < notepadMaxCols ∧
      0 ∉ (above ++ [last]).getD i [] := by
    rw [List.getD_eq_getElem?_getD]
    cases hget : (above ++ [last])[i]? with
    | none => exact ⟨by decide, List.not_mem_nil⟩
    | some l => exact h.fits l (List.mem_of_getElem? hget)
  exact cString_line hline.1 hline.2 fun j hj => h.cells i j hi hj

/-! ## The keys -/

theorem getD_concat {α : Type} (above : List α) (last d : α) (i : Nat) :
    (above ++ [last]).getD i d = if i = above.length then last else above.getD i d := by
  by_cases hi : i < above.length
  · rw [if_neg (by omega), List.getD_append _ _ _ _ hi]
  · rw [List.getD_append_right _ _ _ _ (by omega), List.getD_eq_default above _ (by omega)]
    by_cases heq : i = above.length
    · rw [if_pos heq, heq, Nat.sub_self]
      rfl
    · rw [if_neg heq]
      exact List.getD_eq_default _ _ (by simp; omega)

section Keys

variable {s : Notepad} {above : List Bytes} {last : Bytes}

/-- What the row of the cursor holds. -/
theorem HoldsLines.last_cells (h : HoldsLines s above last) {j : Nat} (hj : j < notepadMaxCols) :
    s.textBuffer above.length j = last.getD j 0 := by
  rw [h.cells _ j h.room hj, getD_concat, if_pos rfl]

/-- The row of the cursor is written to. -/
theorem HoldsLines.write (h : HoldsLines s above last) {s' : Notepad} {last' : Bytes}
    (hrow : ∀ i, i ≠ above.length → s'.textBuffer i = s.textBuffer i)
    (hcells : ∀ j, j < notepadMaxCols → s'.textBuffer above.length j = last'.getD j 0)
    (hcursor : s'.cursorRow = s.cursorRow) (hcol : s'.cursorCol = last'.length)
    (hwritten : s'.maxWrittenRow = s.maxWrittenRow)
    (hfits : last'.length < notepadMaxCols ∧ 0 ∉ last') : HoldsLines s' above last' where
  cells := by
    intro i j hi hj
    by_cases heq : i = above.length
    · rw [heq, hcells j hj, getD_concat, if_pos rfl]
    · rw [hrow i heq, h.cells i j hi hj, getD_concat, getD_concat, if_neg heq, if_neg heq]
  row := by rw [hcursor]; exact h.row
  col := hcol
  room := h.room
  fits := by
    intro l hl
    rcases List.mem_append.mp hl with hin | hin
    · exact h.fits l (List.mem_append_left _ hin)
    · rw [List.mem_singleton.mp hin]
      exact hfits
  written := by rw [hcursor, hwritten]; exact h.written
  writtenRoom := by rw [hwritten]; exact h.writtenRoom

/-- **Newline** opens a line, for which there are zeros already. -/
theorem holds_newline (h : HoldsLines s above last) (hroom : above.length + 1 < notepadMaxLines) :
    HoldsLines (typeNewline s) (above ++ [last]) [] := by
  have hrow := h.row
  have hroom' : above.length + 1 < 100 := hroom
  unfold typeNewline
  rw [if_pos (by show s.cursorRow < 100 - 1; omega)]
  refine ⟨fun i j hi hj => ?_, ?_, rfl, by rw [List.length_append]; exact hroom, ?_, ?_, ?_⟩
  · show s.textBuffer i j = _
    rw [h.cells i j hi hj, getD_concat (above ++ [last])]
    by_cases heq : i = (above ++ [last]).length
    · rw [if_pos heq, heq, List.getD_eq_default _ _ (Nat.le_refl _)]
    · rw [if_neg heq]
  · simp [hrow]
  · intro l hl
    rcases List.mem_append.mp hl with hin | hin
    · exact h.fits l hin
    · rw [List.mem_singleton.mp hin]
      exact ⟨by decide, List.not_mem_nil⟩
  · show s.cursorRow + 1 ≤ _
    dsimp only
    split <;> omega
  · have hwritten := h.writtenRoom
    dsimp only
    split
    · show s.cursorRow + 1 < 100
      omega
    · exact hwritten

/-- **A printable character** is put at the end of the last line, with a terminator behind it. -/
theorem holds_char (h : HoldsLines s above last) {c : UInt8} (hc : c ≠ 0)
    (hroom : last.length < notepadMaxCols - 1) :
    HoldsLines (typeChar s c) above (last ++ [c]) := by
  have hrow := h.row
  have hcol := h.col
  unfold typeChar
  rw [if_pos (by rw [hcol]; exact hroom)]
  refine h.write (fun i hi => ?_) (fun j hj => ?_) rfl (by simp [hcol]) rfl ⟨?_, ?_⟩
  · simp [Notepad.write, hrow, hi]
  · have hcell := h.last_cells hj
    simp only [Notepad.write, hrow, hcol, Function.update_self]
    rw [getD_concat]
    by_cases hend : j = last.length + 1
    · rw [hend, Function.update_self, if_neg (by omega), List.getD_eq_default _ _ (by omega)]
    · rw [Function.update_of_ne hend]
      by_cases hat : j = last.length
      · rw [hat, Function.update_self, if_pos rfl]
      · rw [Function.update_of_ne hat, if_neg hat, hcell]
  · rw [List.length_append, List.length_singleton]
    omega
  · have hold := (h.fits last (by simp)).2
    simp [hold, Ne.symm hc]

/-- **Backspace in a line** takes the last character off. -/
theorem holds_backspace {c : UInt8} (h : HoldsLines s above (last ++ [c])) :
    HoldsLines (typeBackspace s) above last := by
  have hrow := h.row
  have hcol := h.col
  rw [List.length_append, List.length_singleton] at hcol
  unfold typeBackspace
  rw [if_pos (by omega)]
  obtain ⟨hlen, hzero⟩ := h.fits (last ++ [c]) (by simp)
  rw [List.length_append, List.length_singleton] at hlen
  refine h.write (fun i hi => ?_) (fun j hj => ?_) rfl (by simp [hcol]) rfl
    ⟨by omega, fun hin => hzero (List.mem_append_left _ hin)⟩
  · simp [Notepad.write, hrow, hi]
  · have hcell := h.last_cells hj
    rw [getD_concat] at hcell
    simp only [Notepad.write, hrow, hcol, Nat.add_sub_cancel, Function.update_self]
    by_cases hat : j = last.length
    · rw [hat, Function.update_self, List.getD_eq_default _ _ (Nat.le_refl _)]
    · rw [Function.update_of_ne hat, hcell, if_neg hat]

/-- **Backspace at the beginning of a line** goes to the end of the line above. -/
theorem holds_join {line : Bytes} (h : HoldsLines s (above ++ [line]) []) :
    HoldsLines (typeBackspace s) above line := by
  have hrow := h.row
  have hcol := h.col
  have hroom := h.room
  rw [List.length_append, List.length_singleton] at hrow hroom
  have hline : s.rowText (s.cursorRow - 1) = line := by
    rw [rowText_of_holds h (by omega), hrow, Nat.add_sub_cancel, getD_concat (above ++ [line]),
      if_neg (by simp), getD_concat, if_pos rfl]
  unfold typeBackspace
  rw [if_neg (by rw [hcol]; exact Nat.lt_irrefl 0), if_pos (by omega), hline]
  have hwritten := h.written
  refine ⟨fun i j hi hj => ?_, by simp [hrow], rfl, by omega,
    fun l hl => h.fits l (List.mem_append_left _ hl), ?_, h.writtenRoom⟩
  · show s.textBuffer i j = _
    rw [h.cells i j hi hj, getD_concat (above ++ [line])]
    by_cases heq : i = (above ++ [line]).length
    · rw [if_pos heq, heq, List.getD_eq_default _ _ (Nat.le_refl _)]
    · rw [if_neg heq]
  · show s.cursorRow - 1 ≤ s.maxWrittenRow
    omega

end Keys

/-! ## Runs -/

/-- The window is there to type in. -/
def Notepad.Open (s : Notepad) : Prop :=
  s.notepadWindow ≠ null ∧ (s.gui.mem s.notepadWindow).visible = true

/-- The open notepad holds the lines of the text. -/
def HoldsText (s : Notepad) (text : Bytes) : Prop :=
  s.Open ∧ ∃ above last, linesOf text = above ++ [last] ∧ HoldsLines s above last

theorem typeNewline_holds {s : Notepad} {text : Bytes} (h : HoldsText s text) :
    HoldsText (typeNewline s) (typeKey text 10) := by
  obtain ⟨hopen, above, last, hlines, hholds⟩ := h
  have hlen : (linesOf text).length = above.length + 1 := by rw [hlines]; simp
  have htype : typeKey text 10 =
      if (linesOf text).length < notepadMaxLines then text ++ [newline] else text := rfl
  by_cases hroom : above.length + 1 < notepadMaxLines
  · rw [htype, if_pos (by rw [hlen]; exact hroom)]
    refine ⟨?_, above ++ [last], [], ?_, holds_newline hholds hroom⟩
    · unfold typeNewline
      split <;> exact hopen
    · rw [linesOf, splitOn_concat_self, ← hlines]
      rfl
  · have hfull : typeNewline s = s := if_neg (by
      have hmax : notepadMaxLines = 100 := rfl
      rw [hholds.row]
      omega)
    rw [htype, if_neg (by rw [hlen]; exact hroom), hfull]
    exact ⟨hopen, above, last, hlines, hholds⟩

theorem typeBackspace_holds {s : Notepad} {text : Bytes} (h : HoldsText s text) :
    HoldsText (typeBackspace s) text.dropLast := by
  obtain ⟨hopen, above, last, hlines, hholds⟩ := h
  have hopen' : (typeBackspace s).Open := by
    unfold typeBackspace
    split
    · exact hopen
    · split <;> exact hopen
  rcases List.eq_nil_or_concat last with rfl | ⟨l, c, rfl⟩
  · rcases List.eq_nil_or_concat above with rfl | ⟨above, line, rfl⟩
    · -- nothing to take off
      have hempty : typeBackspace s = s := by
        unfold typeBackspace
        rw [if_neg (by simp [hholds.col]), if_neg (by simp [hholds.row])]
      have htext : text = [] := splitOn_eq_singleton_nil hlines
      rw [hempty, htext]
      exact ⟨hopen, [], [], List.splitOn_nil newline, hholds⟩
    · rw [List.concat_eq_append] at hlines hholds
      exact ⟨hopen', above, line, splitOn_dropLast_nil hlines (by simp), holds_join hholds⟩
  · rw [List.concat_eq_append] at hlines hholds
    exact ⟨hopen', above, l, splitOn_dropLast_concat hlines, holds_backspace hholds⟩

theorem typeChar_holds {s : Notepad} {text : Bytes} (h : HoldsText s text) {c : UInt8} (hc : c ≠ 0)
    (hbreak : c ≠ newline) :
    HoldsText (typeChar s c)
      (if ((linesOf text).getLastD []).length < notepadMaxCols - 1 then text ++ [c] else text) := by
  obtain ⟨hopen, above, last, hlines, hholds⟩ := h
  have hlast : (linesOf text).getLastD [] = last := by rw [hlines]; simp
  rw [hlast]
  by_cases hroom : last.length < notepadMaxCols - 1
  · rw [if_pos hroom]
    refine ⟨?_, above, last ++ [c], splitOn_concat_of_ne hbreak hlines,
      holds_char hholds hc hroom⟩
    unfold typeChar
    split <;> exact hopen
  · have hfull : typeChar s c = s := if_neg (by rw [hholds.col]; exact hroom)
    rw [if_neg hroom, hfull]
    exact ⟨hopen, above, last, hlines, hholds⟩

/-- The code of a printable character is no terminator and no line break. -/
theorem printable_byte {key : UInt32} (h : 32 ≤ key ∧ key ≤ 126) :
    key.toUInt8 ≠ 0 ∧ key.toUInt8 ≠ newline := by
  have hlow : 32 ≤ key.toNat := h.1
  have hhigh : key.toNat ≤ 126 := h.2
  have hbyte : key.toUInt8.toNat = key.toNat := by
    rw [UInt32.toNat_toUInt8]
    omega
  constructor
  · intro he
    rw [he] at hbyte
    have hzero : (0 : UInt8).toNat = 0 := rfl
    omega
  · intro he
    rw [he] at hbyte
    have hten : newline.toNat = 10 := rfl
    omega

/-- **One key.** -/
theorem handleInput_holds {s : Notepad} {text : Bytes} (h : HoldsText s text) (key : UInt32) :
    HoldsText (notepadHandleInput s key) (typeKey text key) := by
  have hopen := h.1
  unfold notepadHandleInput
  rw [if_neg (by simp [hopen.1, hopen.2])]
  by_cases hnewline : key = 10
  · rw [if_pos hnewline, hnewline]
    exact typeNewline_holds h
  · rw [if_neg hnewline, typeKey, if_neg hnewline]
    by_cases hback : key = 8
    · rw [if_pos hback, if_pos hback]
      exact typeBackspace_holds h
    · rw [if_neg hback, if_neg hback]
      by_cases hchar : 32 ≤ key ∧ key ≤ 126
      · rw [if_pos hchar, if_pos hchar]
        obtain ⟨hzero, hbreak⟩ := printable_byte hchar
        exact typeChar_holds h hzero hbreak
      · rw [if_neg hchar, if_neg hchar]
        exact h

theorem init_holds {s : Notepad} {block buffer : Nat}
    (hopen : (notepadInit s block buffer).notepadWindow ≠ null) :
    HoldsText (notepadInit s block buffer) [] := by
  have hwindow : (windowCreate s.gui (some notepadTitle) 150 100 500 400 block buffer).1 ≠ null := by
    intro hnull
    unfold notepadInit at hopen
    dsimp only at hopen
    rw [if_pos hnull] at hopen
    exact hopen hnull
  obtain ⟨hpointer, -, -, name, i, j, hrecord⟩ := windowCreate_record hwindow
  unfold notepadInit
  dsimp only
  rw [if_neg hwindow]
  refine ⟨⟨hwindow, ?_⟩, [], [], List.splitOn_nil newline, ?_⟩
  · dsimp only
    rw [hpointer, hrecord]
    rfl
  · refine ⟨fun i j hi hj => ?_, rfl, rfl, by decide, by decide, Nat.le_refl _,
      (by decide : 0 < notepadMaxLines)⟩
    dsimp only
    rw [if_pos ⟨hi, hj⟩, List.nil_append]
    cases i <;> rfl

theorem holds_run {keys : List UInt32} : ∀ {s : Notepad} {text : Bytes}, HoldsText s text →
    HoldsText (keys.foldl notepadHandleInput s) (keys.foldl typeKey text) := by
  induction keys with
  | nil => intro s text h; exact h
  | cons key keys ih => intro s text h; exact ih (handleInput_holds h key)

theorem HoldsText.shows {s : Notepad} {text : Bytes} (h : HoldsText s text) : ShowsText s text := by
  obtain ⟨-, above, last, hlines, hholds⟩ := h
  have hrow := hholds.row
  have hroom := hholds.room
  refine ⟨?_, ?_, fun r hr hlt => ?_⟩
  · rw [hlines]
    refine List.ext_getElem (by simp [hrow]) fun i hi hi' => ?_
    rw [List.length_map, List.length_range] at hi
    rw [List.getElem_map, List.getElem_range, rowText_of_holds hholds (by omega),
      List.getD_eq_getElem _ _ hi']
  · rw [hlines, hholds.col]
    simp
  · rw [rowText_of_holds hholds hlt]
    exact List.getD_eq_default _ _ (by simp; omega)

/--
**The rows up to the cursor are the lines of the text that was typed, and nothing is below them.**

Any sequence of keys, after `notepad_init` has got its window; the buffer holds anything before.
-/
theorem notepad_text (s : Notepad) (block buffer : Nat)
    (hopen : (notepadInit s block buffer).notepadWindow ≠ null) (keys : List UInt32) :
    ShowsText (keys.foldl notepadHandleInput (notepadInit s block buffer))
      (keys.foldl typeKey []) :=
  (holds_run (init_holds hopen)).shows

/-- A notepad before its window is there, with a window manager. -/
def closedNotepad : Notepad where
  gui := windowManagerInit (GuiState.boot fun _ => newWindow [] 0 0 0 0 0 0)
  notepadWindow := null
  textBuffer := fun _ _ => 120
  cursorRow := 7
  cursorCol := 7
  maxWrittenRow := 7

/-- The keys a, b, newline, c, backspace, backspace, d. -/
theorem notepad_text_joined :
    ShowsText ([97, 98, 10, 99, 8, 8, 100].foldl notepadHandleInput (notepadInit closedNotepad 1 2))
      [97, 98, 100] :=
  notepad_text closedNotepad 1 2 (by decide) [97, 98, 10, 99, 8, 8, 100]

end MayaOs.Gui
