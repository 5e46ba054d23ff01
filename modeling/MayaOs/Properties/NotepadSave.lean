import MayaOs.Properties.NotepadText

/-!
# Saving the text of the notepad

`notepad_save` writes every row and its line break at offset 0, so each write covers the one before
it: the file is never longer than the longest row.

* `length_savedFile_le` — how long the file is at most
* `notepad_save_iff` — the file is the text iff there is none
-/

namespace MayaOs.Gui

open MayaOs.Lib
open MayaOs.Kernel (null)

/-! ## Files -/

/-- A file after a write at an offset; a gap is filled with zeros. -/
def writeAt (file : Bytes) (w : VfsWrite) : Bytes :=
  (file ++ List.replicate (w.offset - file.length) 0).take w.offset ++ w.data ++
    file.drop (w.offset + w.data.length)

/-- The empty file after the writes of `notepad_save`. -/
def savedFile (s : Notepad) : Bytes := (notepadSave s).foldl writeAt []

/-- The lines, each followed by a newline. -/
def documentBytes (text : Bytes) : Bytes := (linesOf text).flatMap (· ++ [newline])

theorem writeAt_zero (file data : Bytes) :
    writeAt file ⟨0, data⟩ = data ++ file.drop data.length := by
  simp [writeAt]

/-- Writes of at most `n` bytes at offset 0 make a file of at most `n` bytes. -/
theorem length_foldl_writeAt_le {n : Nat} : ∀ {ws : List VfsWrite} {file : Bytes},
    file.length ≤ n → (∀ w ∈ ws, w.offset = 0 ∧ w.data.length ≤ n) →
      (ws.foldl writeAt file).length ≤ n := by
  intro ws
  induction ws with
  | nil => intro file hfile _; exact hfile
  | cons w ws ih =>
    intro file hfile hws
    obtain ⟨hw, hrest⟩ := List.forall_mem_cons.mp hws
    obtain ⟨offset, data⟩ := w
    obtain ⟨rfl, hdata⟩ := hw
    refine ih ?_ hrest
    rw [writeAt_zero, List.length_append, List.length_drop]
    dsimp only at hdata
    omega

/-! ## The saved file -/

section Save

variable {s : Notepad} {text : Bytes}

/-- Every row of the buffer is a line of the text or empty. -/
theorem rowText_cases (h : HoldsText s text) {i : Nat} (hi : i ≤ s.maxWrittenRow) :
    s.rowText i ∈ linesOf text ∨ s.rowText i = [] := by
  obtain ⟨-, above, last, hlines, hholds⟩ := h
  have hroom := hholds.writtenRoom
  rw [rowText_of_holds hholds (by omega), hlines, List.getD_eq_getElem?_getD]
  cases hget : (above ++ [last])[i]? with
  | none => exact Or.inr rfl
  | some l => exact Or.inl (List.mem_of_getElem? hget)

/-- **The file is not longer than the longest line**, or than a line break. -/
theorem length_savedFile_le (h : HoldsText s text) {n : Nat} (hn : 1 ≤ n)
    (hlines : ∀ l ∈ linesOf text, l.length ≤ n) : (savedFile s).length ≤ n := by
  refine length_foldl_writeAt_le (Nat.zero_le n) fun w hw => ?_
  obtain ⟨i, hi, hw⟩ := List.mem_flatMap.mp hw
  rw [List.mem_range] at hi
  simp only [List.mem_cons, List.not_mem_nil, or_false] at hw
  rcases hw with rfl | rfl
  · refine ⟨rfl, ?_⟩
    rcases rowText_cases h (Nat.lt_succ_iff.mp hi) with hline | hempty
    · exact hlines _ hline
    · dsimp only
      rw [hempty]
      exact Nat.zero_le n
  · exact ⟨rfl, hn⟩

/-- The document has room for each of its lines and their line breaks. -/
theorem length_documentBytes (text : Bytes) :
    (documentBytes text).length = ((linesOf text).map fun l => l.length + 1).sum := by
  unfold documentBytes
  rw [List.length_flatMap]
  exact congrArg List.sum (List.map_congr_left fun l _ => by simp)

/-- A document is longer than each of its lines. -/
theorem line_lt_document {l : Bytes} (hl : l ∈ linesOf text) :
    l.length + 1 ≤ (documentBytes text).length := by
  obtain ⟨above, below, hlines⟩ := List.append_of_mem hl
  rw [length_documentBytes, hlines, List.map_append, List.map_cons, List.sum_append, List.sum_cons]
  omega

/-- A document with any text in it has two bytes at least. -/
theorem two_le_document (htext : text ≠ []) : 2 ≤ (documentBytes text).length := by
  obtain ⟨above, last, hlines⟩ := exists_splitOn newline text
  have hlines' : linesOf text = above ++ [last] := hlines
  rw [length_documentBytes, hlines', List.map_append, List.sum_append]
  rcases List.eq_nil_or_concat above with rfl | ⟨init, l, rfl⟩
  · have hlast : last ≠ [] := fun he => htext (splitOn_eq_singleton_nil (by rw [hlines, he]; rfl))
    have hpos := List.length_pos_iff.mpr hlast
    simp
    omega
  · simp
    omega

/-- Nothing but empty rows: each pair of writes leaves one line break. -/
theorem savedFile_empty (h : HoldsText s []) : savedFile s = [newline] := by
  have hrows : ∀ i, i ≤ s.maxWrittenRow → s.rowText i = [] := by
    intro i hi
    rcases rowText_cases h hi with hline | hempty
    · rw [linesOf, List.splitOn_nil] at hline
      exact List.mem_singleton.mp hline
    · exact hempty
  have hpair : ∀ file : Bytes, file.length ≤ 1 →
      writeAt (writeAt file ⟨0, []⟩) ⟨0, [10]⟩ = [newline] := by
    intro file hfile
    have hdrop : file.drop 1 = [] := List.drop_of_length_le hfile
    rw [writeAt_zero, writeAt_zero]
    show [newline] ++ file.drop 1 = _
    rw [hdrop]
    rfl
  have hall : ∀ n, n ≤ s.maxWrittenRow →
      ((List.range (n + 1)).flatMap fun i => [⟨0, s.rowText i⟩, ⟨0, [10]⟩]).foldl writeAt [] =
        [newline] := by
    intro n
    induction n with
    | zero =>
      intro hn
      show writeAt (writeAt [] ⟨0, s.rowText 0⟩) ⟨0, [10]⟩ = _
      rw [hrows 0 hn]
      exact hpair [] (Nat.zero_le 1)
    | succ n ih =>
      intro hn
      rw [List.range_succ, List.flatMap_append, List.foldl_append, ih (by omega)]
      simp only [List.flatMap_cons, List.flatMap_nil, List.append_nil, List.foldl_cons,
        List.foldl_nil, hrows (n + 1) hn]
      exact hpair [newline] (Nat.le_refl 1)
  exact hall s.maxWrittenRow (Nat.le_refl _)

theorem savedFile_iff (h : HoldsText s text) :
    savedFile s = documentBytes text ↔ text = [] := by
  constructor
  · intro hsaved
    by_contra htext
    have htwo := two_le_document htext
    have hlen := length_savedFile_le h (n := (documentBytes text).length - 1) (by omega)
      fun l hl => by
        have := line_lt_document hl
        omega
    rw [hsaved] at hlen
    omega
  · rintro rfl
    rw [savedFile_empty h, documentBytes, linesOf, List.splitOn_nil]
    rfl

end Save

/--
**The saved file is the text of the notepad iff nothing is in it.**

The text is what any sequence of keys gives.
-/
theorem notepad_save_iff (s : Notepad) (block buffer : Nat)
    (hopen : (notepadInit s block buffer).notepadWindow ≠ null) (keys : List UInt32) :
    savedFile (keys.foldl notepadHandleInput (notepadInit s block buffer)) =
        documentBytes (keys.foldl typeKey []) ↔
      keys.foldl typeKey [] = [] :=
  savedFile_iff (holds_run (init_holds hopen))

/-- A line that was opened and taken off again. -/
theorem notepad_save_nothing :
    savedFile ([10, 8].foldl notepadHandleInput (notepadInit closedNotepad 1 2)) =
      documentBytes ([10, 8].foldl typeKey []) :=
  (notepad_save_iff closedNotepad 1 2 (by decide) [10, 8]).mpr (by decide)

/-- One letter: its line break is written over it. -/
theorem notepad_save_letter :
    savedFile ([97].foldl notepadHandleInput (notepadInit closedNotepad 1 2)) ≠
      documentBytes ([97].foldl typeKey []) := by
  have hopen : (notepadInit closedNotepad 1 2).notepadWindow ≠ null := by decide
  have htext : [97].foldl typeKey [] ≠ [] := by decide
  exact fun hsaved => htext ((savedFile_iff (holds_run (init_holds hopen))).mp hsaved)

end MayaOs.Gui
