import Mathlib.Data.List.DropRight
import Mathlib.Data.List.Find
import MayaOs.Gui.Terminal
import MayaOs.Lib.Outputs
import MayaOs.Properties.ShellHistory
import MayaOs.Properties.WindowRecords

/-!
# What the terminal shows

`term_lines` are the last 25 texts that were written, and `current_command` is what was typed since
the last command.

* `holdsRows_writeln` — a text is put below the others, which scroll
* `holdsCommand_concat`, `holdsCommand_dropLast`, `holdsCommand_replace` — the keys of a command
* `terminalHandleInput_shows` — one key
* `terminal_session` — what is drawn in any run of keys
-/

namespace MayaOs.Gui

open MayaOs.Lib
open MayaOs.Apps
open MayaOs.Kernel (null)

/-! ## The session -/

/-- `written` are all texts, `commands` the most recent first. -/
structure Session where
  written : List Bytes
  typed : Bytes
  commands : List Bytes

/-- What a row has room for. -/
def rowOf (text : Bytes) : Bytes := (cString text).take (termCols - 1)

def rowsOf (written : List Bytes) : List Bytes := (written.map rowOf).rtake termRows

/-- A key and the directories at that time. -/
structure TerminalKey where
  files : Bytes → Option (List Bytes)
  key : UInt32

def Session.type (s : Session) (k : TerminalKey) : Session :=
  if k.key = 10 then
    if s.typed = [] then { s with written := s.written ++ [chars "> "] }
    else
      { typed := []
        written := s.written ++ (chars "> " ++ s.typed) :: dispatch k.files (tokenize s.typed)
        commands := s.typed :: s.commands }
  else if k.key = 8 then { s with typed := s.typed.dropLast }
  else if k.key = 9 then
    { s with typed := (commandNames.find? fun name => s.typed <+: name).getD s.typed }
  else if s.typed.length < currentCommandSize - 1 ∧ k.key < 128 then
    { s with typed := s.typed ++ [k.key.toUInt8] }
  else s

/-- The rows from the top of a window at (100, 100), and the command below them. -/
def Session.screen (s : Session) : List DrawText :=
  (rowsOf s.written ++ [chars "> " ++ s.typed ++ chars "_"]).mapIdx fun i text =>
    ⟨text, 105, 125 + 16 * Int32.ofNat i, 0x00FF00⟩

/-! ## The rows -/

/-- `n` of the rows are the last texts. -/
structure HoldsRows (lines : Nat → TermRow) (n : Nat) (written : List Bytes) : Prop where
  rows : (List.range n).map (fun i => cString (lines i).1) = rowsOf written
  terminated : ∀ i, (lines i).1[termCols - 1]? = some 0

theorem HoldsRows.count {lines : Nat → TermRow} {n : Nat} {written : List Bytes}
    (h : HoldsRows lines n written) : n = min written.length termRows := by
  have hlen := congrArg List.length h.rows
  rw [List.length_map, List.length_range, rowsOf, List.rtake, List.length_drop,
    List.length_map] at hlen
  omega

theorem scrollLines_apply (lines : Nat → TermRow) (n i : Nat) :
    scrollLines lines n i = if i < n then lines (i + 1) else lines i := by
  induction n generalizing i with
  | zero => rfl
  | succ n ih =>
    have hlast : scrollLines lines (n + 1) =
        Function.update (scrollLines lines n) n (scrollLines lines n (n + 1)) := by
      unfold scrollLines
      rw [List.range_succ, List.foldl_append]
      rfl
    rw [hlast, Function.update_apply, ih, ih, if_neg (by omega : ¬n + 1 < n)]
    by_cases hi : i = n
    · rw [if_pos hi, if_pos (by omega), hi]
    · rw [if_neg hi]
      by_cases hlt : i < n
      · rw [if_pos hlt, if_pos (by omega)]
      · rw [if_neg hlt, if_neg (by omega)]

theorem cString_rowCopy {row : TermRow} (h : row.1[termCols - 1]? = some 0) (text : Bytes) :
    cString (row.copy text).1 = rowOf text :=
  cString_strncpy h text

theorem rowCopy_terminated {row : TermRow} (h : row.1[termCols - 1]? = some 0) (text : Bytes) :
    (row.copy text).1[termCols - 1]? = some 0 :=
  (getElem?_strncpy _ _ (Nat.le_refl _)).trans h

/-- The last of a longer list are the last but the first of them. -/
theorem rtake_concat {α : Type} (l : List α) (x : α) (n : Nat) :
    (l ++ [x]).rtake (n + 1) =
      (if l.length < n + 1 then l.rtake (n + 1) else (l.rtake (n + 1)).tail) ++ [x] := by
  rw [List.rtake_concat_succ]
  congr 1
  unfold List.rtake
  split
  · rw [show l.length - (n + 1) = 0 from by omega, show l.length - n = 0 from by omega]
  · rw [List.tail_drop, show l.length - (n + 1) + 1 = l.length - n from by omega]

/-- **A text is put below the others, which scroll when there are 25.** -/
theorem holdsRows_writeln {t : Terminal} {written : List Bytes}
    (h : HoldsRows t.termLines t.lineCount written) (text : Bytes) :
    ∃ lines n, terminalWriteln t text = { t with termLines := lines, lineCount := n } ∧
      HoldsRows lines n (written ++ [text]) := by
  have hcount := h.count
  have hrows : rowsOf (written ++ [text]) =
      (if written.length < termRows then rowsOf written else (rowsOf written).tail) ++
        [rowOf text] := by
    have hconcat := rtake_concat (written.map rowOf) (rowOf text) (termRows - 1)
    rw [List.length_map] at hconcat
    unfold rowsOf
    rw [List.map_append]
    exact hconcat
  unfold terminalWriteln
  by_cases hroom : t.lineCount < termRows
  · rw [if_pos hroom]
    refine ⟨_, _, rfl, ?_, fun i => ?_⟩
    · rw [hrows, if_pos (by omega), ← h.rows, List.range_succ, List.map_append]
      refine congr (congrArg _ (List.map_congr_left fun i hi => ?_)) ?_
      · rw [Function.update_of_ne (Nat.ne_of_lt (List.mem_range.mp hi))]
      · rw [List.map_singleton, Function.update_self, cString_rowCopy (h.terminated _)]
    · rw [Function.update_apply]
      split
      · exact rowCopy_terminated (h.terminated _) text
      · exact h.terminated i
  · have hfull : t.lineCount = termRows - 1 + 1 := by
      have hpos : 0 < termRows := by decide
      omega
    have hscroll : ∀ i, (scrollLines t.termLines (termRows - 1) i).1[termCols - 1]? = some 0 := by
      intro i
      rw [scrollLines_apply]
      split
      · exact h.terminated _
      · exact h.terminated _
    rw [if_neg hroom]
    refine ⟨_, t.lineCount, rfl, ?_, fun i => ?_⟩
    · have htail : ((List.range t.lineCount).map fun i => cString (t.termLines i).1).tail =
          (List.range (termRows - 1)).map fun i => cString (t.termLines (i + 1)).1 := by
        rw [hfull, List.range_succ_eq_map, List.map_cons, List.tail_cons, List.map_map]
        rfl
      rw [hrows, if_neg (by omega), ← h.rows, htail, hfull, List.range_succ, List.map_append]
      refine congr (congrArg _ (List.map_congr_left fun i hi => ?_)) ?_
      · have hlt := List.mem_range.mp hi
        rw [Function.update_of_ne (Nat.ne_of_lt hlt), scrollLines_apply, if_pos hlt]
      · rw [List.map_singleton, Function.update_self, cString_rowCopy (hscroll _)]
    · rw [Function.update_apply]
      split
      · exact rowCopy_terminated (hscroll _) text
      · exact hscroll i

/-- The output of a command, line by line. -/
theorem holdsRows_output (texts : List Bytes) : ∀ {t : Terminal} {written : List Bytes},
    HoldsRows t.termLines t.lineCount written →
    ∃ lines n, texts.foldl terminalShellOutput t = { t with termLines := lines, lineCount := n } ∧
      HoldsRows lines n (written ++ texts) := by
  induction texts with
  | nil =>
    intro t written h
    exact ⟨t.termLines, t.lineCount, rfl, by rw [List.append_nil]; exact h⟩
  | cons text texts ih =>
    intro t written h
    obtain ⟨lines, n, hwrite, hrows⟩ := holdsRows_writeln h text
    obtain ⟨lines', n', hrest, hrows'⟩ :=
      ih (t := { t with termLines := lines, lineCount := n }) hrows
    refine ⟨lines', n', ?_, ?_⟩
    · rw [List.foldl_cons, terminalShellOutput, hwrite, hrest]
    · rw [List.append_assoc] at hrows'
      exact hrows'

/-! ## The command -/

/-- `current_command` is what was typed, and zeros behind it. -/
structure HoldsCommand (command : Bytes) (cmdPos : Nat) (typed : Bytes) : Prop where
  buffer : command = typed ++ List.replicate (currentCommandSize - typed.length) 0
  pos : cmdPos = typed.length
  room : typed.length < currentCommandSize
  chars : ∀ c ∈ typed, c ≠ 0

theorem holdsCommand_nil : HoldsCommand (List.replicate currentCommandSize 0) 0 [] where
  buffer := rfl
  pos := rfl
  room := by decide
  chars := fun _ h => nomatch h

/-- Zeros behind a text end it. -/
theorem cString_zeros {text : Bytes} (h : ∀ c ∈ text, c ≠ 0) (n : Nat) :
    cString (text ++ List.replicate n 0) = text := by
  unfold cString
  rw [List.takeWhile_append_of_pos fun c hc => decide_eq_true (h c hc)]
  cases n with
  | zero => exact List.append_nil text
  | succ n => exact List.append_nil text

section Command

variable {command typed : Bytes} {cmdPos : Nat}

theorem HoldsCommand.text (h : HoldsCommand command cmdPos typed) : cString command = typed := by
  rw [h.buffer]
  exact cString_zeros h.chars _

/-- The terminator is there already. -/
theorem holdsCommand_end (h : HoldsCommand command cmdPos typed) :
    write command cmdPos [0] = .ok command := by
  have hroom := h.room
  obtain ⟨k, hk⟩ : ∃ k, currentCommandSize - typed.length = k + 1 :=
    ⟨_, (Nat.succ_pred (by omega)).symm⟩
  rw [h.buffer, h.pos, hk, write_append rfl (by simp), List.append_assoc]
  rfl

theorem holdsCommand_concat (h : HoldsCommand command cmdPos typed)
    (hroom : typed.length < currentCommandSize - 1) {c : UInt8} (hc : c ≠ 0) :
    ∃ command', write command cmdPos [c] = .ok command' ∧
      HoldsCommand command' (cmdPos + 1) (typed ++ [c]) := by
  obtain ⟨k, hk⟩ : ∃ k, currentCommandSize - typed.length = k + 1 :=
    ⟨_, (Nat.succ_pred (by omega)).symm⟩
  have hlen : (typed ++ [c]).length = typed.length + 1 := List.length_append
  refine ⟨_, ?_, rfl, ?_, by omega, ?_⟩
  · rw [h.buffer, h.pos, hk, write_append rfl (by simp), hlen,
      show currentCommandSize - (typed.length + 1) = k from by omega]
    rfl
  · rw [h.pos, hlen]
  · intro b hb
    rcases List.mem_append.mp hb with hb | hb
    · exact h.chars b hb
    · rw [List.mem_singleton.mp hb]
      exact hc

theorem holdsCommand_dropLast {c : UInt8} (h : HoldsCommand command cmdPos (typed ++ [c])) :
    ∃ command', write command (cmdPos - 1) [0] = .ok command' ∧
      HoldsCommand command' (cmdPos - 1) typed := by
  have hlen : (typed ++ [c]).length = typed.length + 1 := List.length_append
  have hroom := h.room
  have hpos : cmdPos - 1 = typed.length := by
    rw [h.pos, hlen]
    rfl
  refine ⟨_, ?_, rfl, hpos, by omega, fun b hb => h.chars b (List.mem_append_left _ hb)⟩
  rw [h.buffer, hpos, write_middle rfl (show ([0] : Bytes).length = [c].length from rfl), hlen, List.append_assoc,
    show currentCommandSize - typed.length = currentCommandSize - (typed.length + 1) + 1 from by
      omega]
  rfl

/-- A longer text is written over the command. -/
theorem holdsCommand_replace (h : HoldsCommand command cmdPos typed) {text : Bytes}
    (hle : typed.length ≤ text.length) (hroom : text.length < currentCommandSize)
    (hchars : ∀ c ∈ text, c ≠ 0) :
    ∃ command', write command 0 (text ++ [0]) = .ok command' ∧
      HoldsCommand command' text.length text := by
  have hlen : (text ++ [0]).length = text.length + 1 := List.length_append
  have htyped := h.room
  have hbuffer : command.length = currentCommandSize := by
    rw [h.buffer, List.length_append, List.length_replicate]
    omega
  refine ⟨_, ?_, rfl, rfl, hroom, hchars⟩
  rw [write_eq (by omega), hlen, h.buffer, List.take_zero, List.nil_append, Nat.zero_add,
    List.drop_append, List.drop_eq_nil_of_le (by omega), List.nil_append, List.drop_replicate,
    List.append_assoc, show currentCommandSize - typed.length - (text.length + 1 - typed.length) =
      currentCommandSize - (text.length + 1) from by omega,
    show currentCommandSize - text.length = currentCommandSize - (text.length + 1) + 1 from by
      omega]
  rfl

/-- The names of the commands are short, and no character of them is NUL. -/
theorem commandNames_chars : ∀ name ∈ commandNames,
    0 < name.length ∧ name.length < currentCommandSize ∧ ∀ c ∈ name, c ≠ 0 := by
  have hnames : ∀ name ∈ commandNames,
      0 < name.length ∧ name.length < currentCommandSize ∧ 0 ∉ name := by
    decide
  intro name hname
  obtain ⟨hpos, hlen, hzero⟩ := hnames name hname
  exact ⟨hpos, hlen, fun c hc hnul => hzero (hnul ▸ hc)⟩

/-- **A completion is a command that what was typed begins.** -/
theorem shellAutocomplete_eq (h : HoldsCommand command cmdPos typed) :
    (commandNames.find? fun name => strncmpEq command name (cString command).length) =
      commandNames.find? fun name => typed <+: name := by
  refine List.find?_congr fun name hname => ?_
  have hchars := (commandNames_chars name hname).2.2
  unfold strncmpEq
  rw [h.text, cString_eq_self hchars, List.take_length]
  exact decide_eq_decide.mpr List.prefix_iff_eq_take.symm

end Command

/-! ## One key -/

/-- The terminal is at (100, 100), and shows the session. -/
structure Shows (t : Terminal) (s : Session) : Prop where
  window : t.termWindow ≠ null
  visible : (t.gui.mem t.termWindow).visible = true
  x : (t.gui.mem t.termWindow).x = 100
  y : (t.gui.mem t.termWindow).y = 100
  rows : HoldsRows t.termLines t.lineCount s.written
  command : HoldsCommand t.currentCommand t.cmdPos s.typed
  history : Apps.HistoryOk t.shell s.commands

variable {t : Terminal} {s : Session}

theorem Shows.drawAt_eq (h : Shows t s) (text : Bytes) (i : Nat) :
    t.drawAt text i = ⟨text, 105, 125 + 16 * Int32.ofNat i, 0x00FF00⟩ := by
  unfold Terminal.drawAt
  rw [h.x, h.y]
  congr 1
  rw [charHeight, windowTitleHeight, Int32.mul_comm, Int32.add_comm _ 5, ← Int32.add_assoc]
  rfl

/-- **What is drawn is the session.** -/
theorem terminalRefresh_eq (h : Shows t s) : terminalRefresh t = s.screen := by
  have hlen : (rowsOf s.written).length = t.lineCount := by
    rw [← h.rows.rows, List.length_map, List.length_range]
  unfold terminalRefresh Session.screen
  rw [h.command.text, List.mapIdx_append, hlen, ← h.rows.rows]
  refine congr (congrArg _ (List.ext_getElem (by simp) fun i hi _ => ?_)) ?_
  · rw [List.getElem_map, List.getElem_mapIdx, List.getElem_map, List.getElem_range]
    exact h.drawAt_eq _ _
  · rw [h.drawAt_eq]
    simp

/-- The output is that of the command. -/
theorem shellExecute_texts {files : Bytes → Option (List Bytes)} {shell shell' : Shell}
    {command : Bytes} {texts : List Bytes}
    (h : shellExecute files shell (some command) = .ok (shell', texts))
    (hne : cString command ≠ []) : texts = dispatch files (tokenize (cString command)) := by
  unfold shellExecute at h
  dsimp only at h
  rw [if_neg hne] at h
  split at h
  · cases h
  · split at h
    · cases h
    · split at h
      · cases h
      · cases h
        rfl

/-- A command has its output below it, and is the first of the history. -/
theorem terminalEnter_shows (h : Shows t s) (files : Bytes → Option (List Bytes))
    (hlen : s.commands.length + 1 < 2 ^ 31) :
    ∃ t', terminalEnter files t = .ok t' ∧ Shows t' (s.type ⟨files, 10⟩) := by
  obtain ⟨lines, n, hprompt, hrows⟩ := holdsRows_writeln h.rows (chars "> " ++ s.typed)
  unfold terminalEnter
  rw [holdsCommand_end h.command, ok_bind, h.command.text]
  dsimp only
  rw [hprompt]
  unfold Session.type
  rw [if_pos rfl]
  by_cases hempty : s.typed = []
  · have hexecute : shellExecute files t.shell (some t.currentCommand) = .ok (t.shell, []) := by
      unfold shellExecute
      dsimp only
      rw [h.command.text, if_pos hempty]
    rw [hexecute, ok_bind, if_pos hempty]
    refine ⟨_, rfl, h.window, h.visible, h.x, h.y, ?_, ?_, h.history⟩
    · rw [hempty] at hrows
      exact hrows
    · dsimp only
      rw [hempty]
      exact holdsCommand_nil
  · have hcall : ShellCall.Fits ⟨files, t.currentCommand⟩ := by
      unfold ShellCall.Fits
      rw [h.command.text]
      exact ⟨hempty, h.command.room⟩
    obtain ⟨shell, texts, hexecute, hhistory⟩ := shellExecute_ok h.history hcall hlen
    have htexts := shellExecute_texts hexecute (by rw [h.command.text]; exact hempty)
    have htext : ShellCall.text ⟨files, t.currentCommand⟩ = s.typed := by
      have hroom := h.command.room
      unfold ShellCall.text
      rw [h.command.text]
      exact List.take_of_length_le (Nat.le_sub_one_of_lt hroom)
    dsimp only at hexecute htexts
    rw [htext] at hhistory
    rw [h.command.text] at htexts
    rw [hexecute, ok_bind, if_neg hempty, htexts]
    dsimp only
    obtain ⟨lines', n', houtput, hrows'⟩ :=
      holdsRows_output (dispatch files (tokenize s.typed))
        (t := { t with termLines := lines, lineCount := n, shell := shell }) hrows
    rw [houtput]
    refine ⟨_, rfl, h.window, h.visible, h.x, h.y, ?_, holdsCommand_nil, hhistory⟩
    rw [List.append_assoc] at hrows'
    exact hrows'

theorem terminalBackspace_shows (h : Shows t s) :
    ∃ t', terminalBackspace t = .ok t' ∧ Shows t' { s with typed := s.typed.dropLast } := by
  have hpos := h.command.pos
  unfold terminalBackspace
  rcases List.eq_nil_or_concat s.typed with hnil | ⟨typed, c, hconcat⟩
  · rw [if_neg (by rw [hpos, hnil]; decide), hnil]
    refine ⟨t, rfl, h.window, h.visible, h.x, h.y, h.rows, ?_, h.history⟩
    have hcommand := h.command
    rw [hnil] at hcommand
    exact hcommand
  · rw [List.concat_eq_append] at hconcat
    have hcommand := h.command
    rw [hconcat] at hcommand
    obtain ⟨command, hwrite, hheld⟩ := holdsCommand_dropLast hcommand
    rw [if_pos (by rw [hpos, hconcat, List.length_append]; exact Nat.succ_pos _), hwrite, hconcat,
      List.dropLast_concat]
    exact ⟨_, rfl, h.window, h.visible, h.x, h.y, h.rows, hheld, h.history⟩

/-- The command that is completed is shown, or what was typed. -/
theorem terminalTab_shows (h : Shows t s) :
    ∃ t', terminalTab t = .ok t' ∧
      Shows t' { s with
        typed := (commandNames.find? fun name => s.typed <+: name).getD s.typed } := by
  unfold terminalTab shellAutocomplete
  dsimp only
  rw [shellAutocomplete_eq h.command]
  cases hfind : commandNames.find? fun name => s.typed <+: name with
  | none =>
    have hzeros : cString (List.replicate 256 0) = [] := rfl
    dsimp only
    rw [ok_bind, Option.getD_some, hzeros]
    exact ⟨t, rfl, h.window, h.visible, h.x, h.y, h.rows, h.command, h.history⟩
  | some name =>
    obtain ⟨hpos, hroom, hchars⟩ := commandNames_chars name (List.mem_of_find?_eq_some hfind)
    have hprefix : s.typed <+: name := by simpa using List.find?_some hfind
    obtain ⟨result, hresult, hheld⟩ :=
      holdsCommand_replace holdsCommand_nil (Nat.zero_le _) hroom hchars
    obtain ⟨command, hcommand, hheld'⟩ :=
      holdsCommand_replace h.command hprefix.length_le hroom hchars
    dsimp only
    rw [show write (List.replicate 256 0) 0 (name ++ [0]) = .ok result from hresult]
    rw [Except.map, ok_bind, Option.getD_some, hheld.text, if_pos hpos, hcommand, ok_bind]
    exact ⟨_, rfl, h.window, h.visible, h.x, h.y, h.rows, hheld', h.history⟩

theorem terminalChar_shows (h : Shows t s) {key : UInt32} (hkey : key ≠ 0) :
    ∃ t', terminalChar t key = .ok t' ∧
      Shows t' (if s.typed.length < currentCommandSize - 1 ∧ key < 128 then
        { s with typed := s.typed ++ [key.toUInt8] } else s) := by
  unfold terminalChar
  rw [h.command.pos]
  by_cases htyped : s.typed.length < currentCommandSize - 1 ∧ key < 128
  · have hchar : key.toUInt8 ≠ 0 := by
      intro hzero
      have hlow : key.toNat < 128 := htyped.2
      have hnat := congrArg UInt8.toNat hzero
      rw [UInt32.toNat_toUInt8, UInt8.toNat_zero] at hnat
      exact hkey (UInt32.toNat_inj.mp (show key.toNat = 0 by omega))
    obtain ⟨command, hwrite, hheld⟩ := holdsCommand_concat h.command htyped.1 hchar
    rw [h.command.pos] at hwrite hheld
    rw [if_pos htyped, if_pos htyped, hwrite]
    exact ⟨_, rfl, h.window, h.visible, h.x, h.y, h.rows, hheld, h.history⟩
  · rw [if_neg htyped, if_neg htyped]
    exact ⟨t, rfl, h.window, h.visible, h.x, h.y, h.rows, h.command, h.history⟩

/-- A key that has a character, while the number of the commands is a C `int`. -/
def Typeable (s : Session) (k : TerminalKey) : Prop := k.key ≠ 0 ∧ s.commands.length + 1 < 2 ^ 31

/-- **One key.** -/
theorem terminalHandleInput_shows (h : Shows t s) {k : TerminalKey} (hk : Typeable s k) :
    ∃ t', terminalHandleInput k.files t k.key = .ok (t', (s.type k).screen) ∧
      Shows t' (s.type k) := by
  obtain ⟨files, key⟩ := k
  have hstep : ∃ t', terminalKey files t key = .ok t' ∧ Shows t' (s.type ⟨files, key⟩) := by
    unfold terminalKey
    by_cases henter : key = 10
    · rw [if_pos henter, henter]
      exact terminalEnter_shows h files hk.2
    unfold Session.type
    rw [if_neg henter, if_neg henter]
    by_cases hback : key = 8
    · rw [if_pos hback, if_pos hback]
      exact terminalBackspace_shows h
    rw [if_neg hback, if_neg hback]
    by_cases htab : key = 9
    · rw [if_pos htab, if_pos htab]
      exact terminalTab_shows h
    rw [if_neg htab, if_neg htab]
    exact terminalChar_shows h hk.1
  obtain ⟨t', hkey, hshows⟩ := hstep
  refine ⟨t', ?_, hshows⟩
  have hopen : ¬(t.termWindow = null ∨ (t.gui.mem t.termWindow).visible = false) := by
    rw [h.visible]
    simp [h.window]
  unfold terminalHandleInput
  dsimp only
  rw [if_neg hopen, hkey, ok_bind, terminalRefresh_eq hshows]
  rfl

/-! ## A run -/

def terminalStep (t : Terminal) (k : TerminalKey) : Except Fault (Terminal × List DrawText) :=
  terminalHandleInput k.files t k.key

def sessionStep (s : Session) (k : TerminalKey) : Session × List DrawText :=
  (s.type k, (s.type k).screen)

/-- What `terminal_init` writes. -/
def Session.start : Session where
  written := [chars "Maya OS Terminal v1.1", chars "Type 'help' for commands."]
  typed := []
  commands := []

/-- A key is at most one more command. -/
theorem expected_keys {keys : List TerminalKey} (hkeys : ∀ k ∈ keys, k.key ≠ 0) :
    ∀ {s : Session}, s.commands.length + keys.length < 2 ^ 31 →
      Expected Typeable sessionStep s keys := by
  induction keys with
  | nil => intro s _; exact trivial
  | cons k keys ih =>
    intro s hlen
    obtain ⟨hk, hrest⟩ := List.forall_mem_cons.mp hkeys
    rw [List.length_cons] at hlen
    have hnext : (s.type k).commands.length ≤ s.commands.length + 1 := by
      unfold Session.type
      split
      · split
        · exact Nat.le_succ _
        · exact Nat.le_refl _
      · split
        · exact Nat.le_succ _
        · split
          · exact Nat.le_succ _
          · split
            · exact Nat.le_succ _
            · exact Nat.le_succ _
    refine ⟨⟨hk, by omega⟩, ih hrest ?_⟩
    show (s.type k).commands.length + keys.length < 2 ^ 31
    omega

theorem terminalInit_shows {gui : GuiState} {block buffer : Nat}
    (hopen : (terminalInit (Terminal.boot gui) block buffer).termWindow ≠ null) :
    Shows (terminalInit (Terminal.boot gui) block buffer) Session.start := by
  have hwindow :
      (windowCreate gui (some (chars "Terminal")) 100 100 640 480 block buffer).1 ≠ null := by
    intro hnull
    unfold terminalInit Terminal.boot at hopen
    dsimp only at hopen
    rw [if_pos hnull] at hopen
    exact hopen hnull
  obtain ⟨hpointer, hblock, -, name, i, j, hrecord⟩ := windowCreate_record hwindow
  have hblank : HoldsRows (fun _ => TermRow.blank) 0 [] :=
    ⟨rfl, fun _ => List.getElem?_replicate_of_lt (by decide)⟩
  unfold terminalInit Terminal.boot
  dsimp only
  rw [if_neg hwindow]
  obtain ⟨lines, n, hfirst, hrows⟩ := holdsRows_writeln
    (t := { gui := _, termWindow := _, currentCommand := List.replicate currentCommandSize 0,
            cmdPos := 0, termLines := fun _ => TermRow.blank, lineCount := 0,
            shell := shellInit true }) hblank (chars "Maya OS Terminal v1.1")
  obtain ⟨lines', n', hsecond, hrows'⟩ := holdsRows_writeln
    (t := { gui := _, termWindow := _, currentCommand := List.replicate currentCommandSize 0,
            cmdPos := 0, termLines := lines, lineCount := n,
            shell := shellInit true }) hrows (chars "Type 'help' for commands.")
  rw [hfirst, hsecond, hpointer]
  refine ⟨hblock, ?_, ?_, ?_, hrows', holdsCommand_nil, historyOk_init⟩
  · rw [hrecord]
    rfl
  · rw [hrecord]
    rfl
  · rw [hrecord]
    rfl

/--
**The terminal shows the session.** In every run of keys after `terminal_init` has got its window no
access fails, each key ends in drawing the last 25 texts and what was typed since the last command,
and the history of the shell are the commands.
-/
theorem terminal_session (gui : GuiState) (block buffer : Nat)
    (hopen : (terminalInit (Terminal.boot gui) block buffer).termWindow ≠ null)
    (keys : List TerminalKey) (hkeys : ∀ k ∈ keys, k.key ≠ 0) (hlen : keys.length < 2 ^ 31) :
    ∃ t, tryOutputs terminalStep (terminalInit (Terminal.boot gui) block buffer) keys =
        .ok (t, outputs sessionStep Session.start keys) ∧
      ∀ i : Nat, i < maxHistory →
        (shellGetHistory t.shell i).map (fun row => cString row.1) =
          (finalState sessionStep Session.start keys).commands[i]? := by
  have hexpected : Expected Typeable sessionStep Session.start keys :=
    expected_keys hkeys (by rw [show Session.start.commands.length = 0 from rfl]; omega)
  have hstep : ∀ t s, Shows t s → ∀ k, Typeable s k →
      ∃ t', terminalStep t k = .ok (t', (sessionStep s k).2) ∧ Shows t' (sessionStep s k).1 :=
    fun _ _ h _ hk => terminalHandleInput_shows h hk
  obtain ⟨t, hrun, hshows⟩ := tryOutputs_eq hstep (terminalInit_shows hopen) hexpected
  refine ⟨t, hrun, fun i hi => ?_⟩
  by_cases hlt : i < (finalState sessionStep Session.start keys).commands.length
  · rw [shellGetHistory_eq hshows.history hlt hi, List.getElem?_eq_getElem hlt]
  · rw [shellGetHistory_none hshows.history (by omega), List.getElem?_eq_none (by omega)]
    rfl

/-- A window manager without windows. -/
def plainDesktop : GuiState := windowManagerInit (GuiState.boot fun _ => newWindow [] 0 0 0 0 0 0)

/-- `h`, the tabulator and the line break. -/
def helpKeys : List TerminalKey := [104, 9, 10].map fun key => ⟨fun _ => none, key⟩

theorem terminal_session_help : ∃ t screens,
    tryOutputs terminalStep (terminalInit (Terminal.boot plainDesktop) 1 2) helpKeys =
        .ok (t, screens) ∧
      screens.map (fun screen => (screen.map DrawText.text).drop 2) =
        [[chars "> h_"], [chars "> help_"],
          [chars "> help", chars "Available commands: help, clear, ls, cat, echo, exit",
            chars "> _"]] := by
  have hopen : (terminalInit (Terminal.boot plainDesktop) 1 2).termWindow ≠ null := by decide
  obtain ⟨t, hrun, -⟩ := terminal_session plainDesktop 1 2 hopen helpKeys (by decide) (by decide)
  exact ⟨t, _, hrun, by decide⟩

end MayaOs.Gui
