import Mathlib.Logic.Function.Basic
import MayaOs.Lib.Bytes
import MayaOs.Lib.MachineInt

/-!
# The shell library (`apps/shell/shell.c`)

A command is a buffer that is read up to its first NUL. What a call passes to `shell_out` is a list
of texts. `files` are the directories at the time of the call: the names in the one that
`vfs_finddir` finds, `none` if it finds nothing.

`strncpy`, `strcpy`, `strtok`, `strcmp` and `strncmp` are declared in `string.h` only and are those of the
standard. Left out is `history_pos`, which nothing reads.
-/

namespace MayaOs.Apps

open MayaOs.Lib

def maxHistory : Nat := 20
def maxCommandLen : Nat := 256
def maxArgs : Nat := 16

/-- The bytes of a literal of the source, without the NUL. -/
def chars (text : String) : Bytes := text.toList.map fun c => UInt8.ofNat c.toNat

/-! ## `strncpy` -/

/-- Copies at most `n` characters, and fills up with NUL what is left of the `n`. -/
def strncpy (dest src : Bytes) (n : Nat) : Bytes :=
  let text := (cString src).take n
  text ++ List.replicate (n - text.length) 0 ++ dest.drop n

/-- The part of the buffer that is written. -/
theorem length_copied (src : Bytes) (n : Nat) :
    ((cString src).take n ++ List.replicate (n - ((cString src).take n).length) 0).length = n := by
  rw [List.length_append, List.length_replicate]
  exact Nat.add_sub_of_le (List.length_take_le ..)

theorem length_strncpy {dest : Bytes} {n : Nat} (h : n ≤ dest.length) (src : Bytes) :
    (strncpy dest src n).length = dest.length := by
  unfold strncpy
  rw [List.length_append, length_copied, List.length_drop]
  exact Nat.add_sub_of_le h

/-- Nothing behind the first `n` bytes is written. -/
theorem getElem?_strncpy (dest src : Bytes) {n i : Nat} (hi : n ≤ i) :
    (strncpy dest src n)[i]? = dest[i]? := by
  have hlen := length_copied src n
  unfold strncpy
  rw [List.getElem?_append_right (by rw [hlen]; exact hi), hlen, List.getElem?_drop]
  congr 1
  omega

/-- **Nothing of the former text remains** in a buffer with a NUL behind the `n` bytes. -/
theorem cString_strncpy {dest : Bytes} {n : Nat} (h : dest[n]? = some 0) (src : Bytes) :
    cString (strncpy dest src n) = (cString src).take n := by
  have hchars : ∀ c ∈ (cString src).take n, decide (c ≠ 0) = true := by
    intro c hc
    have hmem : c ∈ cString src := List.mem_of_mem_take hc
    exact List.mem_takeWhile_imp (p := fun c => decide (c ≠ 0)) hmem
  unfold strncpy
  rw [List.append_assoc]
  unfold cString at hchars ⊢
  rw [List.takeWhile_append_of_pos hchars]
  refine (congrArg _ ?_).trans (List.append_nil _)
  cases n - ((src.takeWhile fun c => decide (c ≠ 0)).take n).length with
  | zero =>
    obtain ⟨hn, hzero⟩ := List.getElem?_eq_some_iff.mp h
    rw [List.replicate_zero, List.nil_append, List.drop_eq_getElem_cons hn, hzero]
    rfl
  | succ k => rfl

/-! ## The state -/

/-- A row of `history`. -/
abbrev HistoryRow := { row : Bytes // row.length = maxCommandLen }

/-- `strncpy` into a row, the last byte of which is not written. -/
def HistoryRow.copy (row : HistoryRow) (command : Bytes) : HistoryRow :=
  ⟨strncpy row.1 command (maxCommandLen - 1),
    (length_strncpy (by rw [row.2]; decide) command).trans row.2⟩

structure Shell where
  history : Nat → HistoryRow
  historyCount : Int
  /-- Whether `shell_out` is a function, not `NULL`. -/
  output : Bool

def shellInit (output : Bool) : Shell where
  history := fun _ => ⟨List.replicate maxCommandLen 0, List.length_replicate⟩
  historyCount := 0
  output := output

/-! ## Commands -/

def shellCmdHelp (_argv : List Bytes) : List Bytes :=
  [chars "Available commands: help, clear, ls, cat, echo, exit"]

def shellCmdLs (files : Bytes → Option (List Bytes)) (argv : List Bytes) : List Bytes :=
  match files (argv.getD 1 (chars "/")) with
  | none => [chars "Directory not found."]
  | some names => names

def shellCmdEcho (argv : List Bytes) : List Bytes :=
  (argv.drop 1).intersperse (chars " ") ++ [chars "\n"]

def commands (files : Bytes → Option (List Bytes)) : List (Bytes × (List Bytes → List Bytes)) :=
  [(chars "help", shellCmdHelp), (chars "ls", shellCmdLs files), (chars "echo", shellCmdEcho)]

/-- The loop around `strtok(buf, " ")`. -/
def tokenize (command : Bytes) : List Bytes :=
  ((command.splitOn 32).filter (· ≠ [])).take maxArgs

/-- The texts that are passed to `shell_out`. -/
def dispatch (files : Bytes → Option (List Bytes)) (argv : List Bytes) : List Bytes :=
  match argv with
  | [] => []
  | name :: _ =>
    match (commands files).find? (·.1 = name) with
    | some command => command.2 argv
    | none => [chars "Unknown command. Type 'help'."]

/-- `buf` has no room for a command of 256 characters or more. -/
def shellExecute (files : Bytes → Option (List Bytes)) (s : Shell) (command : Option Bytes) :
    Except Fault (Shell × List Bytes) :=
  match command with
  | none => .ok (s, [])
  | some command =>
    let text := cString command
    if text = [] then .ok (s, [])
    else
      let slot := s.historyCount.tmod maxHistory
      if slot < 0 then .error (.outOfBounds 0)
      else
        let row := (s.history slot.toNat).copy command
        let s := { s with
          history := Function.update s.history slot.toNat row
          historyCount := int32 (s.historyCount + 1) }
        if maxCommandLen ≤ text.length then .error (.outOfBounds maxCommandLen)
        else
          let texts := dispatch files (tokenize text)
          if texts ≠ [] ∧ s.output = false then .error .nullDeref else .ok (s, texts)

/-! ## The history -/

def shellGetHistory (s : Shell) (index : Int) : Option HistoryRow :=
  if index < 0 ∨ maxHistory ≤ index ∨ s.historyCount ≤ index then none
  else
    let actualIdx := (s.historyCount - 1 - index).tmod maxHistory
    let actualIdx := if actualIdx < 0 then actualIdx + maxHistory else actualIdx
    some (s.history actualIdx.toNat)

def shellGetHistoryCount (s : Shell) : Int :=
  if maxHistory < s.historyCount then maxHistory else s.historyCount

/-! ## Completion -/

/-- `strncmp(a, b, n) == 0`. -/
def strncmpEq (a b : Bytes) (n : Nat) : Bool := (cString a).take n = (cString b).take n

/-- The names do not depend on the directories. -/
def commandNames : List Bytes := (commands fun _ => none).map (·.1)

/-- `result` after the call. -/
def shellAutocomplete (part result : Option Bytes) : Except Fault (Option Bytes) :=
  match part, result with
  | some part, some result =>
    match commandNames.find? fun name => strncmpEq part name (cString part).length with
    | none => .ok (some result)
    | some name => (write result 0 (name ++ [0])).map some
  | _, result => .ok result

end MayaOs.Apps
