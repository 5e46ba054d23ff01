import MayaOs.Apps.Shell
import MayaOs.Lib.RingBuffer

/-!
# The history of the shell

The row that a command is written to and the row that an index is answered with are both computed
from the number of commands, so that the rows hold the last 20 commands, whatever has been in them.

* `shellExecute_ok` — a command is put before the others
* `historyOk_run` — the commands of a run, the most recent first
* `shellGetHistory_eq` — what an index gives
* `shell_history` — all of this after `shell_init`
-/

namespace MayaOs.Apps

open MayaOs.Lib

/-- A call of `shell_execute` and the directories at that time. -/
structure ShellCall where
  files : Bytes → Option (List Bytes)
  command : Bytes

/-- The command is not empty and has room in `buf`. -/
def ShellCall.Fits (call : ShellCall) : Prop :=
  cString call.command ≠ [] ∧ (cString call.command).length < maxCommandLen

/-- The command as the history keeps it. -/
def ShellCall.text (call : ShellCall) : Bytes :=
  (cString call.command).take (maxCommandLen - 1)

def shellRun (s : Shell) (calls : List ShellCall) : Except Fault Shell :=
  calls.foldlM (fun s call => (shellExecute call.files s (some call.command)).map (·.1)) s

/-- The text in a row. -/
def Shell.row (s : Shell) (i : Nat) : Bytes := cString (s.history i).1

/-- `recent` are the commands so far, the most recent first. -/
structure HistoryOk (s : Shell) (recent : List Bytes) : Prop where
  output : s.output = true
  count : s.historyCount = recent.length
  terminated : ∀ i, (s.history i).1[maxCommandLen - 1]? = some 0
  rows : Recent maxHistory s.row recent

theorem historyOk_init : HistoryOk (shellInit true) [] where
  output := rfl
  count := rfl
  terminated := fun _ => List.getElem?_replicate_of_lt (by decide)
  rows := Recent.nil maxHistory _

/-! ## One command -/

theorem cString_copy {row : HistoryRow} (h : row.1[maxCommandLen - 1]? = some 0) (command : Bytes) :
    cString (row.copy command).1 = (cString command).take (maxCommandLen - 1) :=
  cString_strncpy h command

theorem row_update (s : Shell) (slot : Nat) (row : HistoryRow) (count : Int) :
    ({ s with history := Function.update s.history slot row, historyCount := count } : Shell).row =
      Function.update s.row slot (cString row.1) :=
  Function.comp_update (fun row : HistoryRow => cString row.1) s.history slot row

section Step

variable {s : Shell} {recent : List Bytes}

/-- The index of the row is never negative. -/
theorem HistoryOk.slot_eq (h : HistoryOk s recent) :
    s.historyCount.tmod maxHistory = (recent.length % maxHistory : Nat) := by
  rw [h.count, Int.ofNat_tmod]

/-- **A command is put before the others.** -/
theorem shellExecute_ok (h : HistoryOk s recent) {call : ShellCall} (hfits : call.Fits)
    (hlen : recent.length + 1 < 2 ^ 31) :
    ∃ s' texts, shellExecute call.files s (some call.command) = .ok (s', texts) ∧
      HistoryOk s' (call.text :: recent) := by
  obtain ⟨hne, hroom⟩ := hfits
  have hslot := h.slot_eq
  have hcount : int32 (s.historyCount + 1) = ((call.text :: recent).length : Nat) := by
    rw [h.count, List.length_cons, int32_eq_self (by omega) (by omega)]
    rfl
  have houtput : ¬(dispatch call.files (tokenize (cString call.command)) ≠ [] ∧
      s.output = false) := by
    rw [h.output]
    exact fun hnot => Bool.noConfusion hnot.2
  unfold shellExecute
  simp only
  rw [if_neg hne, hslot, if_neg (Int.not_lt.mpr (Int.natCast_nonneg _)),
    if_neg (Nat.not_le.mpr hroom), if_neg houtput, Int.toNat_natCast]
  refine ⟨_, _, rfl, h.output, hcount, fun i => ?_, ?_⟩
  · show (Function.update s.history _ _ i).1[maxCommandLen - 1]? = some 0
    rw [Function.update_apply]
    split
    · exact (getElem?_strncpy _ _ (Nat.le_refl _)).trans (h.terminated _)
    · exact h.terminated i
  · have hrows := h.rows.push call.text
    rw [row_update, cString_copy (h.terminated (recent.length % maxHistory))]
    exact hrows

/-- **The history after a run** is its commands in reverse, before those from earlier. -/
theorem historyOk_run : ∀ {calls : List ShellCall} {s : Shell} {recent : List Bytes},
    HistoryOk s recent → (∀ call ∈ calls, call.Fits) → recent.length + calls.length < 2 ^ 31 →
      ∃ s', shellRun s calls = .ok s' ∧ HistoryOk s' ((calls.map ShellCall.text).reverse ++ recent) := by
  intro calls
  induction calls with
  | nil => intro s recent h _ _; exact ⟨s, rfl, h⟩
  | cons call calls ih =>
    intro s recent h hfits hlen
    obtain ⟨hcall, hrest⟩ := List.forall_mem_cons.mp hfits
    rw [List.length_cons] at hlen
    obtain ⟨s₁, texts, hstep, hok⟩ := shellExecute_ok h hcall (by omega)
    obtain ⟨s', hrun, hok'⟩ := ih hok hrest (by rw [List.length_cons]; omega)
    refine ⟨s', ?_, ?_⟩
    · unfold shellRun at hrun ⊢
      rw [List.foldlM_cons, hstep]
      exact hrun
    · rw [List.map_cons, List.reverse_cons, List.append_assoc]
      exact hok'

/-! ## What the history gives -/

/-- **The rows from the last written one backwards.** -/
theorem shellGetHistory_eq (h : HistoryOk s recent) {i : Nat} (hi : i < recent.length)
    (hslots : i < maxHistory) :
    (shellGetHistory s i).map (fun row => cString row.1) = some recent[i] := by
  have hindex : (s.historyCount - 1 - i).tmod maxHistory =
      ((recent.length - 1 - i) % maxHistory : Nat) := by
    rw [Int.ofNat_tmod, h.count]
    congr 1
    omega
  have hinside : ¬((i : Int) < 0 ∨ (maxHistory : Int) ≤ i ∨ s.historyCount ≤ i) := by
    rw [h.count]
    omega
  unfold shellGetHistory
  rw [if_neg hinside]
  simp only
  rw [hindex, if_neg (Int.not_lt.mpr (Int.natCast_nonneg _)), Int.toNat_natCast]
  exact congrArg some (h.rows i hi hslots)

theorem shellGetHistory_none (h : HistoryOk s recent) {i : Int}
    (hi : ¬(0 ≤ i ∧ i < min recent.length maxHistory)) : shellGetHistory s i = none := by
  have houtside : i < 0 ∨ (maxHistory : Int) ≤ i ∨ s.historyCount ≤ i := by
    rw [h.count]
    omega
  exact if_pos houtside

theorem shellGetHistoryCount_eq (h : HistoryOk s recent) :
    shellGetHistoryCount s = (min recent.length maxHistory : Nat) := by
  unfold shellGetHistoryCount
  rw [h.count]
  split
  · next hmore => rw [Nat.min_eq_right (by omega)]
  · next hfew => rw [Nat.min_eq_left (by omega)]

end Step

/-! ## The result -/

/--
**The history holds the last commands**, and gives the most recent of them at index 0.

`shell_init` is given an output function. A row is read as a string. What the directories are at each
call does not matter.
-/
theorem shell_history (calls : List ShellCall) (hfits : ∀ call ∈ calls, call.Fits)
    (hlen : calls.length < 2 ^ 31) :
    ∃ s, shellRun (shellInit true) calls = .ok s ∧
      (∀ i : Nat, i < min calls.length maxHistory →
        (shellGetHistory s i).map (fun row => cString row.1) =
          (calls.reverse[i]?).map ShellCall.text) ∧
      (∀ i : Int, ¬(0 ≤ i ∧ i < min calls.length maxHistory) → shellGetHistory s i = none) ∧
      shellGetHistoryCount s = (min calls.length maxHistory : Nat) := by
  obtain ⟨s, hrun, hok⟩ := historyOk_run historyOk_init hfits (by simpa using hlen)
  rw [List.append_nil, ← List.map_reverse] at hok
  have hlength : (calls.reverse.map ShellCall.text).length = calls.length := by
    rw [List.length_map, List.length_reverse]
  refine ⟨s, hrun, fun i hi => ?_, fun i hi => ?_, ?_⟩
  · rw [← List.getElem?_map, shellGetHistory_eq hok (by omega) (by omega)]
    exact (List.getElem?_eq_getElem _).symm
  · exact shellGetHistory_none hok (by rw [hlength]; exact hi)
  · rw [shellGetHistoryCount_eq hok, hlength]

/-- The row of the first command is written again, with a shorter one. -/
def overwriting : List ShellCall :=
  List.replicate maxHistory ⟨fun _ => none, chars "echo maya"⟩ ++ [⟨fun _ => none, chars "ls"⟩]

theorem shell_history_overwriting :
    ∃ s, shellRun (shellInit true) overwriting = .ok s ∧
      (shellGetHistory s 0).map (fun row => cString row.1) = some (chars "ls") ∧
      shellGetHistoryCount s = 20 := by
  have hfits : ∀ call ∈ overwriting, call.Fits := by
    intro call hcall
    rcases List.mem_append.mp hcall with hecho | hls
    · rw [List.eq_of_mem_replicate hecho]
      exact ⟨by decide, by decide⟩
    · rw [List.mem_singleton.mp hls]
      exact ⟨by decide, by decide⟩
  obtain ⟨s, hrun, hget, -, hcount⟩ := shell_history overwriting hfits (by decide)
  exact ⟨s, hrun, hget 0 (by decide), hcount⟩

end MayaOs.Apps
