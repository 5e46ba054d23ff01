import Mathlib.Data.List.Rotate
import MayaOs.Properties.ProcessNumbers

/-!
# Turns of the processes

`process_schedule` goes from the current process to the one with the next `pid`, modulo the number of
processes. That is a cycle through all of them because the table is numbered without gaps.

* `turns_eq_rotate` — as many calls as there are processes run through the table from some index on
* `round_robin` — so each process gets exactly one turn
-/

namespace MayaOs.Kernel

open MayaOs.Lib

/-- The processes that `n` consecutive calls of `process_schedule` make current. -/
def turns (k : KernelState) : Nat → List ProcessPtr
  | 0 => []
  | n + 1 => (processSchedule k).pm.currentProcess :: turns (processSchedule k) n

/-- The table index of the next turn. -/
def nextIndex (k : KernelState) : Nat :=
  if k.pm.currentProcess = null then 0
  else ((k.mem k.pm.currentProcess).pid + 1) % k.pm.processCount

/-! ## One turn -/

section Turn

variable {k : KernelState} {l : List ProcessPtr}

theorem Table.getD_eq (h : Table k l) {i : Nat} (hi : i < l.length) :
    k.pm.processes.getD i null = l.getD i null := by
  have hlen := h.length
  rw [← h.used, List.getD_eq_getElem?_getD, List.getD_eq_getElem?_getD,
    List.getElem?_take_of_lt (by omega)]

theorem nextIndex_lt (h : Table k l) (hl : l ≠ []) : nextIndex k < l.length := by
  have hpos := List.length_pos_of_ne_nil hl
  have hlen := h.length
  unfold nextIndex
  split
  · exact hpos
  · rw [hlen]
    exact Nat.mod_lt _ (by omega)

theorem scheduleTarget_eq (h : Table k l) (hl : l ≠ []) :
    scheduleTarget k = l.getD (nextIndex k) null := by
  rw [← h.getD_eq (nextIndex_lt h hl)]
  unfold scheduleTarget nextIndex
  split <;> rfl

/-- **One turn**: the process at the next index becomes current, and the index advances. -/
theorem turn (h : Table k l) (hinit : k.pm.initialized = true) (hl : l ≠ []) :
    (processSchedule k).pm.currentProcess = l.getD (nextIndex k) null ∧
      nextIndex (processSchedule k) = (nextIndex k + 1) % l.length := by
  have hlt := nextIndex_lt h hl
  have hpos := List.length_pos_of_ne_nil hl
  have hlen := h.length
  have htarget := scheduleTarget_eq h hl
  have hcell : l[nextIndex k]? = some (l.getD (nextIndex k) null) := by
    rw [List.getD_eq_getElem?_getD, List.getElem?_eq_getElem hlt, Option.getD_some]
  have hne : scheduleTarget k ≠ null := by
    rw [htarget]
    exact fun he => h.nonnull (he ▸ List.mem_of_getElem? hcell)
  obtain ⟨hcur, -, -⟩ := processSchedule_spec hinit (by omega) hne
  have hpid := h.schedule.pids (nextIndex k) _ hcell
  have hlen' := h.schedule.length
  rw [← htarget] at hpid
  refine ⟨hcur.trans htarget, ?_⟩
  unfold nextIndex at hpid ⊢
  rw [hcur, if_neg hne, hpid, ← hlen']

end Turn

/-! ## A round of turns -/

/-- The turns go through the table, round and round. -/
theorem turns_eq_map {l : List ProcessPtr} (hl : l ≠ []) (n : Nat) :
    ∀ {k : KernelState} {s : Nat}, Table k l → k.pm.initialized = true →
      nextIndex k = s % l.length →
      turns k n = (List.range' s n).map fun i => l.getD (i % l.length) null := by
  induction n with
  | zero => intro k s _ _ _; rfl
  | succ n ih =>
    intro k s h hinit hs
    obtain ⟨hcur, hnext⟩ := turn h hinit hl
    have hrest := ih (s := s + 1) h.schedule ((processSchedule_frame k).2.2.trans hinit) (by
      rw [hnext, hs, Nat.mod_add_mod])
    rw [turns, hcur, hs, hrest, List.range'_succ, List.map_cons]

theorem map_range'_eq_rotate {l : List ProcessPtr} (s : Nat) :
    ((List.range' s l.length).map fun i => l.getD (i % l.length) null) = l.rotate s := by
  refine List.ext_getElem (by simp) fun i hi hi' => ?_
  have hpos : i < l.length := by simpa using hi
  have hmod : (s + i) % l.length < l.length := Nat.mod_lt _ (by omega)
  rw [List.getElem_map, List.getElem_range', Nat.one_mul, List.getElem_rotate,
    List.getD_eq_getElem?_getD, List.getElem?_eq_getElem hmod, Option.getD_some]
  simp [Nat.add_comm]

/-- **As many turns as there are processes are one rotation of the table.** -/
theorem turns_eq_rotate {k : KernelState} {l : List ProcessPtr} (h : Table k l)
    (hinit : l ≠ [] → k.pm.initialized = true) :
    turns k k.pm.processCount = l.rotate (nextIndex k) := by
  have hlen := h.length
  by_cases hl : l = []
  · subst hl
    rw [← hlen]
    simp [turns]
  · rw [← hlen, turns_eq_map hl l.length h (hinit hl)
      (Nat.mod_eq_of_lt (nextIndex_lt h hl)).symm]
    exact map_range'_eq_rotate _

/--
**Every process gets exactly one turn.**

The state is any that `process_init`, `process_create`, `process_destroy` and `process_schedule` lead
to, and `cur` is any process or NULL.
-/
theorem round_robin {calls : List ProcessCall} {k : KernelState}
    (hrun : run processStep KernelState.boot calls = some k) (cur : ProcessPtr) :
    k.live.Nodup ∧ k.live.length = k.pm.processCount ∧
      (turns { k with pm := { k.pm with currentProcess := cur } } k.pm.processCount).Perm k.live := by
  have hinv : ProcessInv k := invariant_run (fun _ _ _ => processInv_step) processInv_boot hrun
  obtain ⟨l, h⟩ := hinv.table
  have hperm : l.Perm k.live :=
    (List.perm_ext_iff_of_nodup h.nodup h.liveNodup).mpr h.live
  have hcurrent : Table { k with pm := { k.pm with currentProcess := cur } } l :=
    h.congr rfl rfl rfl fun _ _ => rfl
  have hinit : l ≠ [] → k.pm.initialized = true := by
    intro hl
    refine hinv.initialized fun hlive => hl ?_
    rw [hlive] at hperm
    exact hperm.eq_nil
  refine ⟨h.liveNodup, hperm.length_eq.symm.trans h.length, ?_⟩
  have hturns := turns_eq_rotate hcurrent hinit
  exact hturns ▸ (List.rotate_perm l _).trans hperm

/-- Three processes are created, the second one runs and the first one is destroyed. -/
def destroyedFirst : List ProcessCall :=
  [.init,
   .create (some [0x61]) 0x1000 0xD0000010 0xD0001000,
   .create (some [0x62]) 0x2000 0xD0000200 0xD0006000,
   .create (some [0x63]) 0x3000 0xD0000400 0xD000B000,
   .schedule,
   .schedule,
   .destroy 0xD0000010]

theorem round_robin_destroyedFirst : ∃ k,
    run processStep KernelState.boot destroyedFirst = some k ∧ k.pm.processCount = 2 ∧
      (turns { k with pm := { k.pm with currentProcess := 0xD0000200 } } k.pm.processCount).Perm
        k.live :=
  ⟨_, rfl, by decide +kernel, (round_robin (rfl : run processStep KernelState.boot destroyedFirst = _) 0xD0000200).2.2⟩

end MayaOs.Kernel
