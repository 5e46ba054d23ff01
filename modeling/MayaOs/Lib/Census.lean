import Mathlib.Data.Finset.Card

/-!
# Counting the parties at a place

Each of possibly infinitely many parties is somewhere; `Census place P n` says that exactly `n` of them
are at a place that satisfies `P`.

* `Census.enter`, `Census.leave`, `Census.stay` — one party moves
* `Census.move` — the three in one, for a place that is tested by a function
* `Census.eq_zero` — nobody is there
-/

namespace MayaOs.Lib

universe u v

variable {ι : Type u} {β : Type v}

/-- Exactly `n` parties are at a place with `P`. -/
def Census (place : ι → β) (P : β → Prop) (n : Nat) : Prop :=
  ∃ S : Finset ι, (∀ i, i ∈ S ↔ P (place i)) ∧ S.card = n

variable {place : ι → β} {P : β → Prop} {n : Nat} {i : ι} {b : β}

theorem Census.none (h : ∀ i, ¬ P (place i)) : Census place P 0 :=
  ⟨∅, by simpa using h, rfl⟩

theorem Census.eq_zero (hc : Census place P n) (h : ∀ i, ¬ P (place i)) : n = 0 := by
  obtain ⟨S, hS, rfl⟩ := hc
  rw [Finset.card_eq_zero, Finset.eq_empty_iff_forall_notMem]
  intro i hi
  exact h i ((hS i).mp hi)

/-- Somebody is there. -/
theorem Census.pos (hc : Census place P n) (h : P (place i)) : 0 < n := by
  obtain ⟨S, hS, rfl⟩ := hc
  exact Finset.card_pos.mpr ⟨i, (hS i).mpr h⟩

variable [DecidableEq ι]

/-- A party moves without crossing the border of `P`. -/
theorem Census.stay (hc : Census place P n) (h : P b ↔ P (place i)) :
    Census (Function.update place i b) P n := by
  obtain ⟨S, hS, hn⟩ := hc
  refine ⟨S, fun j => ?_, hn⟩
  rcases eq_or_ne j i with rfl | hj
  · rw [Function.update_self, h, hS]
  · rw [Function.update_of_ne hj, hS]

/-- A party arrives. -/
theorem Census.enter (hc : Census place P n) (hold : ¬ P (place i)) (hnew : P b) :
    Census (Function.update place i b) P (n + 1) := by
  obtain ⟨S, hS, rfl⟩ := hc
  have hi : i ∉ S := by rwa [hS]
  refine ⟨insert i S, fun j => ?_, Finset.card_insert_of_notMem hi⟩
  rcases eq_or_ne j i with rfl | hj
  · simp [hnew]
  · simp [hj, hS]

/-- A party leaves. -/
theorem Census.leave (hc : Census place P n) (hold : P (place i)) (hnew : ¬ P b) :
    0 < n ∧ Census (Function.update place i b) P (n - 1) := by
  obtain ⟨S, hS, rfl⟩ := hc
  have hi : i ∈ S := (hS i).mpr hold
  refine ⟨Finset.card_pos.mpr ⟨i, hi⟩, S.erase i, fun j => ?_, Finset.card_erase_of_mem hi⟩
  rcases eq_or_ne j i with rfl | hj
  · simp [hnew]
  · simp [hj, hS]

/-- Whatever a party does, the count follows the change of its own place. -/
theorem Census.move {f : β → Bool} (hc : Census place (fun x => f x = true) n) (i : ι) (b : β) :
    ∃ m, Census (Function.update place i b) (fun x => f x = true) m ∧
      m + (f (place i)).toNat = n + (f b).toNat := by
  cases hold : f (place i) with
  | true =>
    cases hnew : f b with
    | true => exact ⟨n, hc.stay (by simp [hold, hnew]), rfl⟩
    | false =>
      obtain ⟨hpos, hc'⟩ := hc.leave (b := b) hold (by simp [hnew])
      refine ⟨n - 1, hc', ?_⟩
      simp only [Bool.toNat_true, Bool.toNat_false]
      omega
  | false =>
    cases hnew : f b with
    | true => exact ⟨n + 1, hc.enter (by simp [hold]) hnew, rfl⟩
    | false => exact ⟨n, hc.stay (by simp [hold, hnew]), rfl⟩

end MayaOs.Lib
