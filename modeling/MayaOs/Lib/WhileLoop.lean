import Mathlib.Data.Finset.Card
import Mathlib.Order.Basic

/-!
# Loops that go from state to state

`next a` is the state after a turn of the loop in `a`, `none` when the loop is left.

* `reached_iff` — the states that the loop comes to
* `ends_iff_once` — a loop with finitely many states to go on from ends iff it never comes back
* `once_of_lt` — it never comes back when every turn leads to a greater state
-/

namespace MayaOs.Lib

universe u

variable {α : Type u} {next : α → Option α} {a b : α}

/-- The state after `n` turns. -/
def stateAfter (next : α → Option α) : Nat → α → Option α
  | 0, a => some a
  | n + 1, a => (next a).bind (stateAfter next n)

theorem stateAfter_add (m n : Nat) : ∀ a, stateAfter next (m + n) a = (stateAfter next m a).bind (stateAfter next n) := by
  induction m with
  | zero =>
    intro a
    rw [Nat.zero_add]
    rfl
  | succ m ih =>
    intro a
    rw [Nat.succ_add, stateAfter, stateAfter, Option.bind_assoc]
    exact congrArg _ (funext ih)

/-- A loop that was left stays left. -/
theorem stateAfter_none_of_le {m n : Nat} (h : stateAfter next m a = none) (hle : m ≤ n) :
    stateAfter next n a = none := by
  rw [← Nat.add_sub_cancel' hle, stateAfter_add, h, Option.bind_none]

/-- The loop comes to `b`. -/
def Reached (next : α → Option α) (a b : α) : Prop := ∃ n, stateAfter next n a = some b

theorem reached_refl (next : α → Option α) (a : α) : Reached next a a := ⟨0, rfl⟩

theorem reached_iff : Reached next a b ↔ b = a ∨ ∃ c, next a = some c ∧ Reached next c b := by
  constructor
  · rintro ⟨n, hn⟩
    cases n with
    | zero => exact Or.inl (Option.some.inj hn).symm
    | succ n =>
      obtain ⟨c, hc, hrest⟩ := Option.bind_eq_some_iff.mp hn
      exact Or.inr ⟨c, hc, n, hrest⟩
  · rintro (rfl | ⟨c, hc, n, hn⟩)
    · exact reached_refl next b
    · exact ⟨n + 1, by rw [stateAfter, hc]; exact hn⟩

/-- Something happens in this turn or in one of the following. -/
theorem exists_reached_iff {P : α → Prop} :
    (∃ b, Reached next a b ∧ P b) ↔
      P a ∨ ∃ c, next a = some c ∧ ∃ b, Reached next c b ∧ P b := by
  constructor
  · rintro ⟨b, hb, hp⟩
    rcases reached_iff.mp hb with rfl | ⟨c, hc, hcb⟩
    · exact Or.inl hp
    · exact Or.inr ⟨c, hc, b, hcb, hp⟩
  · rintro (hp | ⟨c, hc, b, hcb, hp⟩)
    · exact ⟨a, reached_refl next a, hp⟩
    · exact ⟨b, reached_iff.mpr (Or.inr ⟨c, hc, hcb⟩), hp⟩

/-- No state is come to twice. -/
def Once (next : α → Option α) (a : α) : Prop :=
  ∀ i j b, stateAfter next i a = some b → stateAfter next j a = some b → i = j

/-- A loop that comes back never ends. -/
theorem stateAfter_ne_none_of_back {i j : Nat} (hi : stateAfter next i a = some b) (hj : stateAfter next j a = some b)
    (hlt : i < j) (n : Nat) : stateAfter next n a ≠ none := by
  induction n using Nat.strong_induction_on with
  | h n ih =>
    intro hnone
    by_cases hn : n < j
    · rw [stateAfter_none_of_le hnone (Nat.le_of_lt hn)] at hj
      cases hj
    · -- the same number of turns after the first visit leads to the same end
      refine ih (i + (n - j)) (by omega) ?_
      rw [stateAfter_add, hi, Option.bind_some]
      rwa [← Nat.add_sub_cancel' (Nat.le_of_not_lt hn), stateAfter_add, hj, Option.bind_some] at hnone

/-- **A loop with finitely many states to go on from ends iff it never comes back.** -/
theorem ends_iff_once {S : Finset α} (hS : ∀ a b, next a = some b → a ∈ S) (a : α) :
    (∃ n, stateAfter next n a = none) ↔ Once next a := by
  constructor
  · rintro ⟨n, hn⟩ i j b hi hj
    rcases Nat.lt_trichotomy i j with hlt | rfl | hlt
    · exact absurd hn (stateAfter_ne_none_of_back hi hj hlt n)
    · rfl
    · exact absurd hn (stateAfter_ne_none_of_back hj hi hlt n)
  · intro honce
    by_contra hnever
    have hsome : ∀ n, ∃ b, stateAfter next n a = some b := fun n =>
      Option.ne_none_iff_exists'.mp fun h => hnever ⟨n, h⟩
    choose f hf using hsome
    -- more turns than states to go on from
    have hmaps : ∀ n ∈ Finset.range (S.card + 1), f n ∈ S := by
      intro n _
      have hturn := hf (n + 1)
      rw [stateAfter_add, hf n, Option.bind_some] at hturn
      obtain ⟨c, hc, -⟩ := Option.bind_eq_some_iff.mp hturn
      exact hS _ _ hc
    obtain ⟨i, -, j, -, hne, heq⟩ := Finset.exists_ne_map_eq_of_card_lt_of_maps_to
      (by rw [Finset.card_range]; omega) hmaps
    exact hne (honce i j (f i) (hf i) (by rw [heq]; exact hf j))

/-- **A loop whose turns lead to greater states never comes back.** -/
theorem once_of_lt [Preorder α] (h : ∀ a b, next a = some b → a < b) (a : α) :
    Once next a := by
  have hgrow : ∀ n a b, stateAfter next (n + 1) a = some b → a < b := by
    intro n
    induction n with
    | zero =>
      intro a b hb
      obtain ⟨c, hc, hcb⟩ := Option.bind_eq_some_iff.mp hb
      exact Option.some.inj hcb ▸ h a c hc
    | succ n ih =>
      intro a b hb
      obtain ⟨c, hc, hcb⟩ := Option.bind_eq_some_iff.mp hb
      exact lt_trans (h a c hc) (ih c b hcb)
  have hback : ∀ i j b, stateAfter next i a = some b → stateAfter next j a = some b → ¬ i < j := by
    intro i j b hi hj hlt
    obtain ⟨k, rfl⟩ := Nat.exists_eq_add_of_lt hlt
    rw [Nat.add_assoc, stateAfter_add, hi, Option.bind_some] at hj
    exact lt_irrefl b (hgrow k b b hj)
  intro i j b hi hj
  exact Nat.le_antisymm (Nat.le_of_not_lt (hback j i b hj hi)) (Nat.le_of_not_lt (hback i j b hi hj))

end MayaOs.Lib
