import Mathlib.Data.List.Basic
import Mathlib.Data.List.Nodup

/-!
# Loops

* `foldl_range_inv` — the invariant of a loop that counts
* `mem_intRange` — the numbers that a loop over integers counts through
* `foldlM_flatMap_of_inv` — for loops that can fail: a loop within a loop is one loop
-/

namespace MayaOs.Lib

variable {σ α β ε : Type}

/-- **What holds at the beginning and is carried from each turn to the next holds at the end.** -/
theorem foldl_range_inv {P : Nat → σ → Prop} {f : σ → Nat → σ} :
    ∀ {n : Nat} {s : σ}, P 0 s → (∀ k s, k < n → P k s → P (k + 1) (f s k)) →
      P n ((List.range n).foldl f s) := by
  intro n
  induction n with
  | zero => intro s h _; exact h
  | succ n ih =>
    intro s h hstep
    rw [List.range_succ, List.foldl_append]
    exact hstep n _ (Nat.lt_succ_self n) (ih h fun k s hk => hstep k s (Nat.lt_succ_of_lt hk))

/-- The values of `i` in `for (int i = a; i < b; i++)`. -/
def intRange (a b : Int) : List Int := (List.range (b - a).toNat).map fun k : Nat => a + k

theorem mem_intRange {a b i : Int} : i ∈ intRange a b ↔ a ≤ i ∧ i < b := by
  unfold intRange
  rw [List.mem_map]
  constructor
  · rintro ⟨k, hk, rfl⟩
    rw [List.mem_range] at hk
    omega
  · rintro ⟨hlow, hhigh⟩
    exact ⟨(i - a).toNat, by rw [List.mem_range]; omega, by omega⟩

theorem nodup_intRange (a b : Int) : (intRange a b).Nodup :=
  List.nodup_range.map fun i j (h : a + (i : Int) = a + (j : Int)) => by omega

theorem bind_congr_of_ok {r : Except ε α} {f g : α → Except ε β}
    (h : ∀ a, r = .ok a → f a = g a) : (r >>= f) = (r >>= g) := by
  cases r with
  | error e => rfl
  | ok a => exact h a rfl

/-- What every step keeps, the loop keeps. -/
theorem foldlM_inv (P : σ → Prop) {g : σ → β → Except ε σ} :
    ∀ {bs : List β}, (∀ b ∈ bs, ∀ s s', P s → g s b = .ok s' → P s') →
      ∀ {s s' : σ}, P s → bs.foldlM g s = .ok s' → P s' := by
  intro bs
  induction bs with
  | nil =>
    intro _ s s' hs hrun
    cases hrun
    exact hs
  | cons b bs ih =>
    intro hg s s' hs hrun
    rw [List.foldlM_cons] at hrun
    cases hstep : g s b with
    | error e =>
      rw [hstep] at hrun
      cases hrun
    | ok s1 =>
      rw [hstep] at hrun
      exact ih (fun b hb => hg b (List.mem_cons_of_mem _ hb)) (hg b List.mem_cons_self s s1 hs hstep)
        hrun

/-- **A loop whose body is itself a loop runs through the concatenation**, when the inner lists
depend on the state only through what `P` fixes. -/
theorem foldlM_flatMap_of_inv (P : σ → Prop) {f : σ → α → Except ε σ} {g : σ → β → Except ε σ}
    {h : α → List β} :
    ∀ (l : List α), (∀ a ∈ l, ∀ b ∈ h a, ∀ s s', P s → g s b = .ok s' → P s') →
      (∀ a ∈ l, ∀ s, P s → f s a = (h a).foldlM g s) → ∀ s, P s →
        l.foldlM f s = (l.flatMap h).foldlM g s := by
  intro l
  induction l with
  | nil => intro _ _ s _; rfl
  | cons a l ih =>
    intro hg hf s hs
    rw [List.foldlM_cons, List.flatMap_cons, List.foldlM_append, hf a List.mem_cons_self s hs]
    cases hrun : (h a).foldlM g s with
    | error e => rfl
    | ok s1 =>
      exact ih (fun a ha => hg a (List.mem_cons_of_mem _ ha))
        (fun a ha => hf a (List.mem_cons_of_mem _ ha)) s1
        (foldlM_inv P (hg a List.mem_cons_self) hs hrun)

end MayaOs.Lib
