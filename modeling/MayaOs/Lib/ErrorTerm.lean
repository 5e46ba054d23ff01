import Mathlib.Algebra.Order.Ring.Int
import Mathlib.Tactic.Linarith

/-!
# Counting with an error term

Of `n` turns, `m` are picked as evenly as possible: a turn takes `m` off the error and, when that
would make it negative, adds `n` and is picked.

* `Tracks.picked`, `Tracks.passed` — one turn
* `Tracks.all` — after `n` turns `m` were picked
* `Tracks.le` — never more than `m`
-/

namespace MayaOs.Lib

/-- After `a` turns `b` were picked, and the error is `e`. -/
structure Tracks (n m e₀ a b e : Int) : Prop where
  low : 0 ≤ e
  high : e < n
  sum : e + m * a = e₀ + n * b

variable {n m e₀ a b e : Int}

theorem Tracks.start (hlow : 0 ≤ e₀) (hhigh : e₀ < n) : Tracks n m e₀ 0 0 e₀ :=
  ⟨hlow, hhigh, by simp⟩

/-- A turn that is picked. -/
theorem Tracks.picked (h : Tracks n m e₀ a b e) (hm : m ≤ n) (he : e < m) :
    Tracks n m e₀ (a + 1) (b + 1) (e - m + n) where
  low := by have := h.low; omega
  high := by omega
  sum := by linarith [h.sum]

/-- A turn that is not. -/
theorem Tracks.passed (h : Tracks n m e₀ a b e) (hm : 0 ≤ m) (he : m ≤ e) :
    Tracks n m e₀ (a + 1) b (e - m) where
  low := by omega
  high := by have := h.high; omega
  sum := by linarith [h.sum]

/-- **After all turns the right number was picked.** -/
theorem Tracks.all (h : Tracks n m e₀ n b e) (hlow : 0 ≤ e₀) (hhigh : e₀ < n) : b = m := by
  have hsum : n * (b - m) = e - e₀ := by linarith [h.sum]
  have hn : 0 < n := by omega
  have hlt : b - m < 1 := by
    refine lt_of_mul_lt_mul_left (a := n) ?_ (by omega)
    have := h.high
    omega
  have hgt : -1 < b - m := by
    refine lt_of_mul_lt_mul_left (a := n) ?_ (by omega)
    have := h.low
    omega
  omega

/-- **At no time were more than that picked**, or fewer than none. -/
theorem Tracks.le (h : Tracks n m e₀ a b e) (hlow : 0 ≤ e₀) (hhigh : e₀ < n)
    (hm : 0 ≤ m) (ha : 0 ≤ a) (han : a ≤ n) : 0 ≤ b ∧ b ≤ m := by
  have hsum := h.sum
  have hma : 0 ≤ m * a := mul_nonneg hm ha
  have hman : m * a ≤ m * n := mul_le_mul_of_nonneg_left han hm
  constructor
  · have hgt : -1 < b := by
      refine lt_of_mul_lt_mul_left (a := n) ?_ (by omega)
      have := h.low
      omega
    omega
  · have hlt : b < m + 1 := by
      refine lt_of_mul_lt_mul_left (a := n) ?_ (by omega)
      have := h.high
      linarith
    omega

end MayaOs.Lib
