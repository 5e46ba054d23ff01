import Mathlib.Algebra.Ring.Int.Defs
import Mathlib.Algebra.Ring.Nat

/-!
# 32-bit integers as numbers

* `wrap32` — `uint32_t` and `size_t` arithmetic on natural numbers
* `int32` — `int32_t` arithmetic on integers
* `or_eq_add`, `and_pageMask` — bits set and cleared at the low end
-/

namespace MayaOs.Lib

/-- `uint32_t` arithmetic. -/
def wrap32 (n : Nat) : Nat := n % 2 ^ 32

theorem wrap32_lt (n : Nat) : wrap32 n < 2 ^ 32 := Nat.mod_lt n (by decide)

theorem wrap32_eq_self {n : Nat} (h : n < 2 ^ 32) : wrap32 n = n := Nat.mod_eq_of_lt h

/-- `int32_t` arithmetic. -/
def int32 (x : Int) : Int := x.bmod (2 ^ 32)

theorem int32_ge (x : Int) : -2 ^ 31 ≤ int32 x := by
  rw [int32, Int.bmod_def]
  split <;> omega

theorem int32_lt (x : Int) : int32 x < 2 ^ 31 := by
  rw [int32, Int.bmod_def]
  split <;> omega

theorem int32_le {x : Int} (hx : -2 ^ 31 ≤ x) : int32 x ≤ x := by
  rw [int32, Int.bmod_def]
  split <;> omega

theorem int32_eq_self {x : Int} (hlow : -2 ^ 31 ≤ x) (hhigh : x < 2 ^ 31) : int32 x = x := by
  rw [int32, Int.bmod_def]
  split <;> omega

/-! ## bits -/

/-- Bits set below those that a number has. -/
theorem or_eq_add {a b n : Nat} (ha : 2 ^ n ∣ a) (hb : b < 2 ^ n) : a ||| b = a + b := by
  obtain ⟨k, rfl⟩ := ha
  rw [Nat.mul_comm, ← Nat.shiftLeft_eq, Nat.shiftLeft_add_eq_or_of_lt hb]

/-- The twelve low bits cleared. -/
theorem and_pageMask {x : Nat} (h : x < 2 ^ 32) : x &&& 0xFFFFF000 = x / 4096 * 4096 := by
  have hdiv : (x &&& 0xFFFFF000) / 2 ^ 12 = x / 4096 := by
    rw [Nat.and_div_two_pow]
    show x / 4096 &&& 2 ^ 20 - 1 = _
    rw [Nat.and_two_pow_sub_one_eq_mod]
    omega
  have hmod : (x &&& 0xFFFFF000) % 2 ^ 12 = 0 := by
    rw [Nat.and_mod_two_pow]
    exact Nat.and_zero _
  omega

end MayaOs.Lib
