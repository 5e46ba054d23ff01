import Mathlib.Data.Nat.Bitwise

/-!
# Bytes packed in a word

* `channel_and`, `channel_or` — bitwise operations act byte by byte
* `and_outer`, `and_middle` — masks that keep the outer bytes or the middle one of three
* `low_pair_div`, `high_pair_div` — two packed sums that are shifted down together do not mix
* `mix_le` — a weighted sum of bytes
* `mod_eq_iff_channel` — three bytes determine a number up to 24 bits
-/

namespace MayaOs.Lib

/-- The `k`-th byte. -/
def channel (n k : Nat) : Nat := n / 2 ^ (8 * k) % 256

theorem channel_lt (n k : Nat) : channel n k < 256 := Nat.mod_lt _ (by decide)

theorem channel_and (m n k : Nat) : channel (m &&& n) k = channel m k &&& channel n k := by
  unfold channel
  rw [Nat.and_div_two_pow, show 256 = 2 ^ 8 from rfl, Nat.and_mod_two_pow]

theorem channel_or (m n k : Nat) : channel (m ||| n) k = channel m k ||| channel n k := by
  unfold channel
  rw [Nat.or_div_two_pow, show 256 = 2 ^ 8 from rfl, Nat.or_mod_two_pow]

theorem and_255 (n k : Nat) : channel n k &&& 255 = channel n k := by
  rw [show 255 = 2 ^ 8 - 1 from rfl, Nat.and_two_pow_sub_one_eq_mod]
  exact Nat.mod_eq_of_lt (channel_lt n k)

/-- The outer two of three bytes. -/
theorem and_outer (n : Nat) : n &&& 0xFF00FF = channel n 0 + 65536 * channel n 2 := by
  have hlow : (n &&& 0xFF00FF) % 2 ^ 16 = n % 256 := by
    rw [Nat.and_mod_two_pow]
    show n % 2 ^ 16 &&& 2 ^ 8 - 1 = _
    rw [Nat.and_two_pow_sub_one_eq_mod]
    omega
  have hhigh : (n &&& 0xFF00FF) / 2 ^ 16 = n / 65536 % 256 := by
    rw [Nat.and_div_two_pow]
    exact Nat.and_two_pow_sub_one_eq_mod _ 8
  unfold channel
  omega

/-- The middle one of three bytes. -/
theorem and_middle (n : Nat) : n &&& 0x00FF00 = 256 * channel n 1 := by
  have hlow : (n &&& 0x00FF00) % 2 ^ 8 = 0 := by
    rw [Nat.and_mod_two_pow]
    exact Nat.and_zero _
  have hhigh : (n &&& 0x00FF00) / 2 ^ 8 = n / 256 % 256 := by
    rw [Nat.and_div_two_pow]
    exact Nat.and_two_pow_sub_one_eq_mod _ 8
  unfold channel
  omega

/-- The lower of two sums shifted down together. -/
theorem low_pair_div {low high : Nat} (hlow : low < 65536) :
    channel ((low + 65536 * high) / 256) 0 = low / 256 := by
  unfold channel
  omega

theorem channel_one {n : Nat} (h : n < 65536) : channel n 1 = n / 256 := by
  unfold channel
  omega

/-- The higher of two sums shifted down together. -/
theorem high_pair_div {low high : Nat} (hlow : low < 65536) (hhigh : high < 65536) :
    channel ((low + 65536 * high) / 256) 2 = high / 256 := by
  unfold channel
  omega

/-- A weighted sum of bytes, the weights adding up to 255. -/
theorem mix_le {d c a : Nat} (hd : d ≤ 255) (hc : c ≤ 255) (ha : a ≤ 255) :
    d * (255 - a) + c * a ≤ 65025 := by
  have h1 : d * (255 - a) ≤ 255 * (255 - a) := Nat.mul_le_mul_right _ hd
  have h2 : c * a ≤ 255 * a := Nat.mul_le_mul_right _ hc
  omega

/-- Three bytes, taken one by one. -/
theorem mod_eq_iff_channel {m n : Nat} :
    m % 2 ^ 24 = n % 2 ^ 24 ↔ ∀ k < 3, channel m k = channel n k := by
  unfold channel
  constructor
  · intro h k hk
    obtain rfl | rfl | rfl : k = 0 ∨ k = 1 ∨ k = 2 := by omega
    · omega
    · omega
    · omega
  · intro h
    have h0 := h 0 (by decide)
    have h1 := h 1 (by decide)
    have h2 := h 2 (by decide)
    omega

end MayaOs.Lib
