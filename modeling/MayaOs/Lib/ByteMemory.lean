import Mathlib.Logic.Function.Basic
import MayaOs.Lib.MachineInt

/-!
# A memory of bytes

Addresses have 32 bits, words are little-endian. Words near the end of memory wrap around; the
lemmas are about those that do not.

* `word_storeWord` — a word is read as it was written
* `storeWord_apply`, `word_congr` — a write reaches four bytes, a read depends on four bytes
* `word_storeWord_of_apart` — words apart from each other
* `memset_apply`, `word_memset` — a region filled with one byte
-/

namespace MayaOs.Lib

/-- The byte at each address below 2^32. -/
abbrev ByteMemory := Nat → UInt8

/-- The word at `a`. -/
def word (m : ByteMemory) (a : Nat) : Nat :=
  (m (wrap32 a)).toNat + 256 * (m (wrap32 (a + 1))).toNat + 65536 * (m (wrap32 (a + 2))).toNat +
    16777216 * (m (wrap32 (a + 3))).toNat

def storeByte (m : ByteMemory) (a : Nat) (v : UInt8) : ByteMemory := Function.update m (wrap32 a) v

/-- The lowest byte goes first. -/
def storeWord (m : ByteMemory) (a v : Nat) : ByteMemory :=
  storeByte (storeByte (storeByte (storeByte m a (UInt8.ofNat v)) (a + 1) (UInt8.ofNat (v / 256)))
    (a + 2) (UInt8.ofNat (v / 65536))) (a + 3) (UInt8.ofNat (v / 16777216))

/-- `n` bytes from `a` on. -/
def memset (m : ByteMemory) (a : Nat) (v : UInt8) (n : Nat) : ByteMemory :=
  fun x => if wrap32 (x + 2 ^ 32 - a) < n then v else m x

variable {m : ByteMemory} {a : Nat}

theorem word_lt (m : ByteMemory) (a : Nat) : word m a < 2 ^ 32 := by
  have h0 := (m (wrap32 a)).toNat_lt
  have h1 := (m (wrap32 (a + 1))).toNat_lt
  have h2 := (m (wrap32 (a + 2))).toNat_lt
  have h3 := (m (wrap32 (a + 3))).toNat_lt
  unfold word
  omega

theorem storeByte_self (m : ByteMemory) (h : a < 2 ^ 32) (v : UInt8) : storeByte m a v a = v := by
  rw [storeByte, wrap32_eq_self h, Function.update_self]

theorem storeByte_apply (m : ByteMemory) (h : a < 2 ^ 32) (v : UInt8) {x : Nat} (hx : x ≠ a) :
    storeByte m a v x = m x := by
  rw [storeByte, wrap32_eq_self h, Function.update_of_ne hx]

theorem storeWord_apply (m : ByteMemory) (h : a + 4 ≤ 2 ^ 32) (v : Nat) {x : Nat}
    (hx : x < a ∨ a + 4 ≤ x) : storeWord m a v x = m x := by
  unfold storeWord
  rw [storeByte_apply _ (by omega) _ (by omega), storeByte_apply _ (by omega) _ (by omega),
    storeByte_apply _ (by omega) _ (by omega), storeByte_apply _ (by omega) _ (by omega)]

theorem word_congr {m' : ByteMemory} (h : a + 4 ≤ 2 ^ 32)
    (heq : ∀ x, a ≤ x → x < a + 4 → m' x = m x) : word m' a = word m a := by
  unfold word
  rw [wrap32_eq_self (by omega), wrap32_eq_self (by omega), wrap32_eq_self (by omega),
    wrap32_eq_self (by omega), heq a (by omega) (by omega), heq (a + 1) (by omega) (by omega),
    heq (a + 2) (by omega) (by omega), heq (a + 3) (by omega) (by omega)]

/-- **A word is read as it was written.** -/
theorem word_storeWord (m : ByteMemory) (h : a + 4 ≤ 2 ^ 32) {v : Nat} (hv : v < 2 ^ 32) :
    word (storeWord m a v) a = v := by
  have h0 : storeWord m a v a = UInt8.ofNat v := by
    unfold storeWord
    rw [storeByte_apply _ (by omega) _ (by omega), storeByte_apply _ (by omega) _ (by omega),
      storeByte_apply _ (by omega) _ (by omega), storeByte_self _ (by omega)]
  have h1 : storeWord m a v (a + 1) = UInt8.ofNat (v / 256) := by
    unfold storeWord
    rw [storeByte_apply _ (by omega) _ (by omega), storeByte_apply _ (by omega) _ (by omega),
      storeByte_self _ (by omega)]
  have h2 : storeWord m a v (a + 2) = UInt8.ofNat (v / 65536) := by
    unfold storeWord
    rw [storeByte_apply _ (by omega) _ (by omega), storeByte_self _ (by omega)]
  have h3 : storeWord m a v (a + 3) = UInt8.ofNat (v / 16777216) := by
    unfold storeWord
    rw [storeByte_self _ (by omega)]
  unfold word
  rw [wrap32_eq_self (by omega), wrap32_eq_self (by omega), wrap32_eq_self (by omega),
    wrap32_eq_self (by omega), h0, h1, h2, h3]
  simp only [UInt8.toNat_ofNat']
  omega

theorem word_storeWord_of_apart (m : ByteMemory) {b : Nat} (ha : a + 4 ≤ 2 ^ 32)
    (hb : b + 4 ≤ 2 ^ 32) (h : a + 4 ≤ b ∨ b + 4 ≤ a) (v : Nat) :
    word (storeWord m a v) b = word m b :=
  word_congr hb fun _ _ _ => storeWord_apply m ha v (by omega)

theorem memset_apply (m : ByteMemory) (v : UInt8) {n x : Nat} (ha : a + n ≤ 2 ^ 32)
    (hx : x < 2 ^ 32) : memset m a v n x = if a ≤ x ∧ x < a + n then v else m x := by
  have hdist : wrap32 (x + 2 ^ 32 - a) = if a ≤ x then x - a else x + 2 ^ 32 - a := by
    unfold wrap32
    split <;> omega
  unfold memset
  rw [hdist]
  split <;> split <;> split <;> first | rfl | omega

theorem word_memset (m : ByteMemory) {n b : Nat} (ha : a + n ≤ 2 ^ 32) (hb : a ≤ b)
    (hn : b + 4 ≤ a + n) : word (memset m a 0 n) b = 0 := by
  have hzero : ∀ x, b ≤ x → x < b + 4 → memset m a 0 n x = 0 := fun x hx hlt => by
    rw [memset_apply m 0 ha (by omega), if_pos (by omega)]
  rw [word_congr (m := fun _ => 0) (by omega) hzero]
  rfl

theorem word_memset_of_apart (m : ByteMemory) (v : UInt8) {n b : Nat} (ha : a + n ≤ 2 ^ 32)
    (hb : b + 4 ≤ 2 ^ 32) (h : b + 4 ≤ a ∨ a + n ≤ b) : word (memset m a v n) b = word m b :=
  word_congr hb fun x _ _ => by rw [memset_apply m v ha (by omega), if_neg (by omega)]

end MayaOs.Lib
