import MayaOs.Lib.Bytes

/-!
# One's-complement sums of 16-bit words

The Internet checksum (RFC 1071) adds the words of a buffer, taken as big-endian numbers, with the
carry coming back in at the low end, and complements the result.

* `onesSum_eq_residue` — adding up first and folding the carries afterwards makes no difference
* `residue_swap` — nor does the byte order, if the bytes of the result are swapped as well
* `littleEndianWords_eq` — the words as a little-endian machine reads them
-/

namespace MayaOs.Lib

/-! ## Sums -/

/-- Addition with the carry coming back in at the low end. -/
def addCarry (a b : Nat) : Nat := (a + b) % 65536 + (a + b) / 65536

def onesSum (ws : List Nat) : Nat := ws.foldl addCarry 0

/-- What is left of `n` when all carries have been added back: 0 only for 0. -/
def residue (n : Nat) : Nat := if n = 0 then 0 else (n - 1) % 65535 + 1

theorem residue_le (n : Nat) : residue n ≤ 65535 := by
  unfold residue
  split <;> omega

/-- The residue is the number up to 65535 that is congruent, and 0 only for 0. -/
theorem residue_unique {n x : Nat} (hx : x ≤ 65535) (hmod : x % 65535 = n % 65535)
    (hzero : x = 0 ↔ n = 0) : residue n = x := by
  unfold residue
  split <;> omega

theorem residue_mod (n : Nat) : residue n % 65535 = n % 65535 := by
  unfold residue
  split <;> omega

theorem residue_eq_zero_iff {n : Nat} : residue n = 0 ↔ n = 0 := by
  unfold residue
  split <;> omega

/-- Numbers with the same residue. -/
theorem residue_congr {m n : Nat} (hmod : m % 65535 = n % 65535) (hzero : m = 0 ↔ n = 0) :
    residue m = residue n :=
  residue_unique (residue_le n) (by rw [residue_mod, hmod]) (by rw [residue_eq_zero_iff, hzero])

theorem addCarry_residue (n : Nat) {w : Nat} (hw : w < 65536) :
    addCarry (residue n) w = residue (n + w) := by
  have hle := residue_le n
  have hmod := residue_mod n
  have hzero : residue n = 0 ↔ n = 0 := residue_eq_zero_iff
  unfold addCarry
  exact (residue_unique (by omega) (by omega) (by omega)).symm

theorem foldl_addCarry_residue {ws : List Nat} (h : ∀ w ∈ ws, w < 65536) (n : Nat) :
    ws.foldl addCarry (residue n) = residue (n + ws.sum) := by
  induction ws generalizing n with
  | nil => simp
  | cons w ws ih =>
    obtain ⟨hw, hws⟩ := List.forall_mem_cons.mp h
    rw [List.foldl_cons, addCarry_residue n hw, ih hws, List.sum_cons, Nat.add_assoc]

/-- **Carries can be added back once at the end.** -/
theorem onesSum_eq_residue {ws : List Nat} (h : ∀ w ∈ ws, w < 65536) :
    onesSum ws = residue ws.sum := by
  have hfold := foldl_addCarry_residue h 0
  rw [Nat.zero_add] at hfold
  exact hfold

/-! ## Byte order -/

def swapBytes (w : Nat) : Nat := w / 256 + 256 * (w % 256)

theorem swapBytes_lt {w : Nat} (h : w < 65536) : swapBytes w < 65536 := by
  unfold swapBytes
  omega

/-- Modulo 65535 swapping the bytes is multiplication by 256. -/
theorem swapBytes_mod (w : Nat) : swapBytes w % 65535 = 256 * w % 65535 := by
  unfold swapBytes
  omega

theorem swapBytes_eq_zero_iff {w : Nat} : swapBytes w = 0 ↔ w = 0 := by
  unfold swapBytes
  omega

theorem swapBytes_compl {w : Nat} (h : w < 65536) :
    swapBytes (65535 - w) = 65535 - swapBytes w := by
  unfold swapBytes
  omega

theorem sum_map_swapBytes_mod (ws : List Nat) :
    (ws.map swapBytes).sum % 65535 = 256 * ws.sum % 65535 := by
  induction ws with
  | nil => rfl
  | cons w ws ih =>
    have hhead := swapBytes_mod w
    rw [List.map_cons, List.sum_cons, List.sum_cons]
    omega

theorem sum_map_swapBytes_eq_zero_iff (ws : List Nat) :
    (ws.map swapBytes).sum = 0 ↔ ws.sum = 0 := by
  induction ws with
  | nil => rfl
  | cons w ws ih =>
    have hhead : swapBytes w = 0 ↔ w = 0 := swapBytes_eq_zero_iff
    rw [List.map_cons, List.sum_cons, List.sum_cons]
    omega

/-- **The sum of the swapped words is the swapped sum.** -/
theorem residue_swap (ws : List Nat) :
    residue (ws.map swapBytes).sum = swapBytes (residue ws.sum) := by
  have hle := residue_le ws.sum
  have hmod := residue_mod ws.sum
  have hswap := swapBytes_mod (residue ws.sum)
  have hsum := sum_map_swapBytes_mod ws
  refine residue_unique (Nat.le_of_lt_succ (swapBytes_lt (Nat.lt_succ_of_le hle))) ?_ ?_
  · omega
  · rw [swapBytes_eq_zero_iff, residue_eq_zero_iff, sum_map_swapBytes_eq_zero_iff]

/-! ## The words of a buffer -/

/-- The words in network byte order; an odd last byte is followed by a zero byte. -/
def bigEndianWords : Bytes → List Nat
  | a :: b :: rest => (256 * a.toNat + b.toNat) :: bigEndianWords rest
  | [a] => [256 * a.toNat]
  | [] => []

/-- The words as a little-endian machine reads them. -/
def littleEndianWords : Bytes → List Nat
  | a :: b :: rest => (a.toNat + 256 * b.toNat) :: littleEndianWords rest
  | [a] => [a.toNat]
  | [] => []

/-- The complement of the one's-complement sum of the words. -/
def internetChecksum (b : Bytes) : Nat := 65535 - onesSum (bigEndianWords b)

/-- The two bytes of a number, the high one first. -/
def be16 (n : Nat) : Bytes := [UInt8.ofNat (n / 256), UInt8.ofNat n]

@[simp] theorem length_be16 (n : Nat) : (be16 n).length = 2 := rfl

theorem bigEndianWords_lt (b : Bytes) : ∀ w ∈ bigEndianWords b, w < 65536 := by
  induction b using bigEndianWords.induct with
  | case1 a b rest ih =>
    have ha := a.toNat_lt
    have hb := b.toNat_lt
    refine List.forall_mem_cons.mpr ⟨by omega, ih⟩
  | case2 a =>
    have ha := a.toNat_lt
    refine List.forall_mem_cons.mpr ⟨by omega, by simp⟩
  | case3 => simp [bigEndianWords]

theorem littleEndianWords_eq (b : Bytes) :
    littleEndianWords b = (bigEndianWords b).map swapBytes := by
  induction b using bigEndianWords.induct with
  | case1 a b rest ih =>
    have ha := a.toNat_lt
    have hb := b.toNat_lt
    have hswap : swapBytes (256 * a.toNat + b.toNat) = a.toNat + 256 * b.toNat := by
      unfold swapBytes
      omega
    rw [littleEndianWords, bigEndianWords, List.map_cons, hswap, ih]
  | case2 a =>
    have ha := a.toNat_lt
    have hswap : swapBytes (256 * a.toNat) = a.toNat := by
      unfold swapBytes
      omega
    rw [littleEndianWords, bigEndianWords, List.map_singleton, hswap]
  | case3 => rfl

theorem littleEndianWords_lt (b : Bytes) : ∀ w ∈ littleEndianWords b, w < 65536 := by
  rw [littleEndianWords_eq]
  intro w hw
  obtain ⟨v, hv, rfl⟩ := List.mem_map.mp hw
  exact swapBytes_lt (bigEndianWords_lt b v hv)

theorem length_bigEndianWords (b : Bytes) : (bigEndianWords b).length = (b.length + 1) / 2 := by
  induction b using bigEndianWords.induct with
  | case1 a b rest ih =>
    rw [bigEndianWords, List.length_cons, ih, List.length_cons, List.length_cons]
    omega
  | case2 a => simp [bigEndianWords]
  | case3 => rfl

theorem sum_le_of_lt {ws : List Nat} (h : ∀ w ∈ ws, w < 65536) : ws.sum ≤ 65535 * ws.length := by
  induction ws with
  | nil => simp
  | cons w ws ih =>
    obtain ⟨hw, hws⟩ := List.forall_mem_cons.mp h
    have htail := ih hws
    rw [List.sum_cons, List.length_cons]
    omega

/-- Behind an even number of bytes the words start anew. -/
theorem bigEndianWords_append {a : Bytes} (h : a.length % 2 = 0) (b : Bytes) :
    bigEndianWords (a ++ b) = bigEndianWords a ++ bigEndianWords b := by
  induction a using bigEndianWords.induct with
  | case1 x y rest ih =>
    rw [List.length_cons, List.length_cons] at h
    rw [List.cons_append, List.cons_append, bigEndianWords, bigEndianWords, ih (by omega),
      List.cons_append]
  | case2 x => simp at h
  | case3 => rfl

theorem littleEndianWords_append {a : Bytes} (h : a.length % 2 = 0) (b : Bytes) :
    littleEndianWords (a ++ b) = littleEndianWords a ++ littleEndianWords b := by
  rw [littleEndianWords_eq, bigEndianWords_append h, List.map_append, ← littleEndianWords_eq,
    ← littleEndianWords_eq]

theorem toNat_u16 (a b : UInt8) : (u16 a b).toNat = a.toNat + 256 * b.toNat := by
  have ha := a.toNat_lt
  have hb := b.toNat_lt
  rw [u16, UInt16.toNat_ofNat', Nat.mod_eq_of_lt (by omega)]

/-- The words of a buffer of even length, by their indices. -/
theorem littleEndianWords_eq_map {b : Bytes} {n : Nat} (h : b.length = 2 * n) :
    littleEndianWords b = (List.range n).map fun i => (u16At b (2 * i)).toNat := by
  induction b using littleEndianWords.induct generalizing n with
  | case1 x y rest ih =>
    rw [List.length_cons, List.length_cons] at h
    obtain ⟨m, rfl⟩ : ∃ m, n = m + 1 := ⟨n - 1, by omega⟩
    have hshift : ∀ i, u16At (x :: y :: rest) (2 * (i + 1)) = u16At rest (2 * i) := fun _ => rfl
    rw [littleEndianWords, ih (n := m) (by omega), List.range_succ_eq_map, List.map_cons,
      List.map_map]
    refine List.cons_eq_cons.mpr ⟨(toNat_u16 x y).symm, ?_⟩
    exact List.map_congr_left fun i _ => by rw [Function.comp_apply, hshift]
  | case2 x =>
    rw [List.length_singleton] at h
    omega
  | case3 =>
    obtain rfl : n = 0 := by simpa using h.symm
    rfl

theorem sum_littleEndianWords_le32 (x : UInt32) :
    (littleEndianWords (le32 x)).sum = x.toNat / 65536 + x.toNat % 65536 := by
  have hx := x.toNat_lt
  simp only [le32, littleEndianWords, UInt8.toNat_ofNat', List.sum_cons, List.sum_nil]
  omega

theorem sum_littleEndianWords_be16 {n : Nat} (h : n < 65536) :
    (littleEndianWords (be16 n)).sum = swapBytes n := by
  simp only [be16, littleEndianWords, UInt8.toNat_ofNat', List.sum_cons, List.sum_nil, swapBytes]
  omega

end MayaOs.Lib
