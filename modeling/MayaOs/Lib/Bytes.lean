import Mathlib.Algebra.Ring.Nat
import Mathlib.Data.List.Basic
import Mathlib.Data.List.TakeWhile

/-!
# Buffers of bytes

Reading and writing at an index of a buffer fails outside it. Integers are little-endian.

* `read16_eq`, `read32_eq`, `slice_eq` — what is read inside a buffer
* `write_append`, `write_append_end`, `write_middle` — writing behind a part of known length
* `writeFields_append` — filling a structure field by field
* `write_header_congr` — filling a block from its start, the former contents do not matter
* `swap16_swap16` — the byte order conversion is its own inverse
* `u16_le16`, `u32_le32` — decoding undoes encoding
* `cString` — what a buffer holds as a string
-/

namespace MayaOs.Lib

abbrev Bytes := List UInt8

/-- The characters before the first NUL. -/
def cString (buf : Bytes) : Bytes := buf.takeWhile (· ≠ 0)

theorem cString_eq_self {buf : Bytes} (h : ∀ c ∈ buf, c ≠ 0) : cString buf = buf :=
  List.takeWhile_eq_self_iff.mpr fun c hc => decide_eq_true (h c hc)

/-- What a memory access can go wrong with. -/
inductive Fault where
  | nullDeref
  | outOfBounds (index : Nat)
  deriving Repr, DecidableEq

/-- An access that succeeds goes on with what it has read. -/
theorem ok_bind {α β : Type} (x : α) (f : α → Except Fault β) : (Except.ok x >>= f) = f x := rfl

/-- Accesses in a row succeed when each of them does. -/
theorem bind_eq_ok {α β : Type} {x : Except Fault α} {f : α → Except Fault β} {b : β} :
    (x >>= f) = .ok b ↔ ∃ a, x = .ok a ∧ f a = .ok b := by
  cases x with
  | error e =>
    constructor
    · intro h
      cases h
    · rintro ⟨a, h, -⟩
      cases h
  | ok a =>
    constructor
    · intro h
      exact ⟨a, rfl, h⟩
    · rintro ⟨a', ha, h⟩
      cases ha
      exact h

/-! ## integers -/

def u16 (a b : UInt8) : UInt16 := UInt16.ofNat (a.toNat + 256 * b.toNat)

def u32 (a b c d : UInt8) : UInt32 :=
  UInt32.ofNat (a.toNat + 256 * b.toNat + 65536 * c.toNat + 16777216 * d.toNat)

def le16 (x : UInt16) : Bytes := [UInt8.ofNat x.toNat, UInt8.ofNat (x.toNat / 256)]

def le32 (x : UInt32) : Bytes :=
  [UInt8.ofNat x.toNat, UInt8.ofNat (x.toNat / 256), UInt8.ofNat (x.toNat / 65536),
    UInt8.ofNat (x.toNat / 16777216)]

@[simp] theorem length_le16 (x : UInt16) : (le16 x).length = 2 := rfl

@[simp] theorem length_le32 (x : UInt32) : (le32 x).length = 4 := rfl

theorem u16_le16 (x : UInt16) :
    u16 (UInt8.ofNat x.toNat) (UInt8.ofNat (x.toNat / 256)) = x := by
  have hx := x.toNat_lt
  apply UInt16.toNat_inj.mp
  simp only [u16, UInt16.toNat_ofNat', UInt8.toNat_ofNat']
  omega

theorem le16_u16 (a b : UInt8) : le16 (u16 a b) = [a, b] := by
  have ha := a.toNat_lt
  have hb := b.toNat_lt
  have hn : (u16 a b).toNat = a.toNat + 256 * b.toNat := by
    rw [u16, UInt16.toNat_ofNat', Nat.mod_eq_of_lt (by omega)]
  unfold le16
  rw [hn]
  refine List.cons_eq_cons.mpr ⟨?_, List.cons_eq_cons.mpr ⟨?_, rfl⟩⟩
  · apply UInt8.toNat_inj.mp
    rw [UInt8.toNat_ofNat']
    omega
  · apply UInt8.toNat_inj.mp
    rw [UInt8.toNat_ofNat']
    omega

theorem u32_le32 (x : UInt32) :
    u32 (UInt8.ofNat x.toNat) (UInt8.ofNat (x.toNat / 256)) (UInt8.ofNat (x.toNat / 65536))
      (UInt8.ofNat (x.toNat / 16777216)) = x := by
  have hx := x.toNat_lt
  apply UInt32.toNat_inj.mp
  simp only [u32, UInt32.toNat_ofNat', UInt8.toNat_ofNat']
  omega

theorem toNat_u32 (a b c d : UInt8) :
    (u32 a b c d).toNat = a.toNat + 256 * b.toNat + 65536 * c.toNat + 16777216 * d.toNat := by
  have ha := a.toNat_lt
  have hb := b.toNat_lt
  have hc := c.toNat_lt
  have hd := d.toNat_lt
  rw [u32, UInt32.toNat_ofNat', Nat.mod_eq_of_lt (by omega)]

/-- Both byte orders agree on the palindromes only. -/
theorem u32_reverse_iff {a b c d : UInt8} : u32 a b c d = u32 d c b a ↔ a = d ∧ b = c := by
  constructor
  · intro h
    have ha := a.toNat_lt
    have hb := b.toNat_lt
    have hc := c.toNat_lt
    have hd := d.toNat_lt
    have hnat := congrArg UInt32.toNat h
    rw [toNat_u32, toNat_u32] at hnat
    exact ⟨UInt8.toNat_inj.mp (by omega), UInt8.toNat_inj.mp (by omega)⟩
  · rintro ⟨rfl, rfl⟩
    rfl

/-- `((x >> 8) & 0xFF) | ((x & 0xFF) << 8)`. -/
def swap16 (x : UInt16) : UInt16 :=
  ((x >>> (8 : UInt16)) &&& (0xFF : UInt16)) ||| ((x &&& (0xFF : UInt16)) <<< (8 : UInt16))

theorem toNat_swap16 (x : UInt16) : (swap16 x).toNat = x.toNat / 256 + 256 * (x.toNat % 256) := by
  have hx := x.toNat_lt
  have hmask : ∀ n : Nat, n &&& 255 = n % 256 := fun n => Nat.and_two_pow_sub_one_eq_mod n 8
  have hshift : x.toNat >>> 8 = x.toNat / 256 := Nat.shiftRight_eq_div_pow x.toNat 8
  have hlow : x.toNat / 256 < 2 ^ 8 := by omega
  have hlow' : x.toNat / 256 % 256 = x.toNat / 256 := Nat.mod_eq_of_lt (by omega)
  have hhigh : (x.toNat % 256) <<< 8 < 2 ^ 16 := by rw [Nat.shiftLeft_eq]; omega
  unfold swap16
  rw [UInt16.toNat_or, UInt16.toNat_and, UInt16.toNat_shiftRight, UInt16.toNat_shiftLeft,
    UInt16.toNat_and]
  show (x.toNat >>> 8 &&& 255) ||| ((x.toNat &&& 255) <<< 8 % 2 ^ 16) = _
  rw [hmask, hmask, hshift, hlow', Nat.mod_eq_of_lt hhigh, Nat.or_comm,
    ← Nat.shiftLeft_add_eq_or_of_lt hlow, Nat.shiftLeft_eq]
  omega

theorem swap16_swap16 (x : UInt16) : swap16 (swap16 x) = x := by
  have hx := x.toNat_lt
  apply UInt16.toNat_inj.mp
  rw [toNat_swap16, toNat_swap16]
  omega

/-! ## reading -/

/-- The byte at `i`, 0 outside the buffer. -/
def byteAt (b : Bytes) (i : Nat) : UInt8 := b.getD i 0

def u16At (b : Bytes) (i : Nat) : UInt16 := u16 (byteAt b i) (byteAt b (i + 1))

def u32At (b : Bytes) (i : Nat) : UInt32 :=
  u32 (byteAt b i) (byteAt b (i + 1)) (byteAt b (i + 2)) (byteAt b (i + 3))

def read8 (b : Bytes) (i : Nat) : Except Fault UInt8 :=
  match b[i]? with
  | some x => .ok x
  | none => .error (.outOfBounds i)

def read16 (b : Bytes) (i : Nat) : Except Fault UInt16 := do
  let lo ← read8 b i
  let hi ← read8 b (i + 1)
  return u16 lo hi

def read32 (b : Bytes) (i : Nat) : Except Fault UInt32 := do
  let b0 ← read8 b i
  let b1 ← read8 b (i + 1)
  let b2 ← read8 b (i + 2)
  let b3 ← read8 b (i + 3)
  return u32 b0 b1 b2 b3

/-- The `n` bytes from index `i` on. -/
def slice (b : Bytes) (i n : Nat) : Except Fault Bytes :=
  if i + n ≤ b.length then .ok ((b.drop i).take n) else .error (.outOfBounds b.length)

theorem read8_eq {b : Bytes} {i : Nat} (h : i < b.length) : read8 b i = .ok (byteAt b i) := by
  unfold read8 byteAt
  rw [List.getD_eq_getElem?_getD, List.getElem?_eq_getElem h]
  rfl

theorem read16_eq {b : Bytes} {i : Nat} (h : i + 1 < b.length) :
    read16 b i = .ok (u16At b i) := by
  unfold read16
  rw [read8_eq (by omega), read8_eq h]
  rfl

/-- What a successful access has read. -/
theorem eq_u16At_of_read16 {b : Bytes} {i : Nat} {x : UInt16} (h : read16 b i = .ok x) :
    x = u16At b i := by
  by_cases hi : i + 1 < b.length
  · rw [read16_eq hi] at h
    exact (Except.ok.inj h).symm
  · obtain ⟨lo, -, hrest⟩ := bind_eq_ok.mp h
    obtain ⟨hi', hread, -⟩ := bind_eq_ok.mp hrest
    unfold read8 at hread
    rw [List.getElem?_eq_none (by omega)] at hread
    cases hread

theorem read32_eq {b : Bytes} {i : Nat} (h : i + 3 < b.length) :
    read32 b i = .ok (u32At b i) := by
  unfold read32
  rw [read8_eq (by omega), read8_eq (by omega), read8_eq (by omega), read8_eq h]
  rfl

theorem drop_eq_two_cons {b : Bytes} {i : Nat} (h : i + 1 < b.length) :
    b.drop i = [byteAt b i, byteAt b (i + 1)] ++ b.drop (i + 2) := by
  have hi : byteAt b i = b[i] := by
    rw [byteAt, List.getD_eq_getElem?_getD, List.getElem?_eq_getElem (by omega), Option.getD_some]
  have hj : byteAt b (i + 1) = b[i + 1] := by
    rw [byteAt, List.getD_eq_getElem?_getD, List.getElem?_eq_getElem h, Option.getD_some]
  rw [hi, hj, List.drop_eq_getElem_cons (by omega), List.drop_eq_getElem_cons h]
  rfl

/-- A buffer, cut at two consecutive bytes. -/
theorem take_append_drop_two {b : Bytes} {i : Nat} (h : i + 1 < b.length) :
    b.take i ++ [byteAt b i, byteAt b (i + 1)] ++ b.drop (i + 2) = b := by
  rw [List.append_assoc, ← drop_eq_two_cons h, List.take_append_drop]

theorem slice_eq {b : Bytes} {i n : Nat} (h : i + n ≤ b.length) :
    slice b i n = .ok ((b.drop i).take n) := if_pos h

theorem slice_left (a b : Bytes) : slice (a ++ b) 0 a.length = .ok a := by
  rw [slice_eq (by rw [List.length_append]; omega), List.drop_zero, List.take_left]

theorem byteAt_append_left {a b : Bytes} {i : Nat} (h : i < a.length) :
    byteAt (a ++ b) i = byteAt a i := by
  unfold byteAt
  rw [List.getD_eq_getElem?_getD, List.getD_eq_getElem?_getD, List.getElem?_append_left h]

theorem byteAt_append_right (a b : Bytes) (i : Nat) :
    byteAt (a ++ b) (a.length + i) = byteAt b i := by
  unfold byteAt
  rw [List.getD_eq_getElem?_getD, List.getD_eq_getElem?_getD,
    List.getElem?_append_right (Nat.le_add_right _ _), Nat.add_sub_cancel_left]

theorem byteAt_middle (a : Bytes) (b : UInt8) (c : Bytes) : byteAt (a ++ b :: c) a.length = b :=
  byteAt_append_right a (b :: c) 0

theorem map_byteAt_middle (a b c : Bytes) :
    (List.range b.length).map (fun i => byteAt (a ++ (b ++ c)) (a.length + i)) = b := by
  refine List.ext_getElem (by simp) fun i _ hi => ?_
  rw [List.getElem_map, List.getElem_range, byteAt_append_right, byteAt_append_left hi, byteAt,
    List.getD_eq_getElem?_getD, List.getElem?_eq_getElem hi]
  rfl

theorem byteAt_take {b : Bytes} {n i : Nat} (h : i < n) : byteAt (b.take n) i = byteAt b i := by
  unfold byteAt
  rw [List.getD_eq_getElem?_getD, List.getD_eq_getElem?_getD, List.getElem?_take_of_lt h]

/-! ## writing -/

def write (b : Bytes) (i : Nat) (bs : Bytes) : Except Fault Bytes :=
  if i + bs.length ≤ b.length then .ok (b.take i ++ bs ++ b.drop (i + bs.length))
  else .error (.outOfBounds b.length)

theorem write_eq {b : Bytes} {i : Nat} {bs : Bytes} (h : i + bs.length ≤ b.length) :
    write b i bs = .ok (b.take i ++ bs ++ b.drop (i + bs.length)) := if_pos h

theorem write_error {b : Bytes} {i : Nat} {bs : Bytes} (h : b.length < i + bs.length) :
    write b i bs = .error (.outOfBounds b.length) := if_neg (Nat.not_le.mpr h)

theorem length_of_write {b b' : Bytes} {i : Nat} {bs : Bytes} (h : write b i bs = .ok b') :
    b'.length = b.length := by
  unfold write at h
  split at h
  · next hle =>
    cases h
    simp only [List.length_append, List.length_take, List.length_drop]
    omega
  · cases h

theorem write_ok (b : Bytes) (i : Nat) (bs : Bytes) (h : i + bs.length ≤ b.length) :
    ∃ b', write b i bs = .ok b' ∧ b'.length = b.length :=
  ⟨_, write_eq h, length_of_write (write_eq h)⟩

/-- Writing changes nothing outside of what is written. -/
theorem byteAt_of_write {b b' bs : Bytes} {i j : Nat} (h : write b i bs = .ok b')
    (hj : j < i ∨ i + bs.length ≤ j) : byteAt b' j = byteAt b j := by
  unfold write at h
  split at h
  · next hle =>
    cases h
    unfold byteAt
    rw [List.getD_eq_getElem?_getD, List.getD_eq_getElem?_getD]
    congr 1
    rcases hj with hj | hj
    · rw [List.append_assoc, List.getElem?_append_left (by rw [List.length_take]; omega),
        List.getElem?_take_of_lt hj]
    · have hlen : (b.take i ++ bs).length = i + bs.length := by
        rw [List.length_append, List.length_take]
        omega
      rw [List.getElem?_append_right (by omega), List.getElem?_drop, hlen]
      congr 1
      omega
  · cases h

theorem byteAt_of_write_self {b b' bs : Bytes} {i j : Nat} (h : write b i bs = .ok b')
    (hj : j < bs.length) : byteAt b' (i + j) = byteAt bs j := by
  unfold write at h
  split at h
  · next hle =>
    cases h
    have hlen : (b.take i).length = i := by
      rw [List.length_take]
      omega
    unfold byteAt
    rw [List.getD_eq_getElem?_getD, List.getD_eq_getElem?_getD, List.append_assoc,
      List.getElem?_append_right (by omega), hlen, Nat.add_sub_cancel_left,
      List.getElem?_append_left hj]
  · cases h

/-- Overwriting the whole buffer. -/
theorem write_all {b bs : Bytes} (h : bs.length = b.length) : write b 0 bs = .ok bs := by
  rw [write_eq (by omega), List.take_zero, List.nil_append, List.drop_of_length_le (by omega),
    List.append_nil]

/-- Writing behind the part `a`. -/
theorem write_append {a x bs : Bytes} {i : Nat} (hi : i = a.length) (h : bs.length ≤ x.length) :
    write (a ++ x) i bs = .ok (a ++ bs ++ x.drop bs.length) := by
  subst hi
  rw [write_eq (by rw [List.length_append]; omega), List.take_left, List.drop_append]
  simp

/-- Overwriting the part `x`. -/
theorem write_middle {a x c bs : Bytes} {i : Nat} (hi : i = a.length) (h : bs.length = x.length) :
    write (a ++ x ++ c) i bs = .ok (a ++ bs ++ c) := by
  rw [List.append_assoc, write_append hi (by rw [List.length_append]; omega), h, List.drop_left]

/-- Writing behind the part `a`, up to the end of the buffer. -/
theorem write_append_end {a x bs : Bytes} {i : Nat} (hi : i = a.length) (h : bs.length = x.length) :
    write (a ++ x) i bs = .ok (a ++ bs) := by
  rw [write_append hi (by omega), List.drop_of_length_le (by omega), List.append_nil]

section Fill

variable {β : Type} {block block' header data : Bytes} {n : Nat}

/-- A block that is too small for a header and the data behind it. -/
theorem write_header_overflow (hn : header.length = n) (h : block.length < n + data.length)
    (k : Bytes → Except Fault β) :
    (write block 0 header >>= fun p => write p n data >>= k)
      = .error (.outOfBounds block.length) := by
  by_cases hfits : 0 + header.length ≤ block.length
  · have hlen := length_of_write (write_eq hfits)
    rw [write_eq hfits, ok_bind, write_error (by rw [hlen]; exact h), hlen]
    rfl
  · rw [write_error (by omega)]
    rfl

/-- A block that a header and the data behind it fill. -/
theorem write_header_fill (hn : header.length = n) (h : block.length = n + data.length)
    (k : Bytes → Except Fault β) :
    (write block 0 header >>= fun p => write p n data >>= k) = k (header ++ data) := by
  have hheader : write block 0 header = .ok (header ++ block.drop n) := by
    rw [← hn]
    exact write_append (a := []) rfl (by omega)
  rw [hheader, ok_bind, write_append_end hn.symm (by rw [List.length_drop]; omega), ok_bind]

/-- **The former contents do not matter** if a header and the data behind it leave nothing free. -/
theorem write_header_congr (hn : header.length = n) (hle : block.length ≤ n + data.length)
    (hlen : block'.length = block.length) (k : Bytes → Except Fault β) :
    (write block 0 header >>= fun p => write p n data >>= k)
      = (write block' 0 header >>= fun p => write p n data >>= k) := by
  rcases Nat.eq_or_lt_of_le hle with heq | hlt
  · rw [write_header_fill hn heq, write_header_fill hn (hlen.trans heq)]
  · rw [write_header_overflow hn hlt, write_header_overflow hn (hlen ▸ hlt), hlen]

end Fill

/-- Assignments to the consecutive fields of a packed structure, from index `i` on. -/
def writeFields (b : Bytes) : Nat → List Bytes → Except Fault Bytes
  | _, [] => .ok b
  | i, field :: fields => do
    let b ← write b i field
    writeFields b (i + field.length) fields

/-- **All of the structure is written** when the fields fill it. -/
theorem writeFields_append (fields : List Bytes) {a x : Bytes} {i : Nat} (hi : i = a.length)
    (hlen : x.length = fields.flatten.length) :
    writeFields (a ++ x) i fields = .ok (a ++ fields.flatten) := by
  induction fields generalizing a x i with
  | nil =>
    obtain rfl : x = [] := List.eq_nil_of_length_eq_zero hlen
    rfl
  | cons field fields ih =>
    rw [List.flatten_cons, List.length_append] at hlen
    rw [writeFields, write_append hi (by omega), ok_bind, ih (by rw [List.length_append, hi])
      (by rw [List.length_drop]; omega), List.flatten_cons, List.append_assoc]

end MayaOs.Lib
