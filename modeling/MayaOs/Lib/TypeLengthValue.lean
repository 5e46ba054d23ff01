import Mathlib.Data.List.Basic
import MayaOs.Lib.Bytes

/-!
# Fields with a type, a length and a value

A field is a byte for its type, a byte for its length, and so many bytes. Between two fields there may
be marks `pad`; the mark `stop` ends them.

* `tlvBytes` — fields and pads, as they are stored
* `tlvFields` — the fields of any buffer
* `tlvFieldsFrom_tlvBytes` — the fields that are read are those that were stored
-/

namespace MayaOs.Lib

variable {pad stop : UInt8}

/-! ## Storing -/

/-- A field that can be told from the marks. -/
structure TlvField (pad stop : UInt8) where
  type : UInt8
  value : Bytes
  type_ne_pad : type ≠ pad
  type_ne_stop : type ≠ stop
  length_lt : value.length < 256

def TlvField.bytes (f : TlvField pad stop) : Bytes :=
  f.type :: UInt8.ofNat f.value.length :: f.value

theorem TlvField.toNat_length (f : TlvField pad stop) :
    (UInt8.ofNat f.value.length).toNat = f.value.length :=
  UInt8.toNat_ofNat_of_lt' f.length_lt

theorem TlvField.length_bytes (f : TlvField pad stop) : f.bytes.length = 2 + f.value.length := by
  rw [TlvField.bytes, List.length_cons, List.length_cons]
  omega

section Stored

variable (f : TlvField pad stop) (a rest : Bytes)

theorem TlvField.byteAt_type : byteAt (a ++ (f.bytes ++ rest)) a.length = f.type :=
  byteAt_middle a f.type _

theorem TlvField.byteAt_length :
    byteAt (a ++ (f.bytes ++ rest)) (a.length + 1) = UInt8.ofNat f.value.length :=
  byteAt_append_right a (f.bytes ++ rest) 1

theorem TlvField.map_byteAt_value :
    (List.range f.value.length).map (fun i => byteAt (a ++ (f.bytes ++ rest)) (a.length + 2 + i)) =
      f.value := by
  have hcut : a ++ (f.bytes ++ rest) =
      (a ++ [f.type, UInt8.ofNat f.value.length]) ++ (f.value ++ rest) := by
    simp [TlvField.bytes]
  have hmap := map_byteAt_middle (a ++ [f.type, UInt8.ofNat f.value.length]) f.value rest
  rw [← hcut, List.length_append] at hmap
  exact hmap

end Stored

/-- A field, or a pad. -/
def tlvItemBytes : Option (TlvField pad stop) → Bytes
  | none => [pad]
  | some f => f.bytes

def tlvBytes (items : List (Option (TlvField pad stop))) : Bytes := items.flatMap tlvItemBytes

theorem tlvBytes_cons (item : Option (TlvField pad stop)) (items) :
    tlvBytes (item :: items) = tlvItemBytes item ++ tlvBytes items := List.flatMap_cons

/-- Every item takes a byte. -/
theorem length_le_tlvBytes (items : List (Option (TlvField pad stop))) :
    items.length ≤ (tlvBytes items).length := by
  induction items with
  | nil => exact Nat.le_refl 0
  | cons item items ih =>
    have hpos : 0 < (tlvItemBytes item).length := by
      cases item <;> exact Nat.succ_pos _
    rw [tlvBytes_cons, List.length_append, List.length_cons]
    omega

/-- The fields, without the pads. -/
def tlvPairs (items : List (Option (TlvField pad stop))) : List (UInt8 × Bytes) :=
  items.reduceOption.map fun f => (f.type, f.value)

@[simp] theorem tlvPairs_pad (items : List (Option (TlvField pad stop))) :
    tlvPairs (none :: items) = tlvPairs items := rfl

@[simp] theorem tlvPairs_field (f : TlvField pad stop) (items) :
    tlvPairs (some f :: items) = (f.type, f.value) :: tlvPairs items := rfl

/-! ## Reading -/

/-- The fields up to the mark `stop`, or up to a field that is cut off; at most `n` steps. -/
def tlvFieldsFrom (pad stop : UInt8) : Nat → Bytes → List (UInt8 × Bytes)
  | 0, _ => []
  | _ + 1, [] => []
  | n + 1, type :: rest =>
    if type = stop then []
    else if type = pad then tlvFieldsFrom pad stop n rest
    else
      match rest with
      | [] => []
      | length :: rest =>
        if rest.length < length.toNat then []
        else (type, rest.take length.toNat) :: tlvFieldsFrom pad stop n (rest.drop length.toNat)

theorem tlvFieldsFrom_stop (n : Nat) (rest : Bytes) :
    tlvFieldsFrom pad stop (n + 1) (stop :: rest) = [] := by
  cases rest <;> exact if_pos rfl

theorem tlvFieldsFrom_pad (hne : pad ≠ stop) (n : Nat) (rest : Bytes) :
    tlvFieldsFrom pad stop (n + 1) (pad :: rest) = tlvFieldsFrom pad stop n rest := by
  cases rest <;> exact (if_neg hne).trans (if_pos rfl)

theorem tlvFieldsFrom_field {type : UInt8} (hstop : type ≠ stop) (hpad : type ≠ pad) (n : Nat)
    (length : UInt8) (rest : Bytes) :
    tlvFieldsFrom pad stop (n + 1) (type :: length :: rest) =
      if rest.length < length.toNat then []
      else (type, rest.take length.toNat) :: tlvFieldsFrom pad stop n (rest.drop length.toNat) :=
  (if_neg hstop).trans (if_neg hpad)

/-- Every step takes a byte, so that there are steps enough. -/
def tlvFields (pad stop : UInt8) (bytes : Bytes) : List (UInt8 × Bytes) :=
  tlvFieldsFrom pad stop bytes.length bytes

/-- The value of the first field of a type. -/
def tlvLookup (fields : List (UInt8 × Bytes)) (type : UInt8) : Option Bytes :=
  (fields.find? fun f => f.1 = type).map Prod.snd

@[simp] theorem tlvLookup_nil (type : UInt8) : tlvLookup [] type = none := rfl

theorem tlvLookup_cons (f : UInt8 × Bytes) (fields : List (UInt8 × Bytes)) (type : UInt8) :
    tlvLookup (f :: fields) type = if f.1 = type then some f.2 else tlvLookup fields type := by
  unfold tlvLookup
  by_cases h : f.1 = type
  · rw [if_pos h, List.find?_cons_of_pos (by simpa using h)]
    rfl
  · rw [if_neg h, List.find?_cons_of_neg (by simpa using h)]

/-- **The fields that are read are those that were stored.** -/
theorem tlvFieldsFrom_tlvBytes (rest : Bytes) :
    ∀ {items : List (Option (TlvField pad stop))} {n : Nat}, pad ≠ stop → items.length ≤ n →
      tlvFieldsFrom pad stop n (tlvBytes items ++ stop :: rest) = tlvPairs items := by
  intro items
  induction items with
  | nil =>
    intro n _ _
    cases n with
    | zero => rfl
    | succ n => exact tlvFieldsFrom_stop n rest
  | cons item items ih =>
    intro n hne hn
    rw [List.length_cons] at hn
    obtain ⟨n, rfl⟩ : ∃ m, n = m + 1 := ⟨n - 1, by omega⟩
    rw [tlvBytes_cons, List.append_assoc]
    cases item with
    | none =>
      show tlvFieldsFrom pad stop (n + 1) (pad :: (tlvBytes items ++ stop :: rest)) = _
      rw [tlvFieldsFrom_pad hne, tlvPairs_pad]
      exact ih hne (by omega)
    | some f =>
      show tlvFieldsFrom pad stop (n + 1) (f.type :: UInt8.ofNat f.value.length ::
        (f.value ++ (tlvBytes items ++ stop :: rest))) = _
      rw [tlvFieldsFrom_field f.type_ne_stop f.type_ne_pad, f.toNat_length,
        if_neg (by rw [List.length_append]; omega), List.take_left, List.drop_left,
        ih hne (by omega), tlvPairs_field]

end MayaOs.Lib
