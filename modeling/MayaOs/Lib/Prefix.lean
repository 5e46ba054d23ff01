import Mathlib.Data.List.Basic

/-!
# Arrays with a used prefix

A fixed array together with a counter, of which only the first `n` cells are in use.
Adding writes cell `n`, removing cell `i` moves the cells behind it one place down.

* `take_set` — adding appends to the used prefix
* `take_shiftDown` — removing is `eraseIdx` on the used prefix
* `mem_take_exchange` — exchanging two neighbours of the used prefix keeps its members
-/

namespace MayaOs.Lib

universe u

variable {α : Type u}

/-! ## adding -/

theorem take_set {a : List α} {n : Nat} (h : n < a.length) (x : α) :
    (a.set n x).take (n + 1) = a.take n ++ [x] := by
  rw [List.take_succ_eq_append_getElem (by simpa using h), List.getElem_set_self,
    List.take_set_of_le (Nat.le_refl n)]

/-! ## removing -/

/-- `k` iterations of the loop `for (...; j < n - 1; j++) a[j] = a[j + 1];` from index `j`. -/
def shiftDown (a : List α) (j : Nat) : Nat → List α
  | 0 => a
  | k + 1 =>
    match a[j + 1]? with
    | some x => shiftDown (a.set j x) (j + 1) k
    | none => shiftDown a (j + 1) k

@[simp] theorem length_shiftDown (k : Nat) :
    ∀ (a : List α) (j : Nat), (shiftDown a j k).length = a.length := by
  induction k with
  | zero => intro a j; rfl
  | succ k ih =>
    intro a j
    rw [shiftDown]
    split
    · rw [ih, List.length_set]
    · exact ih a (j + 1)

/-- The loop moves the cells `j + 1 .. j + k` one place down. -/
theorem getElem?_shiftDown (k : Nat) : ∀ (a : List α) (j i : Nat), j + k < a.length →
    (shiftDown a j k)[i]? = if j ≤ i ∧ i < j + k then a[i + 1]? else a[i]? := by
  induction k with
  | zero =>
    intro a j i _
    rw [if_neg (by omega)]
    rfl
  | succ k ih =>
    intro a j i hlen
    have hlt : j + 1 < a.length := by omega
    rw [shiftDown, List.getElem?_eq_getElem hlt]
    simp only []
    rw [ih _ _ _ (by rw [List.length_set]; omega)]
    by_cases hi : i = j
    · subst hi
      rw [if_neg (by omega), if_pos (by omega), List.getElem?_set_self (by omega),
        List.getElem?_eq_getElem hlt]
    · by_cases hin : j + 1 ≤ i ∧ i < j + 1 + k
      · rw [if_pos hin, if_pos (by omega), List.getElem?_set_ne (by omega)]
      · rw [if_neg hin, if_neg (by omega), List.getElem?_set_ne (by omega)]

/-- **Removing cell `i` erases it from the used prefix.** -/
theorem take_shiftDown {a : List α} {n i : Nat} (hi : i < n) (hn : n ≤ a.length) :
    (shiftDown a i (n - 1 - i)).take (n - 1) = (a.take n).eraseIdx i := by
  apply List.ext_getElem?
  intro j
  by_cases hj : j < n - 1
  · rw [List.getElem?_take_of_lt hj, getElem?_shiftDown _ _ _ _ (by omega)]
    by_cases hij : i ≤ j
    · rw [if_pos (by omega), List.getElem?_eraseIdx_of_ge hij,
        List.getElem?_take_of_lt (by omega)]
    · rw [if_neg (by omega), List.getElem?_eraseIdx_of_lt (by omega),
        List.getElem?_take_of_lt (by omega)]
  · have hlen : ((a.take n).eraseIdx i).length = n - 1 := by
      rw [List.length_eraseIdx_of_lt (by rw [List.length_take]; omega), List.length_take]
      omega
    rw [List.getElem?_eq_none (by rw [List.length_take]; omega),
      List.getElem?_eq_none (by rw [hlen]; omega)]

/-! ## exchanging -/

theorem mem_take_iff_getElem? {a : List α} {n : Nat} {x : α} :
    x ∈ a.take n ↔ ∃ j, j < n ∧ a[j]? = some x := by
  rw [List.mem_iff_getElem?]
  constructor
  · rintro ⟨j, hj⟩
    rw [List.getElem?_take] at hj
    split at hj
    · next hlt => exact ⟨j, hlt, hj⟩
    · cases hj
  · rintro ⟨j, hlt, hj⟩
    exact ⟨j, by rw [List.getElem?_take_of_lt hlt]; exact hj⟩

/-- The cells `i` and `i + 1` exchanged. -/
theorem getElem?_exchange {a : List α} {i : Nat} {p q : α} (hp : a[i + 1]? = some p)
    (hq : a[i]? = some q) (j : Nat) :
    ((a.set (i + 1) q).set i p)[j]?
      = if j = i then some p else if j = i + 1 then some q else a[j]? := by
  have hlt := (List.getElem?_eq_some_iff.mp hp).1
  by_cases hi : j = i
  · subst hi
    rw [if_pos rfl, List.getElem?_set_self (by rw [List.length_set]; omega)]
  · rw [if_neg hi, List.getElem?_set_ne (Ne.symm hi)]
    by_cases hi' : j = i + 1
    · subst hi'
      rw [if_pos rfl, List.getElem?_set_self hlt]
    · rw [if_neg hi', List.getElem?_set_ne (Ne.symm hi')]

theorem mem_take_exchange {a : List α} {i n : Nat} {p q : α} (hi : i + 1 < n)
    (hp : a[i + 1]? = some p) (hq : a[i]? = some q) {x : α}
    (hx : x ∈ ((a.set (i + 1) q).set i p).take n) : x ∈ a.take n := by
  obtain ⟨j, hj, hjx⟩ := mem_take_iff_getElem?.mp hx
  rw [getElem?_exchange hp hq] at hjx
  rw [mem_take_iff_getElem?]
  split at hjx
  · exact ⟨i + 1, hi, hp.trans hjx⟩
  · split at hjx
    · exact ⟨i, by omega, hq.trans hjx⟩
    · exact ⟨j, hj, hjx⟩

end MayaOs.Lib
