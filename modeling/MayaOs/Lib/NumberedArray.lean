import Mathlib.Logic.Function.Basic
import MayaOs.Lib.Prefix

/-!
# Arrays of records that know their position

The used prefix of an array holds distinct pointers, and each record carries the index of the cell
that points to it. Removing a cell moves the cells behind it one place down and renumbers them.

* `shiftNumbered_fst` — the array changes as in `shiftDown`
* `shiftNumbered_field` — the records change in their numbers only
* `Numbered.shift` — what is left is numbered again
* `Numbered.concat` — a record is added with the next number
-/

namespace MayaOs.Lib

universe u v

variable {P : Type u} {R : Type v} [DecidableEq P]

/-! ## The loop -/

/--
`k` turns of `for (...; j < n - 1; j++) { a[j] = a[j + 1]; a[j]->number = j; }` from index `j`.
-/
def shiftNumbered (setNumber : Nat → R → R) (a : List P) (mem : P → R) (j : Nat) :
    Nat → List P × (P → R)
  | 0 => (a, mem)
  | k + 1 =>
    match a[j + 1]? with
    | some p =>
      shiftNumbered setNumber (a.set j p) (Function.update mem p (setNumber j (mem p))) (j + 1) k
    | none => shiftNumbered setNumber a mem (j + 1) k

variable {setNumber : Nat → R → R}

theorem shiftNumbered_fst (k : Nat) : ∀ (a : List P) (mem : P → R) (j : Nat),
    (shiftNumbered setNumber a mem j k).1 = shiftDown a j k := by
  induction k with
  | zero => intro a mem j; rfl
  | succ k ih =>
    intro a mem j
    rw [shiftNumbered, shiftDown]
    cases a[j + 1]? with
    | some p => exact ih _ _ _
    | none => exact ih _ _ _

/-- The loop changes nothing but the numbers. -/
theorem shiftNumbered_field {β : Type*} {field : R → β}
    (hfield : ∀ j r, field (setNumber j r) = field r) (q : P) (k : Nat) :
    ∀ (a : List P) (mem : P → R) (j : Nat),
      field ((shiftNumbered setNumber a mem j k).2 q) = field (mem q) := by
  induction k with
  | zero => intro a mem j; rfl
  | succ k ih =>
    intro a mem j
    rw [shiftNumbered]
    cases a[j + 1]? with
    | none => exact ih _ _ _
    | some p =>
      rw [ih]
      rcases eq_or_ne q p with rfl | hne
      · rw [Function.update_self, hfield]
      · rw [Function.update_of_ne hne]

/-! ## Numbers -/

/-- The records that `l` points to carry their positions. -/
def Numbered (number : R → Nat) (l : List P) (mem : P → R) : Prop :=
  ∀ i p, l[i]? = some p → number (mem p) = i

/-- The cells below `n` other than `j` are distinct, and their records carry their positions. -/
structure NumberedBut (number : R → Nat) (a : List P) (mem : P → R) (n j : Nat) : Prop where
  inj : ∀ i i' p, i < n → i' < n → i ≠ j → i' ≠ j → a[i]? = some p → a[i']? = some p → i = i'
  number : ∀ i p, i < n → i ≠ j → a[i]? = some p → number (mem p) = i

variable {number : R → Nat} {a : List P} {mem : P → R} {n j : Nat}

/-- One turn moves the gap one place up. -/
theorem NumberedBut.turn (h : NumberedBut number a mem n j) (hset : ∀ j r, number (setNumber j r) = j)
    (hj : j + 1 < n) (hn : n ≤ a.length) {p : P} (hp : a[j + 1]? = some p) :
    NumberedBut number (a.set j p) (Function.update mem p (setNumber j (mem p))) n (j + 1) := by
  have hother : ∀ i q, i < n → i ≠ j → i ≠ j + 1 → a[i]? = some q → q ≠ p := by
    rintro i q hi hij hij' hq rfl
    exact hij' (h.inj i (j + 1) q hi hj hij (by omega) hq hp)
  have hself : (a.set j p)[j]? = some p := List.getElem?_set_self (by omega)
  refine ⟨fun i i' q hi hi' hne hne' hq hq' => ?_, fun i q hi hne hq => ?_⟩
  · by_cases hij : i = j
    · by_cases hij' : i' = j
      · rw [hij, hij']
      · rw [List.getElem?_set_ne (Ne.symm hij')] at hq'
        rw [hij, hself] at hq
        exact absurd (Option.some.inj hq).symm (hother i' q hi' hij' hne' hq')
    · rw [List.getElem?_set_ne (Ne.symm hij)] at hq
      by_cases hij' : i' = j
      · rw [hij', hself] at hq'
        exact absurd (Option.some.inj hq').symm (hother i q hi hij hne hq)
      · rw [List.getElem?_set_ne (Ne.symm hij')] at hq'
        exact h.inj i i' q hi hi' hij hij' hq hq'
  · by_cases hij : i = j
    · rw [hij, hself] at hq
      cases hq
      rw [Function.update_self, hset, hij]
    · rw [List.getElem?_set_ne (Ne.symm hij)] at hq
      rw [Function.update_of_ne (hother i q hi hij hne hq)]
      exact h.number i q hi hij hq

theorem NumberedBut.shift (hset : ∀ j r, number (setNumber j r) = j) (k : Nat) :
    ∀ {a : List P} {mem : P → R} {j : Nat}, NumberedBut number a mem n j → j + k < n →
      n ≤ a.length →
      NumberedBut number (shiftNumbered setNumber a mem j k).1
        (shiftNumbered setNumber a mem j k).2 n (j + k) := by
  induction k with
  | zero => intro a mem j h _ _; exact h
  | succ k ih =>
    intro a mem j h hk hn
    have hlt : j + 1 < a.length := by omega
    rw [shiftNumbered, List.getElem?_eq_getElem hlt]
    have hnext := ih (h.turn hset (by omega) hn (List.getElem?_eq_getElem hlt)) (by omega)
      (by rw [List.length_set]; exact hn)
    rw [show j + (k + 1) = j + 1 + k by omega]
    exact hnext

/-- **After the removal of cell `i` the others are numbered by their new positions.** -/
theorem Numbered.shift (h : Numbered number (a.take n) mem) (hset : ∀ j r, number (setNumber j r) = j)
    (hnd : (a.take n).Nodup) {i : Nat} (hi : i < n) (hn : n ≤ a.length) :
    Numbered number ((a.take n).eraseIdx i) (shiftNumbered setNumber a mem i (n - 1 - i)).2 := by
  have hcell : ∀ m, m < n → (a.take n)[m]? = a[m]? := fun m hm => List.getElem?_take_of_lt hm
  have hbut : NumberedBut number a mem n i := by
    refine ⟨fun m m' p hm hm' _ _ hp hp' => ?_, fun m p hm _ hp => ?_⟩
    · have hlen : m < (a.take n).length := by rw [List.length_take]; omega
      refine (List.getElem?_inj hlen hnd).mp ?_
      rw [hcell m hm, hcell m' hm', hp, hp']
    · exact h m p (by rw [hcell m hm]; exact hp)
  have hshift : NumberedBut number (shiftNumbered setNumber a mem i (n - 1 - i)).1
      (shiftNumbered setNumber a mem i (n - 1 - i)).2 n (i + (n - 1 - i)) :=
    hbut.shift hset (n - 1 - i) (by omega) hn
  intro m p hp
  have hm : m < n - 1 := by
    have hlt := (List.getElem?_eq_some_iff.mp hp).1
    rw [List.length_eraseIdx_of_lt (by rw [List.length_take]; omega), List.length_take] at hlt
    omega
  rw [← take_shiftDown hi hn, List.getElem?_take_of_lt hm, ← shiftNumbered_fst] at hp
  exact hshift.number m p (by omega) (by omega) hp

/-- **A record is added behind the others.** -/
theorem Numbered.concat {l : List P} (h : Numbered number l mem) {p : P} (hp : p ∉ l) {r : R}
    (hr : number r = l.length) : Numbered number (l ++ [p]) (Function.update mem p r) := by
  intro i q hq
  by_cases hi : i < l.length
  · rw [List.getElem?_append_left hi] at hq
    have hne : q ≠ p := fun he => hp (he ▸ List.mem_of_getElem? hq)
    rw [Function.update_of_ne hne]
    exact h i q hq
  · obtain ⟨hlt, hqe⟩ := List.getElem?_eq_some_iff.mp hq
    rw [List.length_append, List.length_singleton] at hlt
    have hil : i = l.length := by omega
    subst hil
    rw [List.getElem?_concat_length] at hq
    cases hq
    rw [Function.update_self, hr]

omit [DecidableEq P] in
/-- A change that keeps the numbers. -/
theorem Numbered.congr {l : List P} (h : Numbered number l mem) {mem' : P → R}
    (hsame : ∀ p ∈ l, number (mem' p) = number (mem p)) : Numbered number l mem' := by
  intro i p hp
  rw [hsame p (List.mem_of_getElem? hp)]
  exact h i p hp

end MayaOs.Lib
