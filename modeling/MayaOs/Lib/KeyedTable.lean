import Mathlib.Data.List.Nodup

/-!
# Tables of cells that are in use under a key

A fixed number of cells. Looking a key up takes the first cell in use that has it, and a new key goes
into the first cell that is not in use.

* `lookup_eq_none_iff` — what is not found
* `keys_modify`, `keys_set_perm`, `keys_set_sublist` — the keys after a change
* `cell_unique` — two cells in use have different keys
* `free_eq_none_iff` — a full table
-/

namespace MayaOs.Lib

universe u v

variable {α : Type u} {κ : Type v} {used : α → Bool} {name : α → κ} {t : List α}

/-- The keys of the cells in use. -/
def keys (used : α → Bool) (name : α → κ) (t : List α) : List κ := (t.filter used).map name

theorem mem_keys {k : κ} : k ∈ keys used name t ↔ ∃ a ∈ t, used a = true ∧ name a = k := by
  simp only [keys, List.mem_map, List.mem_filter, and_assoc]

theorem lookup_eq_none_iff [DecidableEq κ] {k : κ} :
    t.findIdx? (fun a => used a && name a == k) = none ↔ k ∉ keys used name t := by
  rw [List.findIdx?_eq_none_iff, mem_keys]
  constructor
  · rintro h ⟨a, ha, hused, rfl⟩
    have hno := h a ha
    simp [hused] at hno
  · intro h a ha
    by_contra hyes
    simp only [Bool.not_eq_false, Bool.and_eq_true, beq_iff_eq] at hyes
    exact h ⟨a, ha, hyes⟩

/-- Changing a cell under its key. -/
theorem keys_modify {f : α → α} (hused : ∀ a, used (f a) = used a) (hname : ∀ a, name (f a) = name a) :
    ∀ (t : List α) (i : Nat), keys used name (t.modify i f) = keys used name t := by
  intro t
  induction t with
  | nil =>
    intro i
    cases i <;> rfl
  | cons a t ih =>
    intro i
    cases i with
    | zero =>
      rw [List.modify_zero_cons]
      unfold keys
      rw [List.filter_cons, List.filter_cons, hused]
      split
      · rw [List.map_cons, List.map_cons, hname]
      · rfl
    | succ i =>
      rw [List.modify_succ_cons]
      have hrest := ih i
      unfold keys at hrest ⊢
      rw [List.filter_cons, List.filter_cons]
      split
      · rw [List.map_cons, List.map_cons, hrest]
      · exact hrest

/-- **Taking a free cell adds its new key.** -/
theorem keys_set_perm {x : α} (hx : used x = true) : ∀ {t : List α} {i : Nat} (hi : i < t.length),
    used t[i] = false → (keys used name (t.set i x)).Perm (name x :: keys used name t) := by
  intro t
  induction t with
  | nil =>
    intro i hi
    exact absurd hi (Nat.not_lt_zero i)
  | cons a t ih =>
    intro i hi hfree
    cases i with
    | zero =>
      have ha : used a = false := hfree
      rw [List.set_cons_zero, keys, keys, List.filter_cons_of_pos hx,
        List.filter_cons_of_neg (by rw [ha]; simp), List.map_cons]
    | succ i =>
      have hrest := ih (Nat.lt_of_succ_lt_succ hi) hfree
      rw [List.set_cons_succ]
      unfold keys at hrest ⊢
      rw [List.filter_cons, List.filter_cons]
      split
      · rw [List.map_cons, List.map_cons]
        exact (hrest.cons _).trans (List.Perm.swap _ _ _)
      · exact hrest

/-- Emptying a cell adds no key. -/
theorem keys_set_sublist {x : α} (hx : used x = false) : ∀ (t : List α) (i : Nat),
    (keys used name (t.set i x)).Sublist (keys used name t) := by
  intro t
  induction t with
  | nil => intro i; exact List.Sublist.refl _
  | cons a t ih =>
    intro i
    cases i with
    | zero =>
      rw [List.set_cons_zero, keys, keys, List.filter_cons_of_neg (by rw [hx]; simp)]
      exact ((List.sublist_cons_self a t).filter used).map name
    | succ i =>
      have hrest := ih i
      rw [List.set_cons_succ]
      unfold keys at hrest ⊢
      rw [List.filter_cons, List.filter_cons]
      split
      · rw [List.map_cons, List.map_cons]
        exact hrest.cons_cons _
      · exact hrest

/-- **With distinct keys, a key has one cell.** -/
theorem cell_unique : ∀ {t : List α}, (keys used name t).Nodup → ∀ {i j : Nat} {a b : α},
    t[i]? = some a → t[j]? = some b → used a = true → used b = true → name a = name b → i = j := by
  intro t
  induction t with
  | nil =>
    intro _ i j a b ha
    cases ha
  | cons c t ih =>
    intro hnodup i j a b ha hb hau hbu hname
    have hrest : (keys used name t).Nodup :=
      hnodup.sublist (((List.sublist_cons_self c t).filter used).map name)
    have hhead : ∀ x ∈ t, used c = true → used x = true → name c ≠ name x := by
      intro x hx hc hxu heq
      rw [keys, List.filter_cons_of_pos hc, List.map_cons] at hnodup
      exact (List.nodup_cons.mp hnodup).1 (mem_keys.mpr ⟨x, hx, hxu, heq.symm⟩)
    cases i with
    | zero =>
      cases j with
      | zero => rfl
      | succ j =>
        obtain rfl : c = a := Option.some.inj ha
        exact absurd hname (hhead b (List.mem_of_getElem? hb) hau hbu)
    | succ i =>
      cases j with
      | zero =>
        obtain rfl : c = b := Option.some.inj hb
        exact absurd hname.symm (hhead a (List.mem_of_getElem? ha) hbu hau)
      | succ j => rw [ih hrest ha hb hau hbu hname]

/-- No cell is free iff there are as many keys as cells. -/
theorem free_eq_none_iff :
    t.findIdx? (fun a => !used a) = none ↔ (keys used name t).length = t.length := by
  rw [List.findIdx?_eq_none_iff, keys, List.length_map, List.length_filter_eq_length_iff]
  simp

end MayaOs.Lib
