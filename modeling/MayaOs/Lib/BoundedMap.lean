import Mathlib.Data.List.Induction
import MayaOs.Lib.KeyedTable

/-!
# A bounded map in an array that fills from the front

Putting a value under a key takes the first cell that is not in use or has that key. The table then
is a function of everything that was put into it: the first `n` distinct keys, each with its latest
value, and blank cells behind them.

* `store_content` — putting a value
* `keys_content`, `used_content` — the keys are distinct, the cells in use come first
* `find?_content` — looking a key up
-/

namespace MayaOs.Lib

universe u v w

/-! ## What was put -/

section History

variable {κ : Type u} {ν : Type v} [DecidableEq κ] {puts : List (κ × ν)} {k : κ} {v : ν}

/-- The distinct keys in the order of their first occurrence. -/
def firstKeys (puts : List (κ × ν)) : List κ := (puts.map Prod.fst).eraseDups

/-- The last value that was put under a key. -/
def latest (puts : List (κ × ν)) (k : κ) : Option ν :=
  (puts.reverse.find? fun p => p.1 == k).map Prod.snd

theorem mem_firstKeys : k ∈ firstKeys puts ↔ ∃ p ∈ puts, p.1 = k := by
  rw [firstKeys, List.mem_eraseDups, List.mem_map]

theorem firstKeys_append_of_mem (h : k ∈ firstKeys puts) :
    firstKeys (puts ++ [(k, v)]) = firstKeys puts := by
  rw [firstKeys, List.mem_eraseDups] at h
  rw [firstKeys, List.map_append, List.eraseDups_append]
  simp [List.removeAll, h, firstKeys]

theorem firstKeys_append_of_not_mem (h : k ∉ firstKeys puts) :
    firstKeys (puts ++ [(k, v)]) = firstKeys puts ++ [k] := by
  rw [firstKeys, List.mem_eraseDups] at h
  rw [firstKeys, List.map_append, List.eraseDups_append]
  simp [List.removeAll, h, firstKeys, List.eraseDups_cons]

theorem nodup_firstKeys (puts : List (κ × ν)) : (firstKeys puts).Nodup := by
  induction puts using List.reverseRecOn with
  | nil => exact List.nodup_nil
  | append_singleton puts p ih =>
    by_cases h : p.1 ∈ firstKeys puts
    · rw [firstKeys_append_of_mem h]
      exact ih
    · rw [firstKeys_append_of_not_mem h]
      exact List.nodup_append.mpr ⟨ih, by simp, by
        intro a ha b hb hab
        rw [List.mem_singleton] at hb
        exact h (hb ▸ hab ▸ ha)⟩

theorem latest_append (puts : List (κ × ν)) (k : κ) (v : ν) (j : κ) :
    latest (puts ++ [(k, v)]) j = if j = k then some v else latest puts j := by
  unfold latest
  rw [List.reverse_append, List.reverse_singleton, List.singleton_append, List.find?_cons]
  by_cases hj : j = k
  · simp [hj]
  · rw [if_neg hj]
    have hkey : (k == j) = false := by simp [Ne.symm hj]
    simp [hkey]

/-- A key that was put has a latest value. -/
theorem latest_isSome (h : k ∈ firstKeys puts) : ∃ v, latest puts k = some v := by
  obtain ⟨p, hp, hk⟩ := mem_firstKeys.mp h
  cases hfind : puts.reverse.find? fun p => p.1 == k with
  | none =>
    have hno := List.find?_eq_none.mp hfind p (List.mem_reverse.mpr hp)
    simp [hk] at hno
  | some q => exact ⟨q.2, by simp [latest, hfind]⟩

end History

/-! ## The cells -/

section Cells

variable {κ : Type u} {ν : Type v} {ε : Type w} [DecidableEq κ]
variable (used : ε → Bool) (name : ε → κ)

/-- The loop stops at the first cell that is not in use or has the key, and fills it. -/
def store (cells : List ε) (k : κ) (e : ε) : List ε :=
  (cells.findIdx? fun c => !used c || name c == k).elim cells fun i => cells.set i e

theorem store_cons (c : ε) (cells : List ε) (k : κ) (e : ε) :
    store used name (c :: cells) k e =
      if used c = true ∧ name c ≠ k then c :: store used name cells k e else e :: cells := by
  unfold store
  rw [List.findIdx?_cons]
  by_cases h : used c = true ∧ name c ≠ k
  · rw [if_pos h, if_neg (by simp [h.1, h.2])]
    cases cells.findIdx? fun c => !used c || name c == k <;> rfl
  · rw [if_neg h]
    have hstop : (!used c || name c == k) = true := by
      rw [not_and_or, Bool.not_eq_true, not_not] at h
      rcases h with h | h <;> simp [h]
    rw [if_pos hstop]
    rfl

end Cells

/-- How keys and values are stored: `cell k v` is in use, and `blank` is not. -/
structure CellFormat (κ : Type u) (ν : Type v) (ε : Type w) where
  used : ε → Bool
  name : ε → κ
  cell : κ → Option ν → ε
  blank : ε
  used_cell : ∀ k v, used (cell k v) = true
  name_cell : ∀ k v, name (cell k v) = k
  used_blank : used blank = false

namespace CellFormat

variable {κ : Type u} {ν : Type v} {ε : Type w} [DecidableEq κ] (F : CellFormat κ ν ε)
variable {ks : List κ} {f g : κ → Option ν} {k : κ} {v : Option ν}

/-- A key that is there gets the new value. -/
theorem store_mem (hmem : k ∈ ks) (hnodup : ks.Nodup) (hk : g k = v)
    (hrest : ∀ j ≠ k, g j = f j) (rest : List ε) :
    store F.used F.name (ks.map (fun j => F.cell j (f j)) ++ rest) k (F.cell k v) =
      ks.map (fun j => F.cell j (g j)) ++ rest := by
  induction ks with
  | nil => cases hmem
  | cons j ks ih =>
    rw [List.map_cons, List.map_cons, List.cons_append, List.cons_append, store_cons, F.used_cell,
      F.name_cell]
    obtain ⟨hj, hnodup⟩ := List.nodup_cons.mp hnodup
    by_cases hjk : j = k
    · subst hjk
      rw [if_neg (by simp), hk]
      -- the other keys keep their values
      have hsame : ks.map (fun i => F.cell i (f i)) = ks.map fun i => F.cell i (g i) :=
        List.map_congr_left fun i hi => by rw [hrest i fun h => hj (h ▸ hi)]
      rw [hsame]
    · rw [if_pos ⟨rfl, hjk⟩, hrest j hjk]
      rcases List.mem_cons.mp hmem with h | h
      · exact absurd h.symm hjk
      · rw [ih h hnodup]

/-- A key that is not there goes behind the others. -/
theorem store_not_mem (hmem : k ∉ ks) (rest : List ε) (e : ε) :
    store F.used F.name (ks.map (fun j => F.cell j (f j)) ++ rest) k e =
      ks.map (fun j => F.cell j (f j)) ++ store F.used F.name rest k e := by
  induction ks with
  | nil => rfl
  | cons j ks ih =>
    rw [List.mem_cons, not_or] at hmem
    obtain ⟨hjk, hmem⟩ := hmem
    rw [List.map_cons, List.cons_append, store_cons, F.used_cell, F.name_cell,
      if_pos ⟨rfl, Ne.symm hjk⟩, ih hmem]
    rfl

theorem store_blank (m : Nat) (k : κ) (e : ε) :
    store F.used F.name (List.replicate (m + 1) F.blank) k e = e :: List.replicate m F.blank := by
  rw [List.replicate_succ, store_cons, F.used_blank, if_neg (by simp)]

/-- **What a table with `n` cells contains** after these values have been put into it. -/
def content (n : Nat) (puts : List (κ × ν)) : List ε :=
  ((firstKeys puts).take n).map (fun k => F.cell k (latest puts k)) ++
    List.replicate (n - (firstKeys puts).length) F.blank

/-- **Putting a value.** -/
theorem store_content (n : Nat) (puts : List (κ × ν)) (k : κ) (v : ν) :
    store F.used F.name (F.content n puts) k (F.cell k (some v)) =
      F.content n (puts ++ [(k, v)]) := by
  have hlatest : latest (puts ++ [(k, v)]) k = some v := by rw [latest_append, if_pos rfl]
  have hother : ∀ j ≠ k, latest (puts ++ [(k, v)]) j = latest puts j := fun j hj => by
    rw [latest_append, if_neg hj]
  unfold content
  by_cases hin : k ∈ (firstKeys puts).take n
  · rw [firstKeys_append_of_mem (List.mem_of_mem_take hin)]
    exact F.store_mem hin ((nodup_firstKeys puts).sublist (List.take_sublist ..)) hlatest hother _
  · -- the values of the keys that are there stay
    have hsame : ∀ ks : List κ, k ∉ ks → ks.map (fun j => F.cell j (latest (puts ++ [(k, v)]) j)) =
        ks.map fun j => F.cell j (latest puts j) := fun ks hks =>
      List.map_congr_left fun j hj => by rw [hother j fun h => hks (h ▸ hj)]
    rw [F.store_not_mem hin]
    by_cases hroom : (firstKeys puts).length < n
    · obtain ⟨m, hm⟩ : ∃ m, n = (firstKeys puts).length + (m + 1) :=
        ⟨n - (firstKeys puts).length - 1, by omega⟩
      rw [List.take_of_length_le (Nat.le_of_lt hroom)] at hin ⊢
      have hrest : n - (firstKeys puts ++ [k]).length = m := by
        rw [List.length_append, List.length_singleton]
        omega
      rw [firstKeys_append_of_not_mem hin, List.take_of_length_le (by simp; omega), List.map_append,
        hsame _ hin, hrest, hm, Nat.add_sub_cancel_left, F.store_blank]
      simp [hlatest]
    · have hfull : n - (firstKeys puts).length = 0 := by omega
      have htake : (firstKeys (puts ++ [(k, v)])).take n = (firstKeys puts).take n ∧
          n - (firstKeys (puts ++ [(k, v)])).length = 0 := by
        by_cases hmem : k ∈ firstKeys puts
        · rw [firstKeys_append_of_mem hmem]
          exact ⟨rfl, hfull⟩
        · rw [firstKeys_append_of_not_mem hmem, List.take_append_of_le_length (by omega),
            List.length_append]
          exact ⟨rfl, by omega⟩
      rw [htake.1, htake.2, hfull, hsame _ hin]
      rfl

/-- The keys of the cells in use are the first `n`. -/
theorem keys_content (n : Nat) (puts : List (κ × ν)) :
    keys F.used F.name (F.content n puts) = (firstKeys puts).take n := by
  have hused : ∀ c ∈ ((firstKeys puts).take n).map fun k => F.cell k (latest puts k),
      F.used c = true := by
    intro c hc
    obtain ⟨k, -, rfl⟩ := List.mem_map.mp hc
    exact F.used_cell k _
  have hname : (F.name ∘ fun k => F.cell k (latest puts k)) = id := funext fun k => F.name_cell k _
  unfold keys content
  rw [List.filter_append, List.filter_eq_self.mpr hused, List.filter_replicate, F.used_blank,
    if_neg (by simp), List.append_nil, List.map_map, hname, List.map_id]

/-- The cells in use come first. -/
theorem used_content (n : Nat) (puts : List (κ × ν)) :
    (F.content n puts).map F.used =
      List.replicate (min n (firstKeys puts).length) true ++
        List.replicate (n - (firstKeys puts).length) false := by
  unfold content
  simp [Function.comp_def, F.used_cell, F.used_blank, List.map_const']

/-- **Looking a key up.** -/
theorem find?_content (n : Nat) (puts : List (κ × ν)) (k : κ) :
    (F.content n puts).find? (fun c => F.used c && F.name c == k) =
      if k ∈ (firstKeys puts).take n then some (F.cell k (latest puts k)) else none := by
  unfold content
  have hblank : ∀ m, (List.replicate m F.blank).find? (fun c => F.used c && F.name c == k) = none := by
    intro m
    rw [List.find?_eq_none]
    intro c hc
    rw [List.eq_of_mem_replicate hc, F.used_blank]
    simp
  rw [List.find?_append, hblank, Option.or_none]
  induction (firstKeys puts).take n with
  | nil => rfl
  | cons j ks ih =>
    rw [List.map_cons, List.find?_cons, F.used_cell, F.name_cell, Bool.true_and]
    by_cases hjk : j = k
    · simp [hjk]
    · have hkey : (j == k) = false := by simp [hjk]
      rw [hkey]
      simp [ih, Ne.symm hjk]

end CellFormat

end MayaOs.Lib
