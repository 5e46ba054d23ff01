import Mathlib.Data.List.Sort

/-!
# Lists kept in order of a key, first come first served

The greatest keys stand in front, and among equal keys whoever came first does.

* `Descending` — the order of the keys
* `insertBehind` — insertion behind everything that is not smaller
* `filter_insertBehind` — for each key, insertion puts the newcomer at the end
-/

namespace MayaOs.Lib

universe u v

variable {α : Type u} {β : Type v} [LinearOrder β] (key : α → β)

/-- The keys do not increase along the list. -/
def Descending (l : List α) : Prop := l.Pairwise fun a b => key b ≤ key a

/-- `a` in front of the first element with a smaller key. -/
def insertBehind (a : α) (l : List α) : List α :=
  l.orderedInsert (fun x y => key y < key x) a

variable {key}

/-! ## insertion -/

@[simp] theorem insertBehind_nil (a : α) : insertBehind key a [] = [a] := rfl

theorem insertBehind_cons (a b : α) (l : List α) :
    insertBehind key a (b :: l) = if key b < key a then a :: b :: l else b :: insertBehind key a l :=
  List.orderedInsert_cons ..

theorem insertBehind_perm (a : α) (l : List α) : (insertBehind key a l).Perm (a :: l) :=
  List.perm_orderedInsert ..

theorem mem_insertBehind {a b : α} {l : List α} : b ∈ insertBehind key a l ↔ b = a ∨ b ∈ l :=
  List.mem_orderedInsert ..

/-- A last element with a smaller key stays last. -/
theorem insertBehind_concat_of_lt {a b : α} (h : key b < key a) (l : List α) :
    insertBehind key a (l ++ [b]) = insertBehind key a l ++ [b] := by
  induction l with
  | nil => simp [insertBehind_cons, h]
  | cons c l ih =>
    rw [List.cons_append, insertBehind_cons, insertBehind_cons]
    split
    · rfl
    · rw [ih, List.cons_append]

theorem insertBehind_eq_concat {a : α} {l : List α} (h : ∀ b ∈ l, key a ≤ key b) :
    insertBehind key a l = l ++ [a] := by
  induction l with
  | nil => rfl
  | cons c l ih =>
    obtain ⟨hc, hl⟩ := List.forall_mem_cons.mp h
    rw [insertBehind_cons, if_neg (not_lt.mpr hc), ih hl, List.cons_append]

/-! ## order -/

theorem Descending.last_le {l : List α} {b : α} (h : Descending key (l ++ [b])) :
    ∀ c ∈ l, key b ≤ key c := by
  intro c hc
  exact (List.pairwise_append.mp h).2.2 c hc b (List.mem_singleton_self b)

theorem Descending.concat {l : List α} {a : α} (h : Descending key l)
    (ha : ∀ b ∈ l, key a ≤ key b) : Descending key (l ++ [a]) := by
  refine List.pairwise_append.mpr ⟨h, List.pairwise_singleton .., ?_⟩
  intro b hb c hc
  rw [List.mem_singleton.mp hc]
  exact ha b hb

theorem Descending.insertBehind {l : List α} (h : Descending key l) (a : α) :
    Descending key (insertBehind key a l) := by
  induction l with
  | nil => exact List.pairwise_singleton ..
  | cons c l ih =>
    obtain ⟨hc, hl⟩ := List.pairwise_cons.mp h
    rw [insertBehind_cons]
    split
    · next hlt =>
      refine List.pairwise_cons.mpr ⟨?_, h⟩
      intro b hb
      rcases List.mem_cons.mp hb with rfl | hb
      · exact hlt.le
      · exact (hc b hb).trans hlt.le
    · next hge =>
      refine List.pairwise_cons.mpr ⟨?_, ih hl⟩
      intro b hb
      rcases mem_insertBehind.mp hb with rfl | hb
      · exact not_lt.mp hge
      · exact hc b hb

/-- Only the keys of the members matter. -/
theorem Descending.congr {key' : α → β} {l : List α} (h : Descending key l)
    (hk : ∀ a ∈ l, key' a = key a) : Descending key' l := by
  refine List.Pairwise.imp_of_mem ?_ h
  intro a b ha hb hab
  rw [hk a ha, hk b hb]
  exact hab

/-! ## stability -/

/-- **For each key, insertion into a descending list puts the newcomer at the end.** -/
theorem filter_insertBehind {l : List α} (h : Descending key l) (a : α) (v : β) :
    (insertBehind key a l).filter (fun b => key b = v) = (l ++ [a]).filter fun b => key b = v := by
  induction l with
  | nil => rfl
  | cons c l ih =>
    obtain ⟨hc, hl⟩ := List.pairwise_cons.mp h
    rw [insertBehind_cons]
    split
    · next hlt =>
      by_cases hv : key a = v
      · -- everything from `c` on has a smaller key
        have hnone : (c :: l).filter (fun b => key b = v) = [] := by
          refine List.filter_eq_nil_iff.mpr fun b hb => ?_
          have hbc : key b ≤ key c := by
            rcases List.mem_cons.mp hb with rfl | hb
            · exact le_refl _
            · exact hc b hb
          simpa using (lt_of_le_of_lt hbc (hv ▸ hlt)).ne
        have hfront : a :: c :: l = [a] ++ (c :: l) := rfl
        rw [hfront, List.filter_append, List.filter_append, hnone, List.append_nil, List.nil_append]
      · rw [List.filter_append, List.filter_cons_of_neg (by simpa using hv)]
        simp [hv]
    · rw [List.cons_append, List.filter_cons, List.filter_cons, ih hl]

end MayaOs.Lib
