import Mathlib.Data.List.Nodup
import Mathlib.Logic.Function.Basic

/-!
# Singly linked lists in memory

A list of nodes threaded through a `next` field. `Chain next p l` says that following `next` from
`p` visits the nodes `l` and ends in `null`.

* `Chain.unique` — a pointer is the head of one list at most
* `Chain.update` — writing a node outside the list
* `Chain.append` — linking a new node behind the last one
* `Chain.unlink` — taking a node out behind its predecessor
-/

namespace MayaOs.Lib

universe u

variable {α : Type u} {null : α} {next : α → α}

/-- The nodes from `p` on, in order. -/
def Chain (null : α) (next : α → α) : α → List α → Prop
  | p, [] => p = null
  | p, a :: l => p = a ∧ a ≠ null ∧ Chain null next (next a) l

/-- The list is empty iff the pointer is `null`. -/
theorem Chain.eq_nil_iff {p : α} {l : List α} (h : Chain null next p l) : l = [] ↔ p = null := by
  cases l with
  | nil => exact ⟨fun _ => h, fun _ => rfl⟩
  | cons a l =>
    obtain ⟨rfl, hne, -⟩ := h
    exact ⟨fun he => absurd he (List.cons_ne_nil p l), fun he => absurd he hne⟩

theorem Chain.head?_eq {p : α} {l : List α} (h : Chain null next p l) (hp : p ≠ null) :
    l.head? = some p := by
  cases l with
  | nil => exact absurd h hp
  | cons a l => rw [List.head?_cons, h.1]

/-- No node is `null`. -/
theorem Chain.ne_null : ∀ {l : List α} {p : α}, Chain null next p l → ∀ a ∈ l, a ≠ null := by
  intro l
  induction l with
  | nil => intro p _ a ha; cases ha
  | cons b l ih =>
    intro p h a ha
    rcases List.mem_cons.mp ha with rfl | ha
    · exact h.2.1
    · exact ih h.2.2 a ha

/-- **A pointer is the head of one list at most.** -/
theorem Chain.unique : ∀ {l l' : List α} {p : α}, Chain null next p l → Chain null next p l' →
    l = l' := by
  intro l
  induction l with
  | nil => intro l' p h h'; exact ((h'.eq_nil_iff).mpr h).symm
  | cons a l ih =>
    intro l' p h h'
    obtain ⟨rfl, hne, hrest⟩ := h
    cases l' with
    | nil => exact absurd h' hne
    | cons b l' =>
      obtain ⟨rfl, -, hrest'⟩ := h'
      rw [ih hrest hrest']

/-- Lists are the same in memories that agree on their nodes. -/
theorem Chain.congr {next' : α → α} : ∀ {l : List α} {p : α}, Chain null next p l →
    (∀ a ∈ l, next' a = next a) → Chain null next' p l := by
  intro l
  induction l with
  | nil => intro p h _; exact h
  | cons a l ih =>
    intro p h heq
    refine ⟨h.1, h.2.1, ?_⟩
    rw [heq a List.mem_cons_self]
    exact ih h.2.2 (fun b hb => heq b (List.mem_cons_of_mem a hb))

/-! ## writing nodes -/

variable [DecidableEq α]

/-- **Writing a node outside the list leaves the list alone.** -/
theorem Chain.update {l : List α} {p a b : α} (h : Chain null next p l) (ha : a ∉ l) :
    Chain null (Function.update next a b) p l :=
  h.congr fun c hc => Function.update_of_ne (fun he : c = a => ha (he ▸ hc)) ..

/-- **Linking a new node behind the last one.** -/
theorem Chain.append {b : α} (hb : b ≠ null) : ∀ {l : List α} {p last : α},
    Chain null next p l → l.Nodup → l.getLast? = some last → b ∉ l → next b = null →
      Chain null (Function.update next last b) p (l ++ [b]) := by
  intro l
  induction l with
  | nil => intro p last _ _ hlast; cases hlast
  | cons a l ih =>
    intro p last h hnodup hlast hnot hnext
    obtain ⟨hp, hne, hrest⟩ := h
    simp only [List.mem_cons, not_or] at hnot
    refine ⟨hp, hne, ?_⟩
    cases l with
    | nil =>
      -- `a` is the last node; `b` ends the list
      obtain rfl : a = last := by simpa using hlast
      rw [Function.update_self]
      refine ⟨rfl, hb, ?_⟩
      rw [Function.update_of_ne hnot.1]
      exact hnext
    | cons c l =>
      rw [List.getLast?_cons_cons] at hlast
      have hal : a ≠ last := by
        rintro rfl
        exact (List.nodup_cons.mp hnodup).1 (List.mem_of_getLast? hlast)
      rw [Function.update_of_ne hal]
      exact ih hrest (List.nodup_cons.mp hnodup).2 hlast hnot.2 hnext

/-- **Taking a node out**: its predecessor gets its `next`. -/
theorem Chain.unlink : ∀ {pre post : List α} {p a b : α},
    Chain null next p (pre ++ a :: b :: post) → (pre ++ a :: b :: post).Nodup →
      Chain null (Function.update next a (next b)) p (pre ++ a :: post) := by
  intro pre
  induction pre with
  | nil =>
    intro post p a b h hnodup
    obtain ⟨hp, hne, -, -, hpost⟩ := h
    refine ⟨hp, hne, ?_⟩
    rw [Function.update_self]
    exact hpost.update fun ha => (List.nodup_cons.mp hnodup).1 (List.mem_cons_of_mem b ha)
  | cons c pre ih =>
    intro post p a b h hnodup
    obtain ⟨hp, hne, hrest⟩ := h
    obtain ⟨hc, hnodup'⟩ := List.nodup_cons.mp hnodup
    have hca : c ≠ a := by
      rintro rfl
      exact hc (List.mem_append_right pre List.mem_cons_self)
    refine ⟨hp, hne, ?_⟩
    rw [Function.update_of_ne hca]
    exact ih hrest hnodup'

end MayaOs.Lib
