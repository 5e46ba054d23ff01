import Mathlib.Data.List.Basic

/-!
# Pictures in layers

A picture has a color at some positions. Pictures that are painted one after the other show at each
position the last one that has a color there.

* `Overlays.trans`, `overlays_foldlM` — pictures painted one after the other
* `findSome?_of_find?_none`, `findSome?_of_find?_some` — the picture that a search finds is the one
  that is seen
-/

namespace MayaOs.Lib

universe u v w x

variable {S : Type u} {P : Type v} {C : Type w} {α : Type x}

/-- One picture over another. -/
def atop (top bottom : P → Option C) (p : P) : Option C := (top p).or (bottom p)

/-- The positions on the screen show the picture, and what was there before elsewhere. -/
def Overlays (read : S → P → C) (onScreen : P → Prop) (s s' : S) (picture : P → Option C) : Prop :=
  ∀ p, onScreen p → read s' p = (picture p).getD (read s p)

variable {read : S → P → C} {onScreen : P → Prop} {s s' s'' : S} {picture picture' : P → Option C}

theorem Overlays.refl (s : S) : Overlays read onScreen s s fun _ => none := fun _ _ => rfl

theorem Overlays.trans (h : Overlays read onScreen s s' picture)
    (h' : Overlays read onScreen s' s'' picture') :
    Overlays read onScreen s s'' (atop picture' picture) := by
  intro p hp
  unfold atop
  rw [h' p hp, h p hp]
  cases picture' p <;> rfl

theorem Overlays.congr (h : Overlays read onScreen s s' picture)
    (heq : ∀ p, onScreen p → picture' p = picture p) : Overlays read onScreen s s' picture' := by
  intro p hp
  rw [heq p hp]
  exact h p hp

/-- The topmost of the pictures, the last one being on top. -/
def topmost (pictures : α → P → Option C) (l : List α) (p : P) : Option C :=
  l.reverse.findSome? fun a => pictures a p

theorem topmost_cons (pictures : α → P → Option C) (a : α) (l : List α) (p : P) :
    topmost pictures (a :: l) p = atop (topmost pictures l) (pictures a) p := by
  unfold topmost atop
  rw [List.reverse_cons, List.findSome?_append, List.findSome?_cons, List.findSome?_nil]
  cases pictures a p <;> rfl

/-- **Pictures painted one after the other.** -/
theorem overlays_foldlM {Inv : S → Prop} {paint : S → α → Option S} {pictures : α → P → Option C} :
    ∀ {l : List α}, (∀ a ∈ l, ∀ s, Inv s →
      ∃ s', paint s a = some s' ∧ Inv s' ∧ Overlays read onScreen s s' (pictures a)) →
      ∀ {s : S}, Inv s → ∃ s', l.foldlM paint s = some s' ∧ Inv s' ∧
        Overlays read onScreen s s' (topmost pictures l)
  | [], _, s, hs => ⟨s, rfl, hs, Overlays.refl s⟩
  | a :: l, h, s, hs => by
    obtain ⟨s₁, hpaint, hs₁, hfirst⟩ := h a List.mem_cons_self s hs
    obtain ⟨s', hrest, hs', hlast⟩ :=
      overlays_foldlM (fun b hb => h b (List.mem_cons_of_mem a hb)) hs₁
    refine ⟨s', ?_, hs', (hfirst.trans hlast).congr fun p _ => topmost_cons pictures a l p⟩
    rw [List.foldlM_cons, hpaint]
    exact hrest

/-! ## Searching for the topmost picture -/

variable {l : List α} {hit : α → Bool} {color color' : α → Option C} {a : α}

theorem findSome?_of_find?_none (hhit : ∀ b ∈ l, color b ≠ none → hit b = true)
    (h : l.find? hit = none) : l.findSome? color = none := by
  rw [List.findSome?_eq_none_iff]
  intro b hb
  by_contra hcolor
  exact List.find?_eq_none.mp h b hb (hhit b hb hcolor)

theorem findSome?_congr {l : List α} (h : ∀ b ∈ l, color' b = color b) :
    l.findSome? color' = l.findSome? color := by
  induction l with
  | nil => rfl
  | cons b l ih =>
    rw [List.findSome?_cons, List.findSome?_cons, h b List.mem_cons_self,
      ih fun c hc => h c (List.mem_cons_of_mem b hc)]

/-- **What is hit first is what is seen**, or it lets through what is behind it. -/
theorem findSome?_of_find?_some (hhit : ∀ b ∈ l, color b ≠ none → hit b = true)
    (hsame : ∀ b ∈ l, b ≠ a → color' b = color b) (hhidden : color' a = none)
    (h : l.find? hit = some a) :
    l.findSome? color = (color a).or (l.findSome? color') := by
  cases hcolor : color a with
  | none =>
    refine (findSome?_congr fun b hb => ?_).symm
    by_cases hba : b = a
    · rw [hba, hhidden, hcolor]
    · exact hsame b hb hba
  | some c =>
    obtain ⟨-, pre, post, rfl, hpre⟩ := List.find?_eq_some_iff_append.mp h
    have hbefore : pre.findSome? color = none :=
      findSome?_of_find?_none (fun b hb => hhit b (List.mem_append_left _ hb))
        (List.find?_eq_none.mpr fun b hb => by simpa using hpre b hb)
    rw [List.findSome?_append, hbefore, List.findSome?_cons, hcolor]
    rfl

end MayaOs.Lib
