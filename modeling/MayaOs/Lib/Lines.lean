import Mathlib.Data.List.Basic

/-!
# Lines of a text

A text is split at a separator. What is typed at the end of a text or taken off there changes its
last line only, or opens or closes a line.

* `splitOn_concat_self` — a separator opens a line
* `splitOn_concat_of_ne` — anything else is added to the last line
* `splitOn_dropLast_concat`, `splitOn_dropLast_nil` — what was added last is taken off
-/

namespace MayaOs.Lib

universe u

variable {α : Type u} [BEq α] [LawfulBEq α] {sep : α}

omit [LawfulBEq α] in
/-- There is a last line. -/
theorem exists_splitOn (sep : α) (text : List α) :
    ∃ above last, text.splitOn sep = above ++ [last] := by
  rcases List.eq_nil_or_concat (text.splitOn sep) with hnil | ⟨above, last, heq⟩
  · exact absurd hnil (List.splitOn_ne_nil sep text)
  · exact ⟨above, last, by rw [heq, List.concat_eq_append]⟩

theorem splitOn_concat_self (sep : α) (text : List α) :
    (text ++ [sep]).splitOn sep = text.splitOn sep ++ [[]] := by
  rw [List.splitOn_append_cons_self, List.splitOn_nil]

theorem splitOn_concat_of_ne {c : α} (hc : c ≠ sep) : ∀ {text : List α} {above : List (List α)}
    {last : List α}, text.splitOn sep = above ++ [last] →
      (text ++ [c]).splitOn sep = above ++ [last ++ [c]] := by
  intro text
  induction text with
  | nil =>
    intro above last h
    rw [List.splitOn_nil] at h
    have hlast : [] ++ [[]] = above ++ [last] := h
    obtain ⟨rfl, rfl⟩ := List.append_singleton_inj.mp hlast
    rw [List.nil_append, List.splitOn_cons_eq_if_modifyHead, if_neg (by simpa using hc),
      List.splitOn_nil]
    rfl
  | cons x text ih =>
    intro above last h
    obtain ⟨above', last', htext⟩ := exists_splitOn sep text
    rw [List.cons_append, List.splitOn_cons_eq_if_modifyHead, ih htext]
    rw [List.splitOn_cons_eq_if_modifyHead, htext] at h
    split at h
    · next hx =>
      rw [if_pos hx]
      rw [← List.cons_append] at h
      obtain ⟨rfl, rfl⟩ := List.append_singleton_inj.mp h
      rw [List.cons_append]
    · next hx =>
      rw [if_neg hx]
      cases above' with
      | nil =>
        have hlast : [] ++ [x :: last'] = above ++ [last] := h
        obtain ⟨rfl, rfl⟩ := List.append_singleton_inj.mp hlast
        rfl
      | cons line above' =>
        have hlast : ((x :: line) :: above') ++ [last'] = above ++ [last] := h
        obtain ⟨rfl, rfl⟩ := List.append_singleton_inj.mp hlast
        rfl

variable {text : List α} {above : List (List α)} {last : List α}

/-- The last character of a line is taken off. -/
theorem splitOn_dropLast_concat {c : α} (h : text.splitOn sep = above ++ [last ++ [c]]) :
    text.dropLast.splitOn sep = above ++ [last] := by
  rcases List.eq_nil_or_concat text with rfl | ⟨init, d, rfl⟩
  · rw [List.splitOn_nil] at h
    have hlast : [] ++ [[]] = above ++ [last ++ [c]] := h
    simpa using (List.append_singleton_inj.mp hlast).2
  · rw [List.concat_eq_append] at h ⊢
    rw [List.dropLast_concat]
    obtain ⟨above', last', hinit⟩ := exists_splitOn sep init
    by_cases hd : d = sep
    · rw [hd, splitOn_concat_self] at h
      simpa using (List.append_singleton_inj.mp h).2
    · rw [splitOn_concat_of_ne hd hinit] at h
      obtain ⟨rfl, hlast⟩ := List.append_singleton_inj.mp h
      rw [hinit, (List.append_singleton_inj.mp hlast).1]

/-- A line break is taken off. -/
theorem splitOn_dropLast_nil (h : text.splitOn sep = above ++ [[]]) (habove : above ≠ []) :
    text.dropLast.splitOn sep = above := by
  rcases List.eq_nil_or_concat text with rfl | ⟨init, d, rfl⟩
  · rw [List.splitOn_nil] at h
    have hlast : [] ++ [[]] = above ++ [[]] := h
    exact absurd (List.append_singleton_inj.mp hlast).1.symm habove
  · rw [List.concat_eq_append] at h ⊢
    rw [List.dropLast_concat]
    obtain ⟨above', last', hinit⟩ := exists_splitOn sep init
    by_cases hd : d = sep
    · rw [hd, splitOn_concat_self] at h
      exact (List.append_singleton_inj.mp h).1
    · rw [splitOn_concat_of_ne hd hinit] at h
      simpa using (List.append_singleton_inj.mp h).2

/-- The text without any line break and character. -/
theorem splitOn_eq_singleton_nil (h : text.splitOn sep = [[]]) : text = [] := by
  have hjoin : [sep].intercalate (text.splitOn sep) = text := List.intercalate_splitOn sep
  rw [h] at hjoin
  exact hjoin.symm

end MayaOs.Lib
