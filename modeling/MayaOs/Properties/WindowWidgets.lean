import MayaOs.Gui.Widgets
import MayaOs.Lib.LinkedList
import MayaOs.Properties.WindowRecords

/-!
# The list of widgets

`window_add_widget` links the widgets behind each other, `window_draw_widgets` follows the links.
Both start from the field `widgets`, which `window_create` leaves as it was in memory.

* `addWidget_chain` — one call of `window_add_widget` on a list that ends
* `drawn_of_clear` — from an empty list the widgets are drawn in order
* `not_drawn_of_garbage` — from anything else they never are
* `widgets_drawn_iff` — the memory decides
-/

namespace MayaOs.Gui

open MayaOs.Lib
open MayaOs.Kernel (null)

/-! ## The loops -/

variable {next : WidgetPtr → WidgetPtr}

theorem lastWidget_chain : ∀ {l : List WidgetPtr} {p last : WidgetPtr} {fuel : Nat},
    Chain null next p l → l.getLast? = some last → l.length ≤ fuel →
      lastWidget next fuel p = some last := by
  intro l
  induction l with
  | nil => intro p last fuel _ hlast _; cases hlast
  | cons a l ih =>
    intro p last fuel h hlast hfuel
    obtain ⟨rfl, hne, hrest⟩ := h
    cases fuel with
    | zero => simp at hfuel
    | succ fuel =>
      rw [lastWidget]
      cases l with
      | nil =>
        rw [if_pos (show next p = null from hrest)]
        exact hlast
      | cons b l =>
        rw [if_neg fun hnull => by rw [hnull] at hrest; exact hrest.2.1 hrest.1.symm]
        exact ih hrest (by rwa [List.getLast?_cons_cons] at hlast) (by simpa using hfuel)

theorem drawFrom_chain : ∀ {l : List WidgetPtr} {p : WidgetPtr} {fuel : Nat},
    Chain null next p l → l.length < fuel → drawFrom next fuel p = some l := by
  intro l
  induction l with
  | nil =>
    intro p fuel h hfuel
    cases fuel with
    | zero => omega
    | succ fuel => rw [drawFrom, if_pos (show p = null from h)]
  | cons a l ih =>
    intro p fuel h hfuel
    obtain ⟨rfl, hne, hrest⟩ := h
    cases fuel with
    | zero => omega
    | succ fuel =>
      rw [drawFrom, if_neg hne, ih hrest (by simpa using hfuel)]
      rfl

/-- A widget that is linked to itself is followed forever. -/
theorem lastWidget_loop {p : WidgetPtr} (hp : p ≠ null) (hloop : next p = p) :
    ∀ fuel, lastWidget next fuel p = none := by
  intro fuel
  induction fuel with
  | zero => rfl
  | succ fuel ih => rw [lastWidget, hloop, if_neg hp, ih]

theorem drawFrom_loop {p : WidgetPtr} (hp : p ≠ null) (hloop : next p = p) :
    ∀ fuel, drawFrom next fuel p = none := by
  intro fuel
  induction fuel with
  | zero => rfl
  | succ fuel ih => rw [drawFrom, hloop, if_neg hp, ih]; rfl

/-- What is drawn starts at `curr`. -/
theorem head?_drawFrom {curr : WidgetPtr} (hcurr : curr ≠ null) {fuel : Nat}
    {l : List WidgetPtr} (h : drawFrom next fuel curr = some l) : l.head? = some curr := by
  cases fuel with
  | zero => cases h
  | succ fuel =>
    rw [drawFrom, if_neg hcurr] at h
    obtain ⟨rest, -, rfl⟩ := Option.map_eq_some_iff.mp h
    rfl

/-! ## Adding and drawing -/

/-- The calls of `window_add_widget`, one after the other. -/
def addWidgets (fuel : Nat) (window : WindowPtr) (s : WidgetState) (ws : List WidgetPtr) :
    Option WidgetState :=
  ws.foldlM (windowAddWidget fuel window) s

/-- The loops end, and the widgets are drawn in the order in which they were added. -/
def DrawsAdded (s : WidgetState) (window : WindowPtr) (ws : List WidgetPtr) : Prop :=
  ∃ fuel t, addWidgets fuel window s ws = some t ∧ windowDrawWidgets fuel t window = some ws

/-- Distinct widgets that are in no list. -/
structure FreshWidgets (s : WidgetState) (ws : List WidgetPtr) : Prop where
  nodup : ws.Nodup
  nonnull : null ∉ ws
  unlinked : ∀ w ∈ ws, s.next w = null

/-- **One call** links a widget behind the others. -/
theorem addWidget_chain {s : WidgetState} {window : WindowPtr} (hwindow : window ≠ null)
    {l : List WidgetPtr} (h : Chain null s.next (s.widgets window) l) (hnodup : l.Nodup)
    {w : WidgetPtr} (hw : w ≠ null) (hnot : w ∉ l) (hnext : s.next w = null) (fuel : Nat)
    (hfuel : l.length ≤ fuel) :
    ∃ t, windowAddWidget fuel window s w = some t ∧
      Chain null t.next (t.widgets window) (l ++ [w]) ∧
        ∀ v, v ∉ l → t.next v = s.next v := by
  unfold windowAddWidget
  rw [if_neg (by simp [hwindow, hw])]
  by_cases hempty : s.widgets window = null
  · obtain rfl : l = [] := h.eq_nil_iff.mpr hempty
    rw [if_pos hempty]
    refine ⟨_, rfl, ?_, fun _ _ => rfl⟩
    show Chain null s.next (Function.update s.widgets window w window) [w]
    rw [Function.update_self]
    exact ⟨rfl, hw, hnext⟩
  · rw [if_neg hempty]
    obtain ⟨last, hlast⟩ : ∃ last, l.getLast? = some last := by
      rw [← Option.isSome_iff_exists, List.getLast?_isSome]
      exact fun hnil => hempty (h.eq_nil_iff.mp hnil)
    rw [lastWidget_chain h hlast hfuel]
    refine ⟨_, rfl, h.append hw hnodup hlast hnot hnext, fun v hv => ?_⟩
    have hne : v ≠ last := fun he => hv (he ▸ List.mem_of_getLast? hlast)
    exact Function.update_of_ne hne ..

theorem addWidgets_chain {window : WindowPtr} (hwindow : window ≠ null) (fuel : Nat) :
    ∀ {ws : List WidgetPtr} {s : WidgetState} {l : List WidgetPtr},
      Chain null s.next (s.widgets window) l → (l ++ ws).Nodup → null ∉ ws →
        (∀ w ∈ ws, s.next w = null) → (l ++ ws).length ≤ fuel →
          ∃ t, addWidgets fuel window s ws = some t ∧
            Chain null t.next (t.widgets window) (l ++ ws) := by
  intro ws
  induction ws with
  | nil =>
    intro s l h _ _ _ _
    exact ⟨s, rfl, by rwa [List.append_nil]⟩
  | cons w ws ih =>
    intro s l h hnodup hnonnull hnext hfuel
    obtain ⟨hnull, hnonnull'⟩ := not_or.mp (fun hm => hnonnull (List.mem_cons.mpr hm))
    have hnot : w ∉ l := fun hm =>
      (List.nodup_append.mp hnodup).2.2 w hm w List.mem_cons_self rfl
    obtain ⟨s', hadd, hchain, hframe⟩ := addWidget_chain hwindow h
      (List.nodup_append.mp hnodup).1 (Ne.symm hnull) hnot (hnext w List.mem_cons_self)
      fuel (by rw [List.length_append] at hfuel; omega)
    rw [List.append_cons] at hnodup hfuel
    have hnext' : ∀ v ∈ ws, s'.next v = null := by
      intro v hv
      have hvl : v ∉ l := fun hm => (List.nodup_append.mp hnodup).2.2 v
        (List.mem_append_left _ hm) v hv rfl
      rw [hframe v hvl]
      exact hnext v (List.mem_cons_of_mem w hv)
    obtain ⟨t, ht, hend⟩ := ih hchain hnodup hnonnull' hnext' hfuel
    refine ⟨t, ?_, by rwa [List.append_cons]⟩
    rw [addWidgets, List.foldlM_cons, hadd]
    exact ht

/-- **From an empty list** the widgets are drawn in order. -/
theorem drawn_of_clear {s : WidgetState} {window : WindowPtr} (hwindow : window ≠ null)
    (hclear : s.widgets window = null) {ws : List WidgetPtr} (hws : FreshWidgets s ws) :
    DrawsAdded s window ws := by
  have hempty : Chain null s.next (s.widgets window) [] := hclear
  obtain ⟨t, ht, hchain⟩ := addWidgets_chain hwindow (ws.length + 1) hempty hws.nodup
    hws.nonnull hws.unlinked (by simp)
  refine ⟨ws.length + 1, t, ht, ?_⟩
  rw [windowDrawWidgets, if_neg hwindow]
  exact drawFrom_chain hchain (Nat.lt_succ_self _)

/-- The head of the list stays what it is. -/
theorem addWidgets_head {window : WindowPtr} {fuel : Nat} :
    ∀ {ws : List WidgetPtr} {s t : WidgetState}, s.widgets window ≠ null →
      addWidgets fuel window s ws = some t → t.widgets = s.widgets := by
  intro ws
  induction ws with
  | nil => intro s t _ h; cases h; rfl
  | cons w ws ih =>
    intro s t hhead h
    rw [addWidgets, List.foldlM_cons] at h
    obtain ⟨s', hadd, hrest⟩ := Option.bind_eq_some_iff.mp h
    have hsame : s'.widgets = s.widgets := by
      unfold windowAddWidget at hadd
      rw [if_neg hhead] at hadd
      split at hadd
      · cases hadd; rfl
      · obtain ⟨last, -, rfl⟩ := Option.map_eq_some_iff.mp hadd
        rfl
    rw [ih (by rw [hsame]; exact hhead) hrest, hsame]

/-- **From a head that `window_create` found in memory** they never are. -/
theorem not_drawn_of_garbage {s : WidgetState} {window : WindowPtr} (hwindow : window ≠ null)
    (hgarbage : s.widgets window ≠ null) {ws : List WidgetPtr} (hws : FreshWidgets s ws) :
    ¬ DrawsAdded s window ws := by
  rintro ⟨fuel, t, ht, hdraw⟩
  have hhead := addWidgets_head hgarbage ht
  rw [windowDrawWidgets, if_neg hwindow, hhead] at hdraw
  have hfirst := head?_drawFrom hgarbage hdraw
  cases ws with
  | nil => cases hfirst
  | cons w ws =>
    -- the head is the first widget, which the first call links to itself
    obtain rfl : w = s.widgets window := Option.some.inj hfirst
    have hnext := hws.unlinked _ List.mem_cons_self
    rw [addWidgets, List.foldlM_cons] at ht
    obtain ⟨s', hadd, hrest⟩ := Option.bind_eq_some_iff.mp ht
    have hloop : s'.next (s.widgets window) = s.widgets window ∧ s'.widgets = s.widgets := by
      unfold windowAddWidget at hadd
      rw [if_neg (by simp [hwindow, hgarbage]), if_neg hgarbage] at hadd
      obtain ⟨last, hlast, rfl⟩ := Option.map_eq_some_iff.mp hadd
      cases fuel with
      | zero => cases hlast
      | succ fuel =>
        rw [lastWidget, if_pos hnext] at hlast
        cases hlast
        exact ⟨Function.update_self .., rfl⟩
    cases ws with
    | nil =>
      cases hrest
      rw [drawFrom_loop hgarbage hloop.1] at hdraw
      cases hdraw
    | cons v ws =>
      rw [List.foldlM_cons] at hrest
      obtain ⟨s'', hadd', -⟩ := Option.bind_eq_some_iff.mp hrest
      have hv : v ≠ null := fun he => hws.nonnull (by simp [he])
      unfold windowAddWidget at hadd'
      rw [if_neg (by simp [hwindow, hv]), hloop.2, if_neg hgarbage,
        lastWidget_loop hgarbage hloop.1] at hadd'
      cases hadd'

/-! ## The result -/

/--
**The widgets added to a new window are drawn in order iff the memory of its record had a NULL
where the field `widgets` is.**
-/
theorem widgets_drawn_iff (s : WidgetState) (title : Option (List UInt8))
    (x y width height : Int32) (block buffer : Nat) {window : WindowPtr} {t : WidgetState}
    (hcreate : widgetWindowCreate s title x y width height block buffer = (window, t))
    (hwindow : window ≠ null) {ws : List WidgetPtr} (hws : FreshWidgets t ws) :
    DrawsAdded t window ws ↔ s.widgets block = null := by
  obtain ⟨hpointer, hstate⟩ := Prod.mk.inj hcreate
  have hblock : window = block := by
    rw [← hpointer] at hwindow ⊢
    exact (windowCreate_record hwindow).1
  have hhead : t.widgets window = s.widgets block := by rw [← hstate, hblock]
  rw [← hhead]
  constructor
  · intro hdraws
    by_contra hgarbage
    exact not_drawn_of_garbage hwindow hgarbage hws hdraws
  · exact fun hclear => drawn_of_clear hwindow hclear hws

/-- A window manager without windows, in memory whose words are `word` where a list begins. -/
def freshMemory (word : WidgetPtr) : WidgetState where
  gui := windowManagerInit (GuiState.boot fun _ => newWindow [] 0 0 0 0 0 0)
  widgets := fun _ => word
  next := fun _ => null

theorem widgets_drawn_clear :
    DrawsAdded (widgetWindowCreate (freshMemory null) (some []) 50 50 200 100 1 2).2 1 [3, 4] :=
  (widgets_drawn_iff (freshMemory null) (some []) 50 50 200 100 1 2 rfl (by decide)
    ⟨by decide, by decide, fun _ _ => rfl⟩).mpr rfl

/-- A word that was left in the memory is taken for a widget. -/
theorem widgets_not_drawn :
    (widgetWindowCreate (freshMemory 7) (some []) 50 50 200 100 1 2).1 = 1 ∧
      ¬ DrawsAdded (widgetWindowCreate (freshMemory 7) (some []) 50 50 200 100 1 2).2 1 [3, 4] :=
  ⟨rfl, not_drawn_of_garbage (by decide) (by decide) ⟨by decide, by decide, fun _ _ => rfl⟩⟩

end MayaOs.Gui
