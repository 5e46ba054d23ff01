import MayaOs.Properties.WindowShape

/-!
# Dragging a window

A press on the title bar starts a drag, the events that follow move the window. The scan for the
window under the pointer comes first and returns, so only an event that is over no window gets to
the drag.

* `leftDown_grab` — the press
* `leftDown_dragging` — an event with the button held
* `drag_follows` — a drag that stays clear of the windows follows the pointer and ends
-/

namespace MayaOs.Gui

open MayaOs.Lib
open MayaOs.Kernel (null)

/-! ## Events of a drag -/

/-- The position of an event, and what `kmalloc` returns if it is called. -/
structure Pointer where
  x : Int32
  y : Int32
  buffer : Nat

/-- An event with the left button down. -/
def leftDown (g : GuiState) (p : Pointer) : Option GuiState :=
  some (windowHandleMouse g p.x p.y true p.buffer).2

/-- An event without the left button. -/
def leftUp (g : GuiState) (p : Pointer) : GuiState :=
  (windowHandleMouse g p.x p.y false p.buffer).2

/-- The topmost visible window under the pointer. -/
def under (g : GuiState) (p : Pointer) : Option WindowPtr := windowAt g p.x p.y g.wm.windowCount

/-- Outside the three buttons of the title bar. -/
def OutsideButtons (r : Window) (relX relY : Int32) : Prop :=
  inside relX relY r.closeX r.closeY r.closeW r.closeH = false ∧
    inside relX relY r.maxX r.maxY r.maxW r.maxH = false ∧
      inside relX relY r.minX r.minY r.minW r.minH = false

instance (r : Window) (relX relY : Int32) : Decidable (OutsideButtons r relX relY) :=
  inferInstanceAs (Decidable (_ ∧ _))

/-- A press at `p` takes hold of the title bar of `w`. -/
structure Grabs (g : GuiState) (w : WindowPtr) (p : Pointer) : Prop where
  topmost : under g p = some w
  bar : p.y < (g.mem w).y + windowTitleHeight
  outside : OutsideButtons (g.mem w) (p.x - (g.mem w).x) (p.y - (g.mem w).y)

/-- The window is at the position of the pointer minus the grab offset. -/
def HeldAt (w : WindowPtr) (dx dy : Int32) (p : Pointer) (g : GuiState) : Prop :=
  (g.mem w).x = p.x - dx ∧ (g.mem w).y = p.y - dy

instance (w : WindowPtr) (dx dy : Int32) (p : Pointer) (g : GuiState) :
    Decidable (HeldAt w dx dy p g) :=
  inferInstanceAs (Decidable (_ ∧ _))

/-- The window follows the pointer through the events, and the release ends the drag in place. -/
structure DragFollows (g : GuiState) (w : WindowPtr) (dx dy : Int32) (events : List Pointer)
    (release : Pointer) : Prop where
  follows : Along leftDown (fun _ p g' => HeldAt w dx dy p g') g events
  ends : ∀ t, run leftDown g events = some t →
    ((leftUp t release).mem w).dragging = false ∧
      ((leftUp t release).mem w).x = (t.mem w).x ∧ ((leftUp t release).mem w).y = (t.mem w).y

/--
No event but a repeated one is over a window, and the window was not left in a drag before.

`under g p` is what the scan of `window_handle_mouse` finds before it gets to the drag.
-/
structure DragClear (g : GuiState) (w : WindowPtr) (dx dy : Int32) (events : List Pointer)
    (release : Pointer) : Prop where
  fresh : (g.mem w).dragging = false
  held : Along leftDown
    (fun g p _ => under g p = none ∨ under g p = some w ∧ HeldAt w dx dy p g) g events
  released : ∀ t, run leftDown g events = some t → under t release = none

/-! ## The drag -/

/-- Between the press and the release. -/
structure Dragging (w : WindowPtr) (dx dy : Int32) (g : GuiState) : Prop where
  on : g.wm.initialized = true
  nonnull : w ≠ null
  focused : g.wm.focusedWindow = w
  dragging : (g.mem w).dragging = true
  startX : g.dragStartX = dx
  startY : g.dragStartY = dy
  outside : OutsideButtons (g.mem w) dx dy

theorem windowAt_bounds {g : GuiState} {x y : Int32} {w : WindowPtr} :
    ∀ {n : Nat}, windowAt g x y n = some w →
      (g.mem w).x ≤ x ∧ x < (g.mem w).x + (g.mem w).width ∧
        (g.mem w).y ≤ y ∧ y < (g.mem w).y + (g.mem w).height := by
  intro n
  induction n with
  | zero => intro h; cases h
  | succ n ih =>
    intro h
    rw [windowAt] at h
    split at h
    · exact ih h
    · split at h
      · next hin => cases h; exact hin
      · exact ih h

/-- The corner for resizing is below the title bar. -/
theorem bar_above_corner {y top height : Int32} (hin : top ≤ y)
    (hbar : y < top + windowTitleHeight) (hheight : minWindowHeight ≤ height) :
    ¬ height - 15 < y - top := by
  have h1 := top.toInt_lt
  have h2 := top.le_toInt
  have h3 := y.toInt_lt
  have h4 := y.le_toInt
  have h5 := height.toInt_lt
  simp [windowTitleHeight, minWindowHeight, Int32.lt_iff_toInt_lt, Int32.le_iff_toInt_le,
    Int32.toInt_add, Int32.toInt_sub, Int.bmod_def] at *
  split_ifs at * <;> omega

/-- Where nothing is under the pointer, the event gets to the drag. -/
theorem windowHandleMouse_clear {g : GuiState} (hon : g.wm.initialized = true) {x y : Int32}
    (hnone : windowAt g x y g.wm.windowCount = none) (left : Bool) (buffer : Nat) :
    windowHandleMouse g x y left buffer = handleDrag g x y left := by
  unfold windowHandleMouse
  rw [hnone, if_neg (by simp [hon])]

/-- A press on the title bar outside the buttons. -/
theorem leftDown_bar {g : GuiState} (hon : g.wm.initialized = true) {w : WindowPtr} {p : Pointer}
    (hgrab : Grabs g w p) :
    leftDown g p = some (startDrag g w (p.x - (g.mem w).x) (p.y - (g.mem w).y)) := by
  have hat : windowAt g p.x p.y g.wm.windowCount = some w := hgrab.topmost
  obtain ⟨hclose, hmax, -⟩ := hgrab.outside
  unfold leftDown windowHandleMouse
  rw [hat, if_neg (by simp [hon])]
  simp [hgrab.bar, clickTitle, hclose, hmax]

theorem windowFocus_focused {g : GuiState} {w : WindowPtr} (hon : g.wm.initialized = true)
    (hw : w ≠ null) :
    (windowFocus g w).wm.focusedWindow = w ∧ (windowFocus g w).wm.initialized = true := by
  unfold windowFocus
  rw [if_neg (by simp [hon, hw])]
  split
  · next hf => exact ⟨hf, hon⟩
  · refine ⟨rfl, ?_⟩
    show (moveToTop g w).wm.initialized = true
    unfold moveToTop
    split <;> exact hon

/-- The window is brought to the top and taken hold of. -/
def grabbed (g : GuiState) (w : WindowPtr) (dx dy : Int32) : GuiState :=
  { (windowFocus g w).modify w fun r => { r with dragging := true } with
    dragStartX := dx
    dragStartY := dy }

theorem grabbed_mem (g : GuiState) (w : WindowPtr) (dx dy : Int32) :
    (grabbed g w dx dy).mem w = { (windowFocus g w).mem w with dragging := true } :=
  Function.update_self ..

/-- **The press** takes hold of the window where it is. -/
theorem leftDown_grab {g : GuiState} {l : List WindowPtr} (hl : Stacked g l) (ht : Keeps HasShape g)
    {w : WindowPtr} {p : Pointer} (hgrab : Grabs g w p) (hfresh : (g.mem w).dragging = false) :
    ∃ g', leftDown g p = some g' ∧
      Dragging w (p.x - (g.mem w).x) (p.y - (g.mem w).y) g' ∧
        HeldAt w (p.x - (g.mem w).x) (p.y - (g.mem w).y) p g' := by
  have hw : w ∈ l := windowAt_mem hl p.x p.y (Nat.le_refl _) hgrab.topmost
  have hnonnull : w ≠ null := fun he => hl.nonnull (he ▸ hw)
  have hon : g.wm.initialized = true := hl.on_of_mem hw
  obtain ⟨-, -, hin, -⟩ := windowAt_bounds hgrab.topmost
  have hcorner := bar_above_corner hin hgrab.bar (ht w ((hl.live w).mp hw)).tall
  obtain ⟨hfocused, hinit⟩ := windowFocus_focused hon hnonnull
  obtain ⟨i, hrecord⟩ := windowFocus_record g w w
  have hstart : startDrag g w (p.x - (g.mem w).x) (p.y - (g.mem w).y) =
      grabbed g w (p.x - (g.mem w).x) (p.y - (g.mem w).y) := by
    unfold startDrag
    rw [if_neg (by simp [hfresh])]
    dsimp only
    rw [hrecord, if_neg fun h => hcorner h.2]
    rfl
  have hmem := grabbed_mem g w (p.x - (g.mem w).x) (p.y - (g.mem w).y)
  rw [hrecord] at hmem
  refine ⟨grabbed g w (p.x - (g.mem w).x) (p.y - (g.mem w).y),
    by rw [leftDown_bar hon hgrab, hstart], ⟨hinit, hnonnull, hfocused, ?_, rfl, rfl, ?_⟩, ?_⟩
  · rw [hmem]
  · rw [hmem]
    exact hgrab.outside
  · rw [HeldAt, hmem]
    show (g.mem w).x = _ ∧ (g.mem w).y = _
    grind

/-- **An event with the button held** moves the window, or finds it where it should be. -/
theorem leftDown_dragging {g g' : GuiState} {w : WindowPtr} {dx dy : Int32}
    (h : Dragging w dx dy g) {p : Pointer}
    (hp : under g p = none ∨ under g p = some w ∧ HeldAt w dx dy p g)
    (hs : leftDown g p = some g') : Dragging w dx dy g' ∧ HeldAt w dx dy p g' := by
  rcases hp with hnone | ⟨hat, hheld⟩
  · unfold leftDown at hs
    rw [windowHandleMouse_clear h.on hnone] at hs
    unfold handleDrag at hs
    simp only [h.focused, h.nonnull, h.dragging, h.startX, h.startY, false_or, Bool.true_eq_false,
      if_false, if_true] at hs
    cases hs
    refine ⟨⟨h.on, h.nonnull, h.focused, ?_, h.startX, h.startY, ?_⟩, ?_⟩
    · simpa [GuiState.modify] using h.dragging
    · simpa [GuiState.modify, OutsideButtons] using h.outside
    · simp [GuiState.modify, HeldAt]
  · -- the title bar of a window that is dragged already does nothing
    obtain rfl : g' = g := by
      have hx : p.x - (g.mem w).x = dx := by rw [hheld.1]; grind
      have hy : p.y - (g.mem w).y = dy := by rw [hheld.2]; grind
      by_cases hbar : p.y < (g.mem w).y + windowTitleHeight
      · have hgrab : Grabs g w p := ⟨hat, hbar, by rw [hx, hy]; exact h.outside⟩
        rw [leftDown_bar h.on hgrab] at hs
        unfold startDrag at hs
        rw [if_pos h.dragging] at hs
        exact (Option.some.inj hs).symm
      · unfold leftDown windowHandleMouse at hs
        rw [if_neg (by simp [h.on]), show windowAt g p.x p.y g.wm.windowCount = some w from hat] at hs
        simp only [hbar, false_and, if_false] at hs
        exact (Option.some.inj hs).symm
    exact ⟨h, hheld⟩

/-- **The release** ends the drag. -/
theorem leftUp_dragging {g : GuiState} {w : WindowPtr} {dx dy : Int32} (h : Dragging w dx dy g)
    {p : Pointer} (hp : under g p = none) :
    leftUp g p = g.modify w fun r => { r with dragging := false } := by
  unfold leftUp
  rw [windowHandleMouse_clear h.on hp]
  unfold handleDrag
  simp [h.focused, h.nonnull, h.dragging]

/--
**A drag that stays clear of the windows follows the pointer, and ends with the release.**

The press is made in any state that any calls lead to; the button is held through any positions.
-/
theorem drag_follows {mem : WindowPtr → Window} {ops : List GuiOp} {g : GuiState}
    (hrun : run guiStep (GuiState.boot mem) ops = some g) {w : WindowPtr} {press : Pointer}
    (hgrab : Grabs g w press) {held : List Pointer} {release : Pointer}
    (hclear : DragClear g w (press.x - (g.mem w).x) (press.y - (g.mem w).y) (press :: held)
      release) :
    DragFollows g w (press.x - (g.mem w).x) (press.y - (g.mem w).y) (press :: held) release := by
  obtain ⟨⟨l, hl⟩, ht⟩ := windows_shaped hrun
  obtain ⟨g', hpress, hdrag, hat⟩ := leftDown_grab hl ht hgrab hclear.fresh
  have hrest := (hclear.held g' hpress).2
  refine ⟨?_, fun t htrun => ?_⟩
  · intro s hs
    obtain rfl : g' = s := Option.some.inj (hpress ▸ hs)
    refine ⟨hat, Along.of_invariant (I := Dragging w _ _) ?_ ?_ hdrag hrest⟩
    · exact fun s p s' hi hs' hp => (leftDown_dragging hi hp hs').2
    · exact fun s p s' hi hs' hp => (leftDown_dragging hi hp hs').1
  · obtain ⟨s, hs, hrun'⟩ := run_cons_eq_some.mp htrun
    obtain rfl : g' = s := Option.some.inj (hpress ▸ hs)
    have hend : Dragging w (press.x - (g.mem w).x) (press.y - (g.mem w).y) t := by
      refine Along.run_end (I := Dragging w _ _) ?_ hdrag hrest hrun'
      exact fun s p s' hi hs' hp => (leftDown_dragging hi hp hs').1
    rw [leftUp_dragging hend (hclear.released t htrun)]
    simp [GuiState.modify]

/-- Gripped at (60, 55), taken to (10, 10) and left there; the release is beside the window. -/
theorem drag_follows_outside :
    DragClear oneWindow 1 10 5 [⟨60, 55, 0⟩, ⟨10, 10, 0⟩, ⟨10, 10, 0⟩] ⟨300, 190, 0⟩ ∧
      DragFollows oneWindow 1 10 5 [⟨60, 55, 0⟩, ⟨10, 10, 0⟩, ⟨10, 10, 0⟩] ⟨300, 190, 0⟩ := by
  have hgrab : Grabs oneWindow 1 ⟨60, 55, 0⟩ := ⟨by decide, by decide, by decide⟩
  have hclear : DragClear oneWindow 1 10 5 [⟨60, 55, 0⟩, ⟨10, 10, 0⟩, ⟨10, 10, 0⟩]
      ⟨300, 190, 0⟩ := by
    refine ⟨by decide, ?_, ?_⟩
    · rintro g ⟨⟩
      refine ⟨Or.inr ⟨by decide, by decide⟩, ?_⟩
      rintro g ⟨⟩
      refine ⟨Or.inl (by decide), ?_⟩
      rintro g ⟨⟩
      exact ⟨Or.inr ⟨by decide, by decide⟩, trivial⟩
    · rintro g ⟨⟩
      decide
  exact ⟨hclear, drag_follows run_oneWindow hgrab hclear⟩

/-- Moved by one pixel, the pointer is still on the window: nothing follows, nothing ends. -/
theorem drag_stuck :
    Grabs oneWindow 1 ⟨60, 55, 0⟩ ∧
      ¬ DragFollows oneWindow 1 10 5 [⟨60, 55, 0⟩, ⟨61, 55, 0⟩] ⟨61, 55, 0⟩ ∧
        ∀ t, run leftDown oneWindow [⟨60, 55, 0⟩, ⟨61, 55, 0⟩] = some t →
          ((leftUp t ⟨61, 55, 0⟩).mem 1).dragging = true := by
  refine ⟨⟨by decide, by decide, by decide⟩, fun h => ?_, ?_⟩
  · have hpress := h.follows _ rfl
    have hheld : HeldAt 1 10 5 ⟨61, 55, 0⟩ _ := (hpress.2 _ rfl).1
    exact absurd hheld (by decide)
  · rintro t ⟨⟩
    decide

end MayaOs.Gui
