import MayaOs.Gui.Render
import MayaOs.Properties.ScreenPicture
import MayaOs.Properties.WindowKept
import MayaOs.Properties.WindowShape

/-!
# The window under the mouse

The windows are painted from bottom to top, and the mouse finds the topmost window that it is in.

* `windowRender_draws` — the picture of a window
* `windowPicture_ne_none_iff` — where it has a color
* `windowRenderAll_draws` — the picture of the screen
* `screen_shows_windows` — at each position the screen shows the window that the mouse finds there,
  except on the ring inside its border, where it shows what is behind
-/

namespace MayaOs.Gui

open MayaOs.Lib
open MayaOs.Kernel (null)

/-! ## The size of a window -/

/-- The sums of these numbers do not wrap around. -/
structure IsSmall (r : Window) : Prop where
  x : -2 ^ 13 < r.x.toInt ∧ r.x.toInt < 2 ^ 13
  y : -2 ^ 13 < r.y.toInt ∧ r.y.toInt < 2 ^ 13
  width : r.width.toInt < 2 ^ 13
  height : r.height.toInt < 2 ^ 13

theorem toInt_add_eq {a b : Int32} (h : -2 ^ 31 ≤ a.toInt + b.toInt ∧ a.toInt + b.toInt < 2 ^ 31) :
    (a + b).toInt = a.toInt + b.toInt := by
  rw [Int32.toInt_add]
  exact Int.bmod_eq_of_le (by omega) (by omega)

theorem toInt_sub_eq {a b : Int32} (h : -2 ^ 31 ≤ a.toInt - b.toInt ∧ a.toInt - b.toInt < 2 ^ 31) :
    (a - b).toInt = a.toInt - b.toInt := by
  rw [Int32.toInt_sub]
  exact Int.bmod_eq_of_le (by omega) (by omega)

/-- A window as it is drawn: not too large, not too small, with a buffer and its buttons. -/
structure Drawable (r : Window) : Prop extends IsSmall r, IsBacked r, HasShape r

variable {r : Window}

theorem Drawable.bounds (h : Drawable r) : 100 ≤ r.width.toInt ∧ 50 ≤ r.height.toInt :=
  ⟨Int32.le_iff_toInt_le.mp h.wide, Int32.le_iff_toInt_le.mp h.toHasShape.tall⟩

/-- The left side of the `n`-th button from the right. -/
theorem Drawable.buttonX (h : Drawable r) {n : Int32} {k : Int}
    (hn : (n * (titleButtonSize + titleButtonMargin)).toInt = k) (hk : 0 ≤ k ∧ k < 100) :
    (r.width - n * (titleButtonSize + titleButtonMargin)).toInt = r.width.toInt - k := by
  have hwide := h.bounds.1
  have hwidth := h.width
  rw [toInt_sub_eq (by omega), hn]

/-! ## window_render -/

/-- The area of the `n`-th button from the right. -/
def buttonArea (r : Window) (n : Int) : Int → Int → Prop :=
  InRect (r.x.toInt + (r.width.toInt - 17 * n)) (r.y.toInt + 3) 14 14

instance (r : Window) (n X Y : Int) : Decidable (buttonArea r n X Y) :=
  inferInstanceAs (Decidable (_ ∧ _))

variable {screen : Graphics}

/-- **A button.** -/
theorem drawButton_draws (h : Ready screen) (hr : Drawable r) {n k : Int32}
    (hk : k = r.width - n * (titleButtonSize + titleButtonMargin))
    (hn : (n * (titleButtonSize + titleButtonMargin)).toInt = 17 * n.toInt)
    (hsmall : 0 ≤ n.toInt ∧ n.toInt < 5) (color : UInt32) (letter : UInt8) :
    Draws screen
      (drawButton screen r k titleButtonMargin titleButtonSize titleButtonSize color letter)
      (areaPicture (buttonArea r n.toInt) fun _ _ => color) := by
  obtain ⟨hwide, -⟩ := hr.bounds
  obtain ⟨hx, hx'⟩ := hr.x
  obtain ⟨hy, hy'⟩ := hr.y
  have hwidth := hr.width
  have hkInt : k.toInt = r.width.toInt - 17 * n.toInt := by
    rw [hk]
    exact hr.buttonX hn (by omega)
  have hleft : (r.x + k).toInt = r.x.toInt + (r.width.toInt - 17 * n.toInt) := by
    rw [toInt_add_eq (by omega), hkInt]
  have hmargin : titleButtonMargin.toInt = 3 := rfl
  have htop : (r.y + titleButtonMargin).toInt = r.y.toInt + 3 := by
    rw [toInt_add_eq (by omega), hmargin]
  unfold drawButton
  dsimp only
  rw [drawText_eq, hleft, htop]
  exact fillRect_draws h ⟨by omega, by omega⟩ ⟨by omega, by omega⟩ (by decide) (by decide) color

/-- What a window looks like, the last thing drawn being on top. -/
def windowPicture (i : RenderInput) (g : GuiState) (window : WindowPtr) : Picture :=
  let r := g.mem window
  if r.visible = false then fun _ => none
  else
    let focused := window == g.wm.focusedWindow
    let x := r.x.toInt
    let y := r.y.toInt
    let width := r.width.toInt
    let height := r.height.toInt
    atop
      (areaPicture (InRect (x + 2) (y + 22) (width - 4) (height - 24))
        (blitValue (i.contents r.buffer) (x + 2) (y + 22) (i.srcWidth window)))
      (atop (areaPicture (buttonArea r 3) fun _ _ => colorButtonMin)
        (atop (areaPicture (buttonArea r 2) fun _ _ => colorButtonMax)
          (atop (areaPicture (buttonArea r 1) fun _ _ => colorButtonClose)
            (atop
              (areaPicture (InRect (x + 2) (y + 2) (width - 4) 20) fun _ _ =>
                if focused then colorTitleBgActive else colorTitleBgInactive)
              (areaPicture (OnFrame x y width height) fun _ _ =>
                if focused then colorBorderActive else colorBorderInactive)))))

/-- The areas that `window_render` fills are given by sums that do not wrap around. -/
theorem Drawable.sums (h : Drawable r) :
    (r.x + windowBorderWidth).toInt = r.x.toInt + 2 ∧
      (r.y + windowBorderWidth).toInt = r.y.toInt + 2 ∧
        (r.y + windowBorderWidth + windowTitleHeight).toInt = r.y.toInt + 22 ∧
          (r.width - 2 * windowBorderWidth).toInt = r.width.toInt - 4 ∧
            (r.height - 2 * windowBorderWidth - windowTitleHeight).toInt = r.height.toInt - 24 := by
  obtain ⟨hwide, htall⟩ := h.bounds
  obtain ⟨hx, hx'⟩ := h.x
  obtain ⟨hy, hy'⟩ := h.y
  have hwidth := h.width
  have hheight := h.height
  have hborder : windowBorderWidth.toInt = 2 := rfl
  have hborders : (2 * windowBorderWidth).toInt = 4 := rfl
  have htitle : windowTitleHeight.toInt = 20 := rfl
  have hleft : (r.x + windowBorderWidth).toInt = r.x.toInt + 2 := by
    rw [toInt_add_eq (by omega), hborder]
  have htop : (r.y + windowBorderWidth).toInt = r.y.toInt + 2 := by
    rw [toInt_add_eq (by omega), hborder]
  have hinner : (r.height - 2 * windowBorderWidth).toInt = r.height.toInt - 4 := by
    rw [toInt_sub_eq (by omega), hborders]
  refine ⟨hleft, htop, ?_, ?_, ?_⟩
  · rw [toInt_add_eq (by omega), htop, htitle]
    omega
  · rw [toInt_sub_eq (by omega), hborders]
  · rw [toInt_sub_eq (by omega), hinner, htitle]
    omega

/-- The fields of the buttons. -/
theorem HasShape.fields (h : HasShape r) :
    (r.closeX = r.width - 1 * (titleButtonSize + titleButtonMargin) ∧
        r.maxX = r.width - 2 * (titleButtonSize + titleButtonMargin) ∧
          r.minX = r.width - 3 * (titleButtonSize + titleButtonMargin)) ∧
      (r.closeY = titleButtonMargin ∧ r.maxY = titleButtonMargin ∧ r.minY = titleButtonMargin) ∧
        (r.closeW = titleButtonSize ∧ r.maxW = titleButtonSize ∧ r.minW = titleButtonSize) ∧
          r.closeH = titleButtonSize ∧ r.maxH = titleButtonSize ∧ r.minH = titleButtonSize := by
  have hbuttons := h.buttons
  simp only [buttonRegions, regionsFor, nthRegion, List.cons_append, List.nil_append,
    List.cons.injEq, and_true] at hbuttons
  tauto

/-- **`window_render`**, for a window without widgets. -/
theorem windowRender_draws (h : Ready screen) {i : RenderInput} (hfuel : 2 ^ 15 ≤ i.fuel)
    {g : GuiState} (hon : g.wm.initialized = true) {w : WindowPtr} (hw : w ≠ null)
    (hr : Drawable (g.mem w)) (hwidgets : i.widgets w = null) :
    ∃ screen', windowRender i g screen w = some screen' ∧
      Draws screen screen' (windowPicture i g w) := by
  have hnone : windowDrawWidgets i.fuel ⟨g, i.widgets, i.next⟩ w = some [] :=
    windowDrawWidgets_null (by omega) hwidgets
  unfold windowRender windowPicture
  rw [hnone]
  generalize g.mem w = r at hr
  dsimp only
  by_cases hvisible : r.visible = false
  · rw [if_pos (Or.inr (Or.inr hvisible)), if_pos hvisible]
    exact ⟨screen, rfl, h, Overlays.refl screen⟩
  · rw [if_neg (by simp [hon, hw, hvisible]), if_neg hvisible]
    generalize (w == g.wm.focusedWindow) = focused
    obtain ⟨hwide, htall⟩ := hr.bounds
    obtain ⟨hx, hx'⟩ := hr.x
    obtain ⟨hy, hy'⟩ := hr.y
    have hwidth := hr.width
    have hheight := hr.height
    obtain ⟨hleft, htop, hbelow, hinner, hrest⟩ := hr.sums
    obtain ⟨⟨hcx, hmx, hnx⟩, ⟨hcy, hmy, hny⟩, ⟨hcw, hmw, hnw⟩, hch, hmh, hnh⟩ :=
      hr.toHasShape.fields
    have htitle : windowTitleHeight.toInt = 20 := rfl
    have hx₂ : SmallArg (r.x.toInt + 2) := ⟨by omega, by omega⟩
    have hy₂ : SmallArg (r.y.toInt + 2) := ⟨by omega, by omega⟩
    have hwidth₂ : SmallArg (r.width.toInt - 4) := ⟨by omega, by omega⟩
    have hbar : SmallArg 20 := by decide
    have hy₆ : SmallArg (r.y.toInt + 22) := ⟨by omega, by omega⟩
    have hheight₆ : SmallArg (r.height.toInt - 24) := ⟨by omega, by omega⟩
    obtain ⟨s₁, hframe, hd₁⟩ := drawRect_draws h hfuel
      (if focused then colorBorderActive else colorBorderInactive) hr.x hr.y ⟨by omega, hwidth⟩
      ⟨by omega, hheight⟩
    have hd₂ := fillRect_draws hd₁.ready hx₂ hy₂ hwidth₂ hbar
      (if focused then colorTitleBgActive else colorTitleBgInactive)
    have hd₃ := drawButton_draws hd₂.ready hr hcx rfl (by decide) colorButtonClose 0x58
    have hd₄ := drawButton_draws hd₃.ready hr hmx rfl (by decide) colorButtonMax 0x4F
    have hd₅ := drawButton_draws hd₄.ready hr hnx rfl (by decide) colorButtonMin 0x2D
    have hd₆ := blit_draws (i.contents r.buffer) hd₅.ready hx₂ hy₆ hwidth₂ hheight₆ (i.srcWidth w)
    refine ⟨_, ?_, ((((hd₁.trans hd₂).trans hd₃).trans hd₄).trans hd₅).trans hd₆⟩
    rw [hframe]
    simp only [Option.bind_eq_bind, Option.bind_some, drawText_eq, hleft, htop, hbelow, hinner,
      hrest, htitle, hcy, hmy, hny, hcw, hmw, hnw, hch, hmh, hnh, if_neg hr.buffer]
    rfl

/-! ## Where a window has a color -/

/-- The pixels next to the border on its inside. -/
def OnRing (r : Window) (X Y : Int) : Prop :=
  InRect (r.x.toInt + 1) (r.y.toInt + 1) (r.width.toInt - 2) (r.height.toInt - 2) X Y ∧
    ¬ InRect (r.x.toInt + 2) (r.y.toInt + 2) (r.width.toInt - 4) (r.height.toInt - 4) X Y

instance (r : Window) (X Y : Int) : Decidable (OnRing r X Y) := inferInstanceAs (Decidable (_ ∧ _))

theorem atop_ne_none {top bottom : Picture} {p : Int × Int} :
    atop top bottom p ≠ none ↔ top p ≠ none ∨ bottom p ≠ none := by
  unfold atop
  cases top p <;> simp

theorem areaPicture_ne_none {area : Int → Int → Prop} [∀ X Y, Decidable (area X Y)]
    {value : Int → Int → UInt32} {p : Int × Int} :
    areaPicture area value p ≠ none ↔ area p.1 p.2 := by
  unfold areaPicture
  split <;> simp_all

/-- **A window has a color everywhere but on the ring.** -/
theorem windowPicture_ne_none_iff {i : RenderInput} {g : GuiState} {w : WindowPtr}
    (hr : Drawable (g.mem w)) {X Y : Int} :
    windowPicture i g w (X, Y) ≠ none ↔ (g.mem w).visible = true ∧
      InRect (g.mem w).x.toInt (g.mem w).y.toInt (g.mem w).width.toInt (g.mem w).height.toInt X Y ∧
        ¬ OnRing (g.mem w) X Y := by
  unfold windowPicture
  generalize g.mem w = r at hr
  dsimp only
  cases hvisible : r.visible with
  | false => simp
  | true =>
    obtain ⟨hwide, htall⟩ := hr.bounds
    rw [if_neg (by simp)]
    simp only [atop_ne_none, areaPicture_ne_none, true_and]
    unfold OnRing buttonArea OnFrame InRect
    omega

/-! ## The window that the mouse finds -/

/-- The test of `window_handle_mouse`. -/
def isHit (g : GuiState) (x y : Int32) (w : WindowPtr) : Bool :=
  (g.mem w).visible && decide ((g.mem w).x ≤ x ∧ x < (g.mem w).x + (g.mem w).width ∧
    (g.mem w).y ≤ y ∧ y < (g.mem w).y + (g.mem w).height)

theorem windowAt_succ (g : GuiState) (x y : Int32) (n : Nat) :
    windowAt g x y (n + 1) =
      if isHit g x y (g.wm.windows.getD n null) then some (g.wm.windows.getD n null)
      else windowAt g x y n := by
  rw [windowAt]
  unfold isHit
  cases (g.mem (g.wm.windows.getD n null)).visible with
  | false => rfl
  | true =>
    rw [if_neg (by simp), Bool.true_and]
    simp only [decide_eq_true_eq]

/-- The scan goes through the windows from top to bottom. -/
theorem windowAt_eq_find? (g : GuiState) (x y : Int32) :
    ∀ {n : Nat}, n ≤ g.wm.windows.length →
      windowAt g x y n = (g.wm.windows.take n).reverse.find? (isHit g x y) := by
  intro n
  induction n with
  | zero => intro _; rfl
  | succ n ih =>
    intro hn
    have hcell : g.wm.windows.getD n null = g.wm.windows[n] := by
      rw [List.getD_eq_getElem?_getD, List.getElem?_eq_getElem hn, Option.getD_some]
    rw [windowAt_succ, hcell, ih (by omega), List.take_succ_eq_append_getElem hn,
      List.reverse_append, List.reverse_singleton, List.singleton_append, List.find?_cons]
    cases isHit g x y g.wm.windows[n] <;> rfl

theorem isHit_iff {g : GuiState} {w : WindowPtr} (hr : Drawable (g.mem w)) {x y : Int32} :
    isHit g x y w = true ↔ (g.mem w).visible = true ∧
      InRect (g.mem w).x.toInt (g.mem w).y.toInt (g.mem w).width.toInt (g.mem w).height.toInt
        x.toInt y.toInt := by
  unfold isHit InRect
  generalize g.mem w = r at hr
  obtain ⟨hwide, htall⟩ := hr.bounds
  obtain ⟨hx, hx'⟩ := hr.x
  obtain ⟨hy, hy'⟩ := hr.y
  have hwidth := hr.width
  have hheight := hr.height
  rw [Bool.and_eq_true, decide_eq_true_iff, Int32.le_iff_toInt_le, Int32.lt_iff_toInt_lt,
    Int32.le_iff_toInt_le, Int32.lt_iff_toInt_lt, toInt_add_eq (by omega), toInt_add_eq (by omega),
    and_assoc]

/-! ## window_render_all -/

section RenderAll

variable {i : RenderInput} (hfuel : 2 ^ 15 ≤ i.fuel) {g : GuiState} {l : List WindowPtr}
  (hwidgets : ∀ w ∈ l, i.widgets w = null)
include hfuel hwidgets

/-- **`window_render_all`** -/
theorem windowRenderAll_draws (h : Ready screen) (hl : Listed g l)
    (hon : g.wm.initialized = true) (hdraw : ∀ w ∈ l, Drawable (g.mem w)) :
    ∃ screen', windowRenderAll i g screen = some screen' ∧
      Draws screen screen' (atop (topmost (windowPicture i g) l) fun _ => some i.background) := by
  have hclear := clear_draws h i.background
  have hwindow : ∀ w ∈ l, ∀ s, Ready s → ∃ s', windowRender i g s w = some s' ∧ Ready s' ∧
      Overlays (fun (s : Graphics) (p : Int × Int) => s.pixel p.1 p.2) (fun p => Visible p.1 p.2) s s'
        (windowPicture i g w) := fun w hw s hs => by
    have hnonnull : w ≠ null := fun he => hl.nonnull (he ▸ hw)
    obtain ⟨s', hs', hdraws⟩ := windowRender_draws hs hfuel hon hnonnull (hdraw w hw) (hwidgets w hw)
    exact ⟨s', hs', hdraws.ready, hdraws.shows⟩
  obtain ⟨screen', hpaint, hready, hshows⟩ := overlays_foldlM hwindow hclear.ready
  refine ⟨screen', ?_, hclear.trans ⟨hready, hshows⟩⟩
  have hused := hl.used
  unfold usedWindows at hused
  unfold windowRenderAll
  rw [if_neg (by simp [hon]), hused]
  exact hpaint

/-- What is seen at a position. -/
theorem windowRenderAll_pixel (h : Ready screen) (hl : Listed g l)
    (hon : g.wm.initialized = true) (hdraw : ∀ w ∈ l, Drawable (g.mem w)) :
    ∃ screen', windowRenderAll i g screen = some screen' ∧ ∀ X Y, Visible X Y →
      screen'.pixel X Y = (topmost (windowPicture i g) l (X, Y)).getD i.background := by
  obtain ⟨screen', heq, -, hshows⟩ := windowRenderAll_draws hfuel hwidgets h hl hon hdraw
  refine ⟨screen', heq, fun X Y hv => (hshows (X, Y) hv).trans ?_⟩
  unfold atop
  cases topmost (windowPicture i g) l (X, Y) <;> rfl

end RenderAll

/-! ## Hiding a window -/

theorem windowHide_mem {g : GuiState} {w : WindowPtr} (hw : w ≠ null) (v : WindowPtr) :
    (windowHide g w).mem v =
      if v = w then { g.mem w with visible := false } else g.mem v := by
  unfold windowHide
  rw [if_neg hw]
  exact Function.update_apply ..

theorem windowPicture_hidden (i : RenderInput) {g : GuiState} {w : WindowPtr} (hw : w ≠ null)
    (p : Int × Int) : windowPicture i (windowHide g w) w p = none := by
  unfold windowPicture
  rw [windowHide_mem hw, if_pos rfl]
  rfl

theorem windowPicture_others (i : RenderInput) {g : GuiState} {w v : WindowPtr} (hw : w ≠ null)
    (hne : v ≠ w) (p : Int × Int) : windowPicture i (windowHide g w) v p = windowPicture i g v p := by
  have hfocus : (windowHide g w).wm = g.wm := by
    unfold windowHide
    rw [if_neg hw]
    rfl
  unfold windowPicture
  rw [windowHide_mem hw, if_neg hne, hfocus]

/-- A hidden window keeps its place and its size. -/
theorem Drawable.hide {g : GuiState} {w v : WindowPtr} (hw : w ≠ null) (h : Drawable (g.mem v)) :
    Drawable ((windowHide g w).mem v) := by
  rw [windowHide_mem hw]
  split
  · next he =>
    rw [← he]
    exact ⟨⟨h.x, h.y, h.width, h.height⟩, ⟨h.wide, h.tall, h.buffer⟩, h.buttons⟩
  · exact h

theorem Listed.hide {g : GuiState} {l : List WindowPtr} (h : Stacked g l) (w : WindowPtr) :
    Listed (windowHide g w) l := by
  unfold windowHide
  split
  · exact h.toListed
  · exact (h.modify w (by intro r; rfl)).toListed

/-! ## The result -/

/-- What the screen shows at a position, for what the scan of `window_handle_mouse` finds there. -/
def ShowsAt (i : RenderInput) (g : GuiState) (screen screen' : Graphics) (x y : Int32) :
    Option WindowPtr → Prop
  | none => screen'.pixel x.toInt y.toInt = i.background
  | some w =>
    if OnRing (g.mem w) x.toInt y.toInt then
      ∃ behind, windowRenderAll i (windowHide g w) screen = some behind ∧
        screen'.pixel x.toInt y.toInt = behind.pixel x.toInt y.toInt
    else windowPicture i g w (x.toInt, y.toInt) = some (screen'.pixel x.toInt y.toInt)

/-- The topmost window at a position, and what is behind it. -/
theorem topmost_at {g : GuiState} {l : List WindowPtr} (hl : Listed g l) {x y : Int32}
    (i : RenderInput) (hdraw : ∀ w ∈ l, Drawable (g.mem w)) :
    match windowAt g x y g.wm.windowCount with
    | none => topmost (windowPicture i g) l (x.toInt, y.toInt) = none
    | some w => w ∈ l ∧ isHit g x y w = true ∧
        topmost (windowPicture i g) l (x.toInt, y.toInt) =
          (windowPicture i g w (x.toInt, y.toInt)).or
            (topmost (windowPicture i (windowHide g w)) l (x.toInt, y.toInt)) := by
  have hat : windowAt g x y g.wm.windowCount = l.reverse.find? (isHit g x y) := by
    have hused := hl.used
    unfold usedWindows at hused
    rw [windowAt_eq_find? g x y (hl.capacity ▸ hl.bound), hused]
  have hhit : ∀ w ∈ l.reverse, windowPicture i g w (x.toInt, y.toInt) ≠ none →
      isHit g x y w = true := fun w hw hcolor => by
    have hr := hdraw w (List.mem_reverse.mp hw)
    obtain ⟨hvisible, hin, -⟩ := (windowPicture_ne_none_iff hr).mp hcolor
    exact (isHit_iff hr).mpr ⟨hvisible, hin⟩
  rw [hat]
  cases hfound : l.reverse.find? (isHit g x y) with
  | none => exact findSome?_of_find?_none hhit hfound
  | some w =>
    have hw : w ∈ l := List.mem_reverse.mp (List.mem_of_find?_eq_some hfound)
    have hnonnull : w ≠ null := fun he => hl.nonnull (he ▸ hw)
    exact ⟨hw, List.find?_some hfound, findSome?_of_find?_some hhit
      (fun v _ hne => windowPicture_others i hnonnull hne _)
      (windowPicture_hidden i hnonnull _) hfound⟩

/--
**At each position the screen shows the window that the mouse finds there**, and the background
where it finds none. On the ring inside its border a window lets through what is behind it.

No window has widgets.
-/
theorem screen_shows_windows {mem : WindowPtr → Window} {ops : List GuiOp} {g : GuiState}
    (hrun : run guiStep (GuiState.boot mem) ops = some g) (hon : g.wm.initialized = true)
    (hsmall : ∀ w ∈ g.live, IsSmall (g.mem w)) {i : RenderInput} (hfuel : 2 ^ 15 ≤ i.fuel)
    (hwidgets : ∀ w ∈ g.live, i.widgets w = null) {screen : Graphics} (h : Ready screen) :
    ∃ screen', windowRenderAll i g screen = some screen' ∧
      ∀ x y : Int32, Visible x.toInt y.toInt →
        ShowsAt i g screen screen' x y (windowAt g x y g.wm.windowCount) := by
  obtain ⟨⟨l, hl⟩, hshaped⟩ := windows_shaped hrun
  obtain ⟨-, hbacked⟩ := windows_backed hrun
  have hdraw : ∀ w ∈ l, Drawable (g.mem w) := fun w hw => by
    have hlive := (hl.live w).mp hw
    exact ⟨hsmall w hlive, hbacked w hlive, (hshaped w hlive).buttons⟩
  have hempty : ∀ w ∈ l, i.widgets w = null := fun w hw => hwidgets w ((hl.live w).mp hw)
  obtain ⟨screen', heq, hpixel⟩ := windowRenderAll_pixel hfuel hempty h hl.toListed hon hdraw
  refine ⟨screen', heq, fun x y hv => ?_⟩
  have hshown := hpixel x.toInt y.toInt hv
  have htop := topmost_at hl.toListed (x := x) (y := y) i hdraw
  cases hat : windowAt g x y g.wm.windowCount with
  | none =>
    rw [hat] at htop
    rw [htop] at hshown
    exact hshown
  | some w =>
    rw [hat] at htop
    obtain ⟨hw, hhit, htop⟩ := htop
    have hnonnull : w ≠ null := fun he => hl.nonnull (he ▸ hw)
    obtain ⟨hvisible, hin⟩ := (isHit_iff (hdraw w hw)).mp hhit
    have hcolor := windowPicture_ne_none_iff (i := i) (hdraw w hw) (X := x.toInt) (Y := y.toInt)
    rw [htop] at hshown
    unfold ShowsAt
    dsimp only
    split
    · next hring =>
      have hnone : windowPicture i g w (x.toInt, y.toInt) = none := by
        by_contra hne
        exact (hcolor.mp hne).2.2 hring
      have hinit : (windowHide g w).wm.initialized = true := by
        unfold windowHide
        rw [if_neg hnonnull]
        exact hon
      obtain ⟨behind, hbehind, hbelow⟩ := windowRenderAll_pixel hfuel hempty h (Listed.hide hl w)
        hinit fun v hv => (hdraw v hv).hide hnonnull
      refine ⟨behind, hbehind, ?_⟩
      rw [hshown, hnone, Option.none_or, hbelow x.toInt y.toInt hv]
    · next hring =>
      obtain ⟨c, hc⟩ := Option.ne_none_iff_exists'.mp (hcolor.mpr ⟨hvisible, hin, hring⟩)
      rw [hshown, hc]
      rfl

/-- One window on a black screen, with a red buffer. -/
theorem screen_shows_windows_one :
    let i : RenderInput := ⟨0x336699, fun _ _ => 0xFF0000, fun _ => 196, 32768,
      fun _ => null, fun _ => null, fun _ _ screen => graphicsClear screen 0⟩
    let screen := graphicsInit (Graphics.boot fun _ => 0)
    ∃ screen', windowRenderAll i oneWindow screen = some screen' ∧
      ∀ x y : Int32, Visible x.toInt y.toInt →
        ShowsAt i oneWindow screen screen' x y (windowAt oneWindow x y 1) := by
  have hsmall : ∀ w ∈ oneWindow.live, IsSmall (oneWindow.mem w) := fun w hw => by
    obtain rfl : w = 1 := List.mem_singleton.mp hw
    exact ⟨by decide, by decide, by decide, by decide⟩
  exact screen_shows_windows run_oneWindow rfl hsmall (by decide) (fun _ _ => rfl) (ready_init _)

end MayaOs.Gui
