import MayaOs.Lib.Run
import MayaOs.Properties.WindowOrder

/-!
# What every window keeps

A property of the size, the buttons and the buffer of a record holds of every window in every run
once `window_create` and `window_resize` establish it.

* `windows_keep` — any such property
* `windows_backed` — each window is as large as it has to be, and it has a buffer
-/

namespace MayaOs.Gui

open MayaOs.Lib
open MayaOs.Kernel (null)

/-- The fields that only `window_create` and `window_resize` set. -/
def extent (r : Window) : Int32 × Int32 × Nat × List Int32 :=
  (r.width, r.height, r.buffer,
    [r.closeX, r.closeY, r.closeW, r.closeH, r.maxX, r.maxY, r.maxW, r.maxH,
      r.minX, r.minY, r.minW, r.minH])

/-- A property that depends on these fields, and which both functions establish. -/
structure OfExtent (I : Window → Prop) : Prop where
  congr : ∀ {r r' : Window}, extent r' = extent r → I r → I r'
  new : ∀ (title : List UInt8) (x y : Int32) {width height : Int32} (id : Nat) {buffer : Nat},
    minWindowWidth ≤ width → minWindowHeight ≤ height → buffer ≠ null →
      I (newWindow title x y width height id buffer)
  resized : ∀ {r : Window} {width height : Int32} {buffer : Nat}, I r → minWindowWidth ≤ width →
    minWindowHeight ≤ height → buffer ≠ null → I (resized r width height buffer)

/-- Every existing window has it. -/
def Keeps (I : Window → Prop) (g : GuiState) : Prop := ∀ w ∈ g.live, I (g.mem w)

section Kept

variable {I : Window → Prop} (hI : OfExtent I) {g : GuiState}
include hI

/-- Windows that were there before have kept their extent. -/
theorem OfExtent.keeps_congr {g' : GuiState} (h : Keeps I g) (hlive : ∀ w ∈ g'.live, w ∈ g.live)
    (hextent : ∀ w, extent (g'.mem w) = extent (g.mem w)) : Keeps I g' :=
  fun w hw => hI.congr (hextent w) (h w (hlive w hw))

theorem OfExtent.keeps_modify (h : Keeps I g) (w : WindowPtr) {f : Window → Window}
    (hf : ∀ r, extent (f r) = extent r) : Keeps I (g.modify w f) :=
  hI.keeps_congr h (fun _ => id) (modify_field hf g w)

theorem OfExtent.keeps_focus (h : Keeps I g) (w : WindowPtr) : Keeps I (windowFocus g w) := by
  refine hI.keeps_congr h (fun v hv => windowFocus_live g w ▸ hv) fun v => ?_
  obtain ⟨i, hi⟩ := windowFocus_record g w v
  rw [hi]
  rfl

theorem OfExtent.keeps_destroy (h : Keeps I g) (w : WindowPtr) : Keeps I (windowDestroy g w) := by
  refine hI.keeps_congr h (fun v hv => windowDestroy_live g w ▸ hv) fun v => ?_
  obtain ⟨i, hi⟩ := windowDestroy_record g w v
  rw [hi]
  rfl

/-- What no longer exists need not have it. -/
theorem OfExtent.keeps_noteDestroyed (h : Keeps I g) (w : WindowPtr) :
    Keeps I (g.noteDestroyed w) :=
  hI.keeps_congr h (fun _ => mem_of_mem_noteDestroyed) fun v => by rw [noteDestroyed_mem]

theorem OfExtent.keeps_resize (h : Keeps I g) {w : WindowPtr} (hw : w ∈ g.live)
    (width height : Int32) (buffer : Nat) : Keeps I (windowResize g w width height buffer) := by
  unfold windowResize
  by_cases hsmall : w = null ∨ width < minWindowWidth ∨ height < minWindowHeight
  · rw [if_pos hsmall]
    exact h
  · rw [if_neg hsmall]
    rw [not_or, not_or, Int32.not_lt, Int32.not_lt] at hsmall
    split
    · exact h
    · next hbuffer =>
      intro v hv
      show I (Function.update g.mem w (Gui.resized (g.mem w) width height buffer) v)
      rcases eq_or_ne v w with rfl | hne
      · rw [Function.update_self]
        exact hI.resized (h v hw) hsmall.2.1 hsmall.2.2 hbuffer
      · rw [Function.update_of_ne hne]
        exact h v hv

theorem OfExtent.keeps_create (h : Keeps I g) (title : Option (List UInt8))
    (x y width height : Int32) {block : Nat} (buffer : Nat) (hfresh : block ∉ g.live) :
    Keeps I (createWindow g title x y width height block buffer) := by
  -- a record that is no window is written to
  have hwritten : ∀ r, Keeps I (g.modify block fun _ => r) := by
    intro r w hw
    have hne : w ≠ block := fun he => hfresh (he ▸ hw)
    show I (Function.update g.mem block r w)
    rw [Function.update_of_ne hne]
    exact h w hw
  rcases createWindow_cases g title x y width height block buffer with
    heq | ⟨r, heq⟩ | ⟨hok, name, heq⟩
  · rw [heq]
    exact h
  · rw [heq]
    exact hwritten r
  · rw [heq]
    refine hI.keeps_focus (fun w hw => ?_) block
    rcases List.mem_cons.mp hw with rfl | hw
    · show I (Function.update g.mem w _ w)
      rw [Function.update_self]
      exact hI.new name x y _ hok.wide hok.tall hok.buffer
    · exact hwritten _ w hw

theorem OfExtent.keeps_startDrag (h : Keeps I g) (w : WindowPtr) (relX relY : Int32) :
    Keeps I (startDrag g w relX relY) := by
  unfold startDrag
  split
  · exact h
  · have hfocus := hI.keeps_focus h w
    dsimp only
    split
    · exact hI.keeps_modify hfocus w fun _ => rfl
    · have hdrag : Keeps I ((windowFocus g w).modify w fun r => { r with dragging := true }) :=
        hI.keeps_modify hfocus w fun _ => rfl
      exact hI.keeps_congr hdrag (fun _ => id) fun _ => rfl

/-- The window under the mouse exists. -/
theorem OfExtent.keeps_mouse {l : List WindowPtr} (hl : Stacked g l) (h : Keeps I g) (x y : Int32)
    (left : Bool) (buffer : Nat) : Keeps I (windowHandleMouse g x y left buffer).2 := by
  unfold windowHandleMouse
  split
  · exact h
  · split
    · unfold handleDrag
      dsimp only
      split
      · exact h
      · split <;> exact hI.keeps_modify h _ fun _ => rfl
    · next w hat =>
      have hw : w ∈ g.live := (hl.live w).mp (windowAt_mem hl x y (Nat.le_refl _) hat)
      split
      · unfold clickTitle toggleMaximize
        dsimp only
        split
        · exact hI.keeps_destroy h w
        · split
          · split
            · exact hI.keeps_resize (hI.keeps_modify h w (by intro r; rfl)) hw _ _ buffer
            · exact hI.keeps_resize (hI.keeps_modify h w (by intro r; rfl)) hw _ _ buffer
          · exact hI.keeps_startDrag h w _ _
      · exact h

/-- **One call.** -/
theorem OfExtent.keeps_step {g' : GuiState} {op : GuiOp} {l : List WindowPtr} (hl : Stacked g l)
    (h : Keeps I g) (hs : guiStep g op = some g') : Keeps I g' := by
  cases op with
  | init =>
    cases hs
    unfold windowManagerInit
    split
    · exact h
    · exact hI.keeps_congr h (fun _ => id) fun _ => rfl
  | create title x y width height block buffer =>
    simp only [guiStep] at hs
    split at hs
    · cases hs
    · next hfresh => cases hs; exact hI.keeps_create h title x y width height buffer hfresh
  | destroy w =>
    simp only [guiStep] at hs
    split at hs <;> cases hs
    exact hI.keeps_noteDestroyed (hI.keeps_destroy h w) w
  | focus w =>
    simp only [guiStep] at hs
    split at hs <;> cases hs
    exact hI.keeps_focus h w
  | «show» w =>
    simp only [guiStep, windowShow] at hs
    split at hs
    · split at hs <;> cases hs
      · exact h
      · exact hI.keeps_modify h w fun _ => rfl
    · cases hs
  | hide w =>
    simp only [guiStep, windowHide] at hs
    split at hs
    · split at hs <;> cases hs
      · exact h
      · exact hI.keeps_modify h w fun _ => rfl
    · cases hs
  | move w x y =>
    simp only [guiStep, windowMove] at hs
    split at hs
    · split at hs <;> cases hs
      · exact h
      · exact hI.keeps_modify h w fun _ => rfl
    · cases hs
  | resize w width height buffer =>
    simp only [guiStep] at hs
    split at hs
    · next hvalid =>
      cases hs
      rcases hvalid with rfl | hw
      · unfold windowResize
        rw [if_pos (Or.inl rfl)]
        exact h
      · exact hI.keeps_resize h hw width height buffer
    · cases hs
  | mouse x y left buffer =>
    cases hs
    exact hI.keeps_noteDestroyed (hI.keeps_mouse hl h x y left buffer) _

/-- **What `window_create` and `window_resize` establish holds of every window in every run.** -/
theorem windows_keep {mem : WindowPtr → Window} {ops : List GuiOp}
    (h : run guiStep (GuiState.boot mem) ops = some g) : (∃ l, Stacked g l) ∧ Keeps I g := by
  refine invariant_run (I := fun g => (∃ l, Stacked g l) ∧ Keeps I g) ?_
    ⟨⟨[], stacked_boot mem⟩, fun w hw => absurd hw List.not_mem_nil⟩ h
  rintro g op g' ⟨⟨l, hl⟩, hk⟩ hs
  exact ⟨stacked_step hl hs, hI.keeps_step hl hk hs⟩

end Kept

/-- The size that a window has at least, and its buffer. -/
structure IsBacked (r : Window) : Prop where
  wide : minWindowWidth ≤ r.width
  tall : minWindowHeight ≤ r.height
  buffer : r.buffer ≠ null

theorem ofExtent_isBacked : OfExtent IsBacked where
  congr heq h := by
    obtain ⟨hwidth, hrest⟩ := Prod.mk.inj heq
    obtain ⟨hheight, hrest⟩ := Prod.mk.inj hrest
    obtain ⟨hbuffer, -⟩ := Prod.mk.inj hrest
    exact ⟨by rw [hwidth]; exact h.wide, by rw [hheight]; exact h.tall,
      by rw [hbuffer]; exact h.buffer⟩
  new _ _ _ _ _ _ _ hwide htall hbuffer := ⟨hwide, htall, hbuffer⟩
  resized _ hwide htall hbuffer := ⟨hwide, htall, hbuffer⟩

/-- **In every state that is reached, each window is large enough and has a buffer.** -/
theorem windows_backed {mem : WindowPtr → Window} {ops : List GuiOp} {g : GuiState}
    (h : run guiStep (GuiState.boot mem) ops = some g) : (∃ l, Stacked g l) ∧ Keeps IsBacked g :=
  windows_keep ofExtent_isBacked h

end MayaOs.Gui
