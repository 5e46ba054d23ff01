import MayaOs.Gui.Window

/-!
# What the calls write to the records

* `windowFocus_record`, `windowDestroy_record` — nothing but numbers
* `windowCreate_cases`, `createWindow_cases` — everything `window_create` can do, alone and in a run
* `windowCreate_record` — a window that was created has the properties that were asked for
-/

namespace MayaOs.Gui

open MayaOs.Lib
open MayaOs.Kernel (null)

theorem modify_field {β : Type} {field : Window → β} {f : Window → Window}
    (hf : ∀ r, field (f r) = field r) (g : GuiState) (w v : WindowPtr) :
    field ((g.modify w f).mem v) = field (g.mem v) := by
  show field (Function.update g.mem w (f (g.mem w)) v) = _
  rcases eq_or_ne v w with rfl | hne
  · rw [Function.update_self, hf]
  · rw [Function.update_of_ne hne]

/-- A record that changed in its number only. -/
theorem eq_setId {r r' : Window} (h : setId 0 r' = setId 0 r) : r' = setId r'.id r := by
  calc r' = setId r'.id (setId 0 r') := rfl
    _ = setId r'.id r := by rw [h]; rfl

theorem shiftWindows_record (g : GuiState) (i : Nat) (v : WindowPtr) :
    setId 0 ((shiftWindows g i).mem v) = setId 0 (g.mem v) :=
  shiftNumbered_field (by intro j r; rfl) v ..

theorem windowFocus_record (g : GuiState) (w v : WindowPtr) :
    ∃ i, (windowFocus g w).mem v = setId i (g.mem v) := by
  unfold windowFocus
  split
  · exact ⟨_, rfl⟩
  · split
    · exact ⟨_, rfl⟩
    · refine ⟨_, eq_setId ?_⟩
      show setId 0 ((moveToTop g w).mem v) = _
      unfold moveToTop
      split
      · rfl
      · next j _ =>
        refine Eq.trans ?_ (shiftWindows_record g j v)
        exact modify_field (by intro r; rfl) { shiftWindows g j with wm := _ } w v

theorem windowDestroy_record (g : GuiState) (w v : WindowPtr) :
    ∃ i, (windowDestroy g w).mem v = setId i (g.mem v) := by
  have hremove : setId 0 ((removeWindow g w).mem v) = setId 0 (g.mem v) := by
    unfold removeWindow
    split
    · rfl
    · exact shiftWindows_record g _ v
  unfold windowDestroy
  split
  · exact ⟨_, rfl⟩
  · refine ⟨_, eq_setId ?_⟩
    show setId 0 ((refocus (removeWindow g w) w).mem v) = _
    unfold refocus
    split <;> exact hremove

/-! ## window_create -/

/-- The arguments and `kmalloc` results under which `window_create` succeeds. -/
structure CreatesWindow (g : GuiState) (width height : Int32) (block buffer : Nat) : Prop where
  on : g.wm.initialized = true
  wide : minWindowWidth ≤ width
  tall : minWindowHeight ≤ height
  room : g.wm.windowCount < maxWindows
  block : block ≠ null
  buffer : buffer ≠ null

/-- The record `r` at the address `block`, as the last entry of the array. -/
def placeWindow (g : GuiState) (block : WindowPtr) (r : Window) : GuiState :=
  { g.modify block (fun _ => r) with
    wm :=
      { g.wm with
        windows := g.wm.windows.set g.wm.windowCount block
        windowCount := g.wm.windowCount + 1 } }

/--
**Everything `window_create` can do**: fail, possibly after writing a record, or place a window and
give it the focus.
-/
theorem windowCreate_cases (g : GuiState) (title : Option (List UInt8)) (x y width height : Int32)
    (block buffer : Nat) :
    windowCreate g title x y width height block buffer = (null, g) ∨
    (∃ r, windowCreate g title x y width height block buffer = (null, g.modify block fun _ => r)) ∨
    (CreatesWindow g width height block buffer ∧ ∃ name,
      windowCreate g title x y width height block buffer = (block, windowFocus
        (placeWindow g block (newWindow name x y width height g.wm.windowCount buffer)) block)) := by
  unfold windowCreate
  cases title with
  | none => exact Or.inl rfl
  | some title =>
    dsimp only
    by_cases hargs : g.wm.initialized = false ∨ width < minWindowWidth ∨ height < minWindowHeight
    · rw [if_pos hargs]
      exact Or.inl rfl
    by_cases hroom : maxWindows ≤ g.wm.windowCount
    · rw [if_neg hargs, if_pos hroom]
      exact Or.inl rfl
    by_cases hblock : block = null
    · rw [if_neg hargs, if_neg hroom, if_pos hblock]
      exact Or.inl rfl
    by_cases hbuffer : buffer = null
    · rw [if_neg hargs, if_neg hroom, if_neg hblock, if_pos hbuffer]
      exact Or.inr (Or.inl ⟨_, rfl⟩)
    rw [if_neg hargs, if_neg hroom, if_neg hblock, if_neg hbuffer]
    simp only [not_or, Bool.not_eq_false, Int32.not_lt] at hargs
    exact Or.inr (Or.inr ⟨⟨hargs.1, hargs.2.1, hargs.2.2, Nat.not_le.mp hroom, hblock, hbuffer⟩,
      title, rfl⟩)

/-- **A window that was created** is the block that was allocated, with the properties asked for. -/
theorem windowCreate_record {g : GuiState} {title : Option (List UInt8)}
    {x y width height : Int32} {block buffer : Nat}
    (h : (windowCreate g title x y width height block buffer).1 ≠ null) :
    (windowCreate g title x y width height block buffer).1 = block ∧ block ≠ null ∧
      buffer ≠ null ∧ ∃ name i j, (windowCreate g title x y width height block buffer).2.mem block =
        setId i (newWindow name x y width height j buffer) := by
  rcases windowCreate_cases g title x y width height block buffer with
    heq | ⟨r, heq⟩ | ⟨hok, name, heq⟩
  · rw [heq] at h
    exact absurd rfl h
  · rw [heq] at h
    exact absurd rfl h
  · rw [heq]
    obtain ⟨i, hi⟩ := windowFocus_record
      (placeWindow g block (newWindow name x y width height g.wm.windowCount buffer)) block block
    refine ⟨rfl, hok.block, hok.buffer, name, i, g.wm.windowCount, hi.trans ?_⟩
    exact congrArg (setId i) (Function.update_self ..)

/-! ## Existing windows -/

theorem windowFocus_live (g : GuiState) (w : WindowPtr) : (windowFocus g w).live = g.live := by
  unfold windowFocus
  split
  · rfl
  · split
    · rfl
    · show (moveToTop g w).live = _
      unfold moveToTop
      split <;> rfl

/-- `window_focus` does the same whatever is recorded as existing. -/
theorem windowFocus_withLive (g : GuiState) (live : List WindowPtr) (w : WindowPtr) :
    windowFocus { g with live := live } w = { windowFocus g w with live := live } := by
  unfold windowFocus
  by_cases hoff : g.wm.initialized = false ∨ w = null
  · simp only [if_pos hoff]
  · by_cases hfocus : g.wm.focusedWindow = w
    · simp only [if_neg hoff, if_pos hfocus]
    · simp only [if_neg hoff, if_neg hfocus]
      unfold moveToTop
      dsimp only
      split <;> rfl

/-- The same cases, for the call in a run. -/
theorem createWindow_cases (g : GuiState) (title : Option (List UInt8)) (x y width height : Int32)
    (block buffer : Nat) :
    createWindow g title x y width height block buffer = g ∨
    (∃ r, createWindow g title x y width height block buffer = g.modify block fun _ => r) ∨
    (CreatesWindow g width height block buffer ∧ ∃ name,
      createWindow g title x y width height block buffer = windowFocus
        { placeWindow g block (newWindow name x y width height g.wm.windowCount buffer) with
          live := block :: g.live } block) := by
  unfold createWindow
  rcases windowCreate_cases g title x y width height block buffer with
    heq | ⟨r, heq⟩ | ⟨hok, name, heq⟩
  · rw [heq]
    exact Or.inl (GuiState.noteCreated_null g)
  · rw [heq]
    exact Or.inr (Or.inl ⟨r, GuiState.noteCreated_null _⟩)
  · rw [heq]
    refine Or.inr (Or.inr ⟨hok, name, ?_⟩)
    simp only [GuiState.noteCreated, if_neg hok.block, windowFocus_live]
    exact (windowFocus_withLive _ (block :: g.live) block).symm

theorem removeWindow_live (g : GuiState) (w : WindowPtr) : (removeWindow g w).live = g.live := by
  unfold removeWindow
  split <;> rfl

theorem windowDestroy_live (g : GuiState) (w : WindowPtr) : (windowDestroy g w).live = g.live := by
  unfold windowDestroy
  split
  · rfl
  · unfold refocus
    split <;> exact removeWindow_live g w

/-- Nothing comes into being when a window is destroyed. -/
theorem mem_of_mem_noteDestroyed {g : GuiState} {w v : WindowPtr}
    (h : v ∈ (g.noteDestroyed w).live) : v ∈ g.live := by
  unfold GuiState.noteDestroyed at h
  split at h
  · exact h
  · exact List.mem_of_mem_erase h

theorem noteDestroyed_mem (g : GuiState) (w : WindowPtr) : (g.noteDestroyed w).mem = g.mem := by
  unfold GuiState.noteDestroyed
  split <;> rfl

end MayaOs.Gui
