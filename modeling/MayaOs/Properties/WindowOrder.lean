import Mathlib.Data.List.Nodup
import MayaOs.Lib.Run
import MayaOs.Properties.WindowRecords

/-!
# The order of the windows

The array of the window manager lists the existing windows from bottom to top, each record has the
index of its cell, and the window on top has the focus.

* `windowFocus_stacked`, `destroyWindow_stacked`, `createWindow_stacked` — the calls that change the
  array
* `windowHandleMouse_stacked` — the scan acts on one window at most
* `windows_ordered` — the order holds in every state of every run
-/

namespace MayaOs.Gui

open MayaOs.Lib
open MayaOs.Kernel (null)

/-! ## The property -/

/-- The first `window_count` entries of `windows`. -/
def usedWindows (g : GuiState) : List WindowPtr := g.wm.windows.take g.wm.windowCount

structure WindowsOrdered (g : GuiState) : Prop where
  count : (usedWindows g).length = g.wm.windowCount
  nonnull : null ∉ usedWindows g
  distinct : (usedWindows g).Nodup
  existing : ∀ w, w ∈ usedWindows g ↔ w ∈ g.live
  ids : ∀ i w, (usedWindows g)[i]? = some w → (g.mem w).id = i
  unfocused : g.wm.focusedWindow = null ↔ g.live = []
  focused : g.live ≠ [] →
    (usedWindows g)[g.wm.windowCount - 1]? = some g.wm.focusedWindow

/-! ## The array -/

/-- The existing windows are `l`, from bottom to top. -/
structure Listed (g : GuiState) (l : List WindowPtr) : Prop where
  capacity : g.wm.windows.length = maxWindows
  bound : g.wm.windowCount ≤ maxWindows
  used : usedWindows g = l
  nodup : l.Nodup
  nonnull : null ∉ l
  live : ∀ w, w ∈ l ↔ w ∈ g.live
  liveNodup : g.live.Nodup
  ids : Numbered Window.id l g.mem
  off : g.wm.initialized = false → l = []

/-- The top window, NULL when there is none. -/
def topOf (l : List WindowPtr) : WindowPtr := l.getLast?.getD null

/-- The top window has the focus. -/
structure Stacked (g : GuiState) (l : List WindowPtr) : Prop extends Listed g l where
  focus : g.wm.focusedWindow = topOf l

theorem Listed.length {g : GuiState} {l : List WindowPtr} (h : Listed g l) :
    l.length = g.wm.windowCount := by
  have hb := h.bound
  have hc := h.capacity
  rw [← h.used, usedWindows, List.length_take]
  omega

/-- There are windows only when the manager is initialised. -/
theorem Listed.on_of_mem {g : GuiState} {l : List WindowPtr} (h : Listed g l) {w : WindowPtr}
    (hw : w ∈ l) : g.wm.initialized = true := by
  cases hi : g.wm.initialized with
  | true => rfl
  | false =>
    rw [h.off hi] at hw
    cases hw

theorem topOf_concat (l : List WindowPtr) (w : WindowPtr) : topOf (l ++ [w]) = w := by
  unfold topOf
  rw [List.getLast?_concat]
  rfl

/-- **The invariant says what is claimed.** -/
theorem Stacked.ordered {g : GuiState} {l : List WindowPtr} (h : Stacked g l) :
    WindowsOrdered g := by
  have hused := h.used
  have hempty : g.live = [] ↔ l = [] := by
    rw [List.eq_nil_iff_forall_not_mem, List.eq_nil_iff_forall_not_mem]
    exact forall_congr' fun w => not_congr (h.live w).symm
  refine ⟨by rw [hused]; exact h.length, by rw [hused]; exact h.nonnull,
    by rw [hused]; exact h.nodup, by rw [hused]; exact h.live, by rw [hused]; exact h.ids, ?_, ?_⟩
  · rw [hempty, h.focus]
    rcases List.eq_nil_or_concat l with rfl | ⟨init, w, rfl⟩
    · exact iff_of_true rfl rfl
    · rw [List.concat_eq_append, topOf_concat]
      refine iff_of_false (fun hw => ?_) (by simp)
      exact h.nonnull (by rw [← hw]; simp)
  · intro hne
    rw [Ne, hempty] at hne
    rw [hused, h.focus, ← h.length]
    rcases List.eq_nil_or_concat l with rfl | ⟨init, w, rfl⟩
    · exact absurd rfl hne
    · rw [List.concat_eq_append, topOf_concat]
      simp

theorem stacked_boot (mem : WindowPtr → Window) : Stacked (GuiState.boot mem) [] where
  capacity := List.length_replicate
  bound := Nat.zero_le _
  used := List.take_zero
  nodup := List.nodup_nil
  nonnull := List.not_mem_nil
  live := fun _ => Iff.rfl
  liveNodup := List.nodup_nil
  ids := fun i w hw => by simp at hw
  off := fun _ => rfl
  focus := rfl

/-- Calls that change records only, and no `id`. -/
theorem Stacked.congr {g g' : GuiState} {l : List WindowPtr} (h : Stacked g l)
    (hwm : g'.wm = g.wm) (hlive : g'.live = g.live)
    (hid : ∀ w ∈ l, (g'.mem w).id = (g.mem w).id) : Stacked g' l where
  capacity := by rw [hwm]; exact h.capacity
  bound := by rw [hwm]; exact h.bound
  used := by unfold usedWindows; rw [hwm]; exact h.used
  nodup := h.nodup
  nonnull := h.nonnull
  live := by rw [hlive]; exact h.live
  liveNodup := by rw [hlive]; exact h.liveNodup
  ids := h.ids.congr hid
  off := by rw [hwm]; exact h.off
  focus := by rw [hwm]; exact h.focus

theorem Stacked.modify {g : GuiState} {l : List WindowPtr} (h : Stacked g l) (w : WindowPtr)
    {f : Window → Window} (hf : ∀ r, (f r).id = r.id) : Stacked (g.modify w f) l := by
  refine h.congr rfl rfl fun q _ => ?_
  show (Function.update g.mem w (f (g.mem w)) q).id = _
  rcases eq_or_ne q w with rfl | hne
  · rw [Function.update_self, hf]
  · rw [Function.update_of_ne hne]

/-- A record that is no window is written to. -/
theorem Stacked.modify_fresh {g : GuiState} {l : List WindowPtr} (h : Stacked g l) {w : WindowPtr}
    (hw : w ∉ g.live) (f : Window → Window) : Stacked (g.modify w f) l := by
  refine h.congr rfl rfl fun q hq => ?_
  have hne : q ≠ w := fun he => hw (he ▸ (h.live q).mp hq)
  exact congrArg Window.id (Function.update_of_ne hne ..)

/-! ## Shifting -/

/-- Where a window is found. -/
theorem findIdx?_of_mem {l : List WindowPtr} (hnd : l.Nodup) {w : WindowPtr} (hw : w ∈ l) :
    ∃ i, i < l.length ∧ l.findIdx? (fun q => q == w) = some i ∧ l.eraseIdx i = l.erase w := by
  obtain ⟨i, hi, rfl⟩ := List.mem_iff_getElem.mp hw
  refine ⟨i, hi, ?_, (hnd.erase_getElem i hi).symm⟩
  rw [List.findIdx?_eq_some_iff_getElem]
  refine ⟨hi, by simp, fun j hji => ?_⟩
  have hne : l[j] ≠ l[i] := by
    intro he
    have := hnd.getElem_inj_iff.mp he
    omega
  simpa using hne

/-- The array without cell `i`, and the numbers. -/
theorem Listed.shiftWindows {g : GuiState} {l : List WindowPtr} (h : Listed g l) {i : Nat}
    (hi : i < l.length) :
    (shiftWindows g i).wm.windows.length = maxWindows ∧
      (shiftWindows g i).wm.windows.take (g.wm.windowCount - 1) = l.eraseIdx i ∧
      Numbered Window.id (l.eraseIdx i) (shiftWindows g i).mem := by
  have hlen := h.length
  have hcap := h.capacity
  have hbound := h.bound
  have hused : g.wm.windows.take g.wm.windowCount = l := h.used
  have hwindows : (Gui.shiftWindows g i).wm.windows =
      shiftDown g.wm.windows i (g.wm.windowCount - 1 - i) := shiftNumbered_fst ..
  refine ⟨by rw [hwindows, length_shiftDown, hcap], ?_, ?_⟩
  · rw [hwindows, take_shiftDown (by omega) (by omega), hused]
  · have hids := h.ids
    rw [← hused] at hids ⊢
    exact hids.shift (fun _ _ => rfl) (by rw [hused]; exact h.nodup) (by omega) (by omega)

/-- **"Remove from window list"**, when the window no longer exists. -/
theorem Listed.remove {g : GuiState} {l : List WindowPtr} (h : Listed g l) {w : WindowPtr}
    (hw : w ∈ l) : Listed { removeWindow g w with live := g.live.erase w } (l.erase w) ∧
      (removeWindow g w).wm.focusedWindow = g.wm.focusedWindow := by
  obtain ⟨i, hi, hfind, herase⟩ := findIdx?_of_mem h.nodup hw
  obtain ⟨hcap, htake, hids⟩ := h.shiftWindows hi
  have hremove : removeWindow g w = { Gui.shiftWindows g i with
      wm := { (Gui.shiftWindows g i).wm with windowCount := g.wm.windowCount - 1 } } := by
    unfold removeWindow
    rw [show g.wm.windows.take g.wm.windowCount = l from h.used, hfind]
    rfl
  rw [hremove]
  rw [herase] at htake hids
  have hbound := h.bound
  refine ⟨⟨hcap, ?_, htake, h.nodup.erase w, ?_, fun q => ?_, h.liveNodup.erase w, hids, ?_⟩, rfl⟩
  · show g.wm.windowCount - 1 ≤ maxWindows
    omega
  · exact fun hn => h.nonnull (List.mem_of_mem_erase hn)
  · rw [h.nodup.mem_erase_iff, h.liveNodup.mem_erase_iff, h.live q]
  · intro hoff
    rw [h.off hoff] at hw
    simp at hw

/-- **"Move window to top".** -/
theorem Listed.moveToTop {g : GuiState} {l : List WindowPtr} (h : Listed g l) {w : WindowPtr}
    (hw : w ∈ l) : Listed (moveToTop g w) (l.erase w ++ [w]) := by
  obtain ⟨i, hi, hfind, herase⟩ := findIdx?_of_mem h.nodup hw
  obtain ⟨hcap, htake, hids⟩ := h.shiftWindows hi
  have hlen := h.length
  have hbound := h.bound
  have hmove : Gui.moveToTop g w =
      ({ Gui.shiftWindows g i with
        wm := { (Gui.shiftWindows g i).wm with
          windows := (Gui.shiftWindows g i).wm.windows.set (g.wm.windowCount - 1) w } }).modify w
        (setId (g.wm.windowCount - 1)) := by
    unfold Gui.moveToTop
    rw [show g.wm.windows.take g.wm.windowCount = l from h.used, hfind]
    rfl
  have hnot : w ∉ l.erase w := h.nodup.not_mem_erase
  have hlast : (l.erase w).length = g.wm.windowCount - 1 := by
    rw [List.length_erase_of_mem hw, hlen]
  rw [herase] at htake hids
  rw [hmove]
  refine ⟨?_, h.bound, ?_, ?_, ?_, fun q => ?_, h.liveNodup, ?_, ?_⟩
  · show ((Gui.shiftWindows g i).wm.windows.set _ w).length = _
    rw [List.length_set, hcap]
  · have hset := take_set (n := g.wm.windowCount - 1) (a := (Gui.shiftWindows g i).wm.windows)
      (by omega) w
    show ((Gui.shiftWindows g i).wm.windows.set _ w).take g.wm.windowCount = _
    rw [htake, show g.wm.windowCount - 1 + 1 = g.wm.windowCount by omega] at hset
    exact hset
  · rw [← List.concat_eq_append]
    exact (h.nodup.erase w).concat hnot
  · rw [List.mem_append, List.mem_singleton, not_or]
    exact ⟨fun hn => h.nonnull (List.mem_of_mem_erase hn), fun he => h.nonnull (he ▸ hw)⟩
  · show q ∈ l.erase w ++ [w] ↔ q ∈ g.live
    rw [List.mem_append, List.mem_singleton, h.nodup.mem_erase_iff, ← h.live q]
    constructor
    · rintro (⟨-, hq⟩ | rfl)
      · exact hq
      · exact hw
    · intro hq
      rcases eq_or_ne q w with rfl | hne
      · exact Or.inr rfl
      · exact Or.inl ⟨hne, hq⟩
  · exact hids.concat hnot hlast.symm
  · intro hoff
    rw [h.off hoff] at hw
    simp at hw

/-! ## The calls -/

/-- What the top window is after another one is gone. -/
theorem topOf_erase {l : List WindowPtr} {w : WindowPtr} (hnd : l.Nodup) (hw : w ∈ l)
    (hne : topOf l ≠ w) : topOf (l.erase w) = topOf l := by
  rcases List.eq_nil_or_concat l with rfl | ⟨init, top, rfl⟩
  · cases hw
  · rw [List.concat_eq_append] at hw hne ⊢
    rw [topOf_concat] at hne ⊢
    have hinit : w ∈ init := by
      rcases List.mem_append.mp hw with hi | ht
      · exact hi
      · exact absurd (List.mem_singleton.mp ht).symm hne
    rw [List.erase_append_left _ hinit, topOf_concat]

theorem windowFocus_off {g : GuiState} {w : WindowPtr}
    (h : g.wm.initialized = false ∨ w = null) : windowFocus g w = g := if_pos h

/-- **`window_focus`** brings a window to the top. -/
theorem Listed.windowFocus {g : GuiState} {l : List WindowPtr} (h : Listed g l) {w : WindowPtr}
    (hw : w ∈ l) (hfocus : g.wm.focusedWindow = w → topOf l = w) :
    ∃ l', Stacked (windowFocus g w) l' := by
  have hon : ¬ (g.wm.initialized = false ∨ w = null) := by
    rintro (hoff | rfl)
    · rw [h.off hoff] at hw
      simp at hw
    · exact h.nonnull hw
  unfold Gui.windowFocus
  rw [if_neg hon]
  by_cases hf : g.wm.focusedWindow = w
  · rw [if_pos hf]
    exact ⟨l, h, by rw [hf, hfocus hf]⟩
  · rw [if_neg hf]
    have hmoved := h.moveToTop hw
    refine ⟨l.erase w ++ [w], ⟨hmoved.capacity, hmoved.bound, hmoved.used, hmoved.nodup,
      hmoved.nonnull, hmoved.live, hmoved.liveNodup, hmoved.ids, hmoved.off⟩, ?_⟩
    exact (topOf_concat _ w).symm

theorem windowFocus_stacked {g : GuiState} {l : List WindowPtr} (h : Stacked g l)
    {w : WindowPtr} (hw : g.Valid w) : ∃ l', Stacked (windowFocus g w) l' := by
  rcases hw with rfl | hw
  · rw [windowFocus_off (Or.inr rfl)]
    exact ⟨l, h⟩
  · exact h.toListed.windowFocus ((h.live w).mpr hw) fun hf => by rw [← h.focus, hf]

/-- What exists is recorded after the call; the call does not look at it. -/
theorem destroyWindow_eq {g : GuiState} {w : WindowPtr}
    (hon : ¬ (g.wm.initialized = false ∨ w = null)) :
    destroyWindow g w = refocus { removeWindow g w with live := g.live.erase w } w := by
  have hlive := windowDestroy_live g w
  unfold destroyWindow GuiState.noteDestroyed
  rw [if_neg fun hw => hon (Or.inr hw), hlive]
  unfold windowDestroy refocus
  rw [if_neg hon]
  by_cases hf : (removeWindow g w).wm.focusedWindow = w
  · simp only [if_pos hf]
  · simp only [if_neg hf]

/-- **`window_destroy`** takes a window out; if it had the focus, the new top one gets it. -/
theorem destroyWindow_stacked {g : GuiState} {l : List WindowPtr} (h : Stacked g l)
    {w : WindowPtr} (hw : g.Valid w) : ∃ l', Stacked (destroyWindow g w) l' := by
  by_cases hnull : w = null
  · have hsame : windowDestroy g w = g := if_pos (Or.inr hnull)
    rw [destroyWindow, hsame, hnull, GuiState.noteDestroyed_null]
    exact ⟨l, h⟩
  · have hmem : w ∈ l := (h.live w).mpr (hw.resolve_left hnull)
    have hinit := h.on_of_mem hmem
    rw [destroyWindow_eq (by simp [hinit, hnull])]
    obtain ⟨hlisted, hfocused⟩ := h.toListed.remove hmem
    have hlen : (l.erase w).length = (removeWindow g w).wm.windowCount := hlisted.length
    refine ⟨l.erase w, ?_⟩
    unfold refocus
    dsimp only
    rw [hfocused]
    by_cases hf : g.wm.focusedWindow = w
    · rw [if_pos hf]
      refine ⟨⟨hlisted.capacity, hlisted.bound, hlisted.used, hlisted.nodup, hlisted.nonnull,
        hlisted.live, hlisted.liveNodup, hlisted.ids, hlisted.off⟩, ?_⟩
      show (if 0 < (removeWindow g w).wm.windowCount then _ else null) = topOf (l.erase w)
      have hused : (removeWindow g w).wm.windows.take (removeWindow g w).wm.windowCount =
          l.erase w := hlisted.used
      unfold topOf
      split
      · next hpos =>
        rw [List.getLast?_eq_getElem?, hlen, ← hused, List.getElem?_take_of_lt (by omega),
          List.getD_eq_getElem?_getD]
      · next hpos =>
        have hnil : l.erase w = [] := List.eq_nil_of_length_eq_zero (by omega)
        rw [hnil]
        rfl
    · rw [if_neg hf]
      refine ⟨hlisted, ?_⟩
      show (removeWindow g w).wm.focusedWindow = _
      rw [hfocused, topOf_erase h.nodup hmem (by rw [← h.focus]; exact hf), h.focus]

/-- The new record is put behind the others, before it gets the focus. -/
theorem Stacked.append {g : GuiState} {l : List WindowPtr} (h : Stacked g l) {block : WindowPtr}
    (hfresh : block ∉ g.live) (hblock : block ≠ null) (hinit : g.wm.initialized = true)
    (hcount : g.wm.windowCount < maxWindows) {r : Window} (hr : r.id = g.wm.windowCount) :
    Listed { placeWindow g block r with live := block :: g.live } (l ++ [block]) := by
  have hnot : block ∉ l := fun hb => hfresh ((h.live block).mp hb)
  refine ⟨?_, hcount, ?_, ?_, ?_, fun w => ?_, List.nodup_cons.mpr ⟨hfresh, h.liveNodup⟩, ?_, ?_⟩
  · show (g.wm.windows.set _ block).length = _
    rw [List.length_set, h.capacity]
  · show (g.wm.windows.set _ block).take (g.wm.windowCount + 1) = _
    rw [take_set (by rw [h.capacity]; exact hcount)]
    exact congrArg (· ++ [block]) h.used
  · rw [← List.concat_eq_append]
    exact h.nodup.concat hnot
  · rw [List.mem_append, List.mem_singleton, not_or]
    exact ⟨h.nonnull, hblock.symm⟩
  · rw [List.mem_append, List.mem_singleton, List.mem_cons, h.live w]
    exact or_comm
  · exact h.ids.concat hnot (by rw [hr, h.length])
  · intro hoff
    rw [show g.wm.initialized = false from hoff] at hinit
    simp at hinit

/-- **`window_create`** leaves the array alone when an allocation fails, else adds a window. -/
theorem createWindow_stacked {g : GuiState} {l : List WindowPtr} (h : Stacked g l)
    (title : Option (List UInt8)) (x y width height : Int32) {block : Nat} (buffer : Nat)
    (hfresh : block ∉ g.live) :
    ∃ l', Stacked (createWindow g title x y width height block buffer) l' := by
  rcases createWindow_cases g title x y width height block buffer with
    heq | ⟨r, heq⟩ | ⟨hok, name, heq⟩
  · rw [heq]
    exact ⟨l, h⟩
  · rw [heq]
    exact ⟨l, h.modify_fresh hfresh _⟩
  · rw [heq]
    refine (h.append hfresh hok.block hok.on hok.room rfl).windowFocus (by simp) fun hf => ?_
    exact topOf_concat l block

/-! ## The mouse -/

theorem windowAt_mem {g : GuiState} {l : List WindowPtr} (h : Stacked g l) (x y : Int32) :
    ∀ {n : Nat} {w : WindowPtr}, n ≤ g.wm.windowCount → windowAt g x y n = some w → w ∈ l := by
  intro n
  induction n with
  | zero => intro w _ hw; cases hw
  | succ n ih =>
    intro w hn hw
    rw [windowAt] at hw
    split at hw
    · exact ih (by omega) hw
    · split at hw
      · cases hw
        have hcap := h.capacity
        have hbound := h.bound
        have hused : g.wm.windows.take g.wm.windowCount = l := h.used
        have hlt : n < g.wm.windows.length := by omega
        rw [← hused, List.getD_eq_getElem?_getD, List.getElem?_eq_getElem hlt, Option.getD_some]
        exact mem_take_iff_getElem?.mpr ⟨n, by omega, List.getElem?_eq_getElem hlt⟩
      · exact ih (by omega) hw

theorem windowResize_stacked {g : GuiState} {l : List WindowPtr} (h : Stacked g l)
    (w : WindowPtr) (width height : Int32) (buffer : Nat) :
    Stacked (windowResize g w width height buffer) l := by
  unfold windowResize
  split
  · exact h
  · split
    · exact h
    · exact h.modify w fun _ => rfl

theorem toggleMaximize_stacked {g : GuiState} {l : List WindowPtr} (h : Stacked g l)
    (w : WindowPtr) (buffer : Nat) : Stacked (toggleMaximize g w buffer) l := by
  unfold toggleMaximize
  split
  · exact windowResize_stacked (h.modify w (by intro r; rfl)) w _ _ buffer
  · exact windowResize_stacked (h.modify w (by intro r; rfl)) w _ _ buffer

theorem startDrag_stacked {g : GuiState} {l : List WindowPtr} (h : Stacked g l) {w : WindowPtr}
    (hw : g.Valid w) (relX relY : Int32) : ∃ l', Stacked (startDrag g w relX relY) l' := by
  unfold startDrag
  split
  · exact ⟨l, h⟩
  · obtain ⟨l', hl'⟩ := windowFocus_stacked h hw
    dsimp only
    split
    · exact ⟨l', hl'.modify w fun _ => rfl⟩
    · have hdrag : Stacked ((windowFocus g w).modify w fun r => { r with dragging := true }) l' :=
        hl'.modify w fun _ => rfl
      exact ⟨l', hdrag.congr rfl rfl fun _ _ => rfl⟩

/-- A click on the title bar closes the window, or does something that keeps it. -/
theorem clickTitle_stacked {g : GuiState} {l : List WindowPtr} (h : Stacked g l) {w : WindowPtr}
    (hw : g.Valid w) (x y : Int32) (buffer : Nat) :
    ∃ l', Stacked ((clickTitle g w x y buffer).noteDestroyed
      (if inside (x - (g.mem w).x) (y - (g.mem w).y) (g.mem w).closeX (g.mem w).closeY
        (g.mem w).closeW (g.mem w).closeH then w else null)) l' := by
  unfold clickTitle
  dsimp only
  split
  · exact destroyWindow_stacked h hw
  · rw [GuiState.noteDestroyed_null]
    split
    · exact ⟨l, toggleMaximize_stacked h w buffer⟩
    · exact startDrag_stacked h hw _ _

theorem handleDrag_stacked {g : GuiState} {l : List WindowPtr} (h : Stacked g l) (x y : Int32)
    (left : Bool) : Stacked (handleDrag g x y left).2 l := by
  unfold handleDrag
  dsimp only
  split
  · exact h
  · split
    · dsimp only
      exact h.modify _ fun _ => rfl
    · dsimp only
      exact h.modify _ fun _ => rfl

/-- **`window_handle_mouse`** finds an existing window and does one thing with it. -/
theorem windowHandleMouse_stacked {g : GuiState} {l : List WindowPtr} (h : Stacked g l)
    (x y : Int32) (left : Bool) (buffer : Nat) :
    ∃ l', Stacked ((windowHandleMouse g x y left buffer).2.noteDestroyed (closedBy g x y left))
      l' := by
  cases hat : windowAt g x y g.wm.windowCount with
  | none =>
    have hclosed : closedBy g x y left = null := by simp only [closedBy, hat]
    rw [hclosed, GuiState.noteDestroyed_null]
    unfold windowHandleMouse
    simp only [hat]
    split
    · exact ⟨l, h⟩
    · exact ⟨l, handleDrag_stacked h x y left⟩
  | some w =>
    have hw : w ∈ l := windowAt_mem h x y (Nat.le_refl _) hat
    have hon : g.wm.initialized = true := h.on_of_mem hw
    unfold windowHandleMouse closedBy
    simp only [hat, hon, Bool.true_eq_false, if_false, true_and]
    by_cases hbar : y < (g.mem w).y + windowTitleHeight ∧ left = true
    · simp only [hbar, and_self, if_true, true_and]
      exact clickTitle_stacked h (Or.inr ((h.live w).mp hw)) x y buffer
    · simp only [hbar, false_and, if_false, GuiState.noteDestroyed_null]
      exact ⟨l, h⟩

/-! ## Runs -/

theorem windowManagerInit_stacked {g : GuiState} {l : List WindowPtr} (h : Stacked g l) :
    ∃ l', Stacked (windowManagerInit g) l' := by
  unfold windowManagerInit
  split
  · exact ⟨l, h⟩
  · next hinit =>
    obtain rfl : l = [] := h.off (by simpa using hinit)
    exact ⟨[], ⟨⟨List.length_replicate, Nat.zero_le _, List.take_zero, List.nodup_nil,
      List.not_mem_nil, h.live, h.liveNodup, h.ids, fun _ => rfl⟩, rfl⟩⟩

/-- **One call.** -/
theorem stacked_step {g g' : GuiState} {op : GuiOp} {l : List WindowPtr} (h : Stacked g l)
    (hs : guiStep g op = some g') : ∃ l', Stacked g' l' := by
  cases op with
  | init => cases hs; exact windowManagerInit_stacked h
  | create title x y width height block buffer =>
    simp only [guiStep] at hs
    split at hs
    · cases hs
    · next hfresh => cases hs; exact createWindow_stacked h title x y width height buffer hfresh
  | destroy w =>
    simp only [guiStep] at hs
    split at hs
    · next hw => cases hs; exact destroyWindow_stacked h hw
    · cases hs
  | focus w =>
    simp only [guiStep] at hs
    split at hs
    · next hw => cases hs; exact windowFocus_stacked h hw
    · cases hs
  | «show» w =>
    simp only [guiStep, windowShow] at hs
    split at hs
    · split at hs <;> cases hs
      · exact ⟨l, h⟩
      · exact ⟨l, h.modify w fun _ => rfl⟩
    · cases hs
  | hide w =>
    simp only [guiStep, windowHide] at hs
    split at hs
    · split at hs <;> cases hs
      · exact ⟨l, h⟩
      · exact ⟨l, h.modify w fun _ => rfl⟩
    · cases hs
  | move w x y =>
    simp only [guiStep, windowMove] at hs
    split at hs
    · split at hs <;> cases hs
      · exact ⟨l, h⟩
      · exact ⟨l, h.modify w fun _ => rfl⟩
    · cases hs
  | resize w width height buffer =>
    simp only [guiStep] at hs
    split at hs
    · cases hs; exact ⟨l, windowResize_stacked h w width height buffer⟩
    · cases hs
  | mouse x y left buffer => cases hs; exact windowHandleMouse_stacked h x y left buffer

/--
**In every state of every run the array lists the existing windows, numbered by their cells, and
the window on top has the focus.**

The run is any sequence of calls, with any outcome of the allocations, from any contents of memory.
-/
theorem windows_ordered (mem : WindowPtr → Window) (ops : List GuiOp) :
    Always guiStep WindowsOrdered (GuiState.boot mem) ops := by
  refine Always.of_invariant (I := fun g => ∃ l, Stacked g l) ?_ ?_ ⟨[], stacked_boot mem⟩
  · rintro g ⟨l, hl⟩
    exact hl.ordered
  · rintro g op g' ⟨l, hl⟩ hs
    exact stacked_step hl hs

end MayaOs.Gui
