import MayaOs.Gui.Desktop

/-!
# The start menu

* `showsPanel_toggle`, `holdsSearch_key` — a panel is shown alone, and the search is what was typed
* `searchMatches_iff` — an application is found iff its name begins with the search
* `drawAppGrid_eq` — the grid has rows of four
* `desktop_session` — what the desktop shows after every sequence of calls
-/

namespace MayaOs.Gui

open MayaOs.Lib
open MayaOs.Apps

/-! ## Sessions -/

inductive Panel where
  | startMenu
  | network
  | volume
  | battery
  deriving Repr, DecidableEq

inductive DesktopOp where
  | addApplication (name command category : Bytes)
  | addIcon (name path : Bytes) (x y : Int) (type : UInt8)
  | toggle (panel : Panel)
  | key (ascii : UInt8)
  | iconClick (x y : Int) (double : Bool)
  deriving Repr, DecidableEq

def desktopToggle (d : Desktop) : Panel → Desktop
  | .startMenu => desktopToggleStartMenu d
  | .network => desktopToggleNetworkFlyout d
  | .volume => desktopToggleVolumeFlyout d
  | .battery => desktopToggleBatteryFlyout d

def desktopStep (d : Desktop) : DesktopOp → Desktop
  | .addApplication name command category => desktopAddApplication d name command category
  | .addIcon name path x y type => desktopAddIcon d name path x y type
  | .toggle panel => desktopToggle d panel
  | .key ascii => desktopHandleStartMenuInput d ascii
  | .iconClick x y double => (desktopHandleIconClick d x y double).1

/-- The names of the applications, where the icons are, the panel that is open, what was typed since
the start menu was last opened or closed, and the icon that was clicked. -/
structure DesktopSession where
  apps : List Bytes
  icons : List (Int × Int)
  panel : Option Panel
  typed : Bytes
  selected : Option Nat
  deriving Repr, DecidableEq

def DesktopSession.zero : DesktopSession where
  apps := []
  icons := []
  panel := none
  typed := []
  selected := none

/-- A backspace takes the last character off, and there is room for 63 characters. -/
def typeSearch (typed : Bytes) (c : UInt8) : Bytes :=
  if c = 0x08 then typed.dropLast
  else if 0x20 ≤ c ∧ c ≤ 0x7E ∧ typed.length < 63 then typed ++ [c]
  else typed

def DesktopSession.step (s : DesktopSession) : DesktopOp → DesktopSession
  | .addApplication name _ _ =>
    { s with
      apps :=
        if s.apps.length < maxApplications then s.apps ++ [(cString name).take 63] else s.apps }
  | .addIcon _ _ x y _ =>
    { s with
      icons := if s.icons.length < maxDesktopIcons then s.icons ++ [(x, y)] else s.icons }
  | .toggle panel =>
    { s with
      panel := if s.panel = some panel then none else some panel
      typed := if panel = .startMenu then [] else s.typed }
  | .key ascii =>
    { s with typed := if s.panel = some .startMenu then typeSearch s.typed ascii else s.typed }
  | .iconClick x y _ =>
    { s with
      selected := s.icons.findIdx? fun p =>
        p.1 ≤ x ∧ x ≤ int32 (p.1 + 48) ∧ p.2 ≤ y ∧ y ≤ int32 (p.2 + 48) }

/-- The applications whose names begin with the search, in rows of four. -/
def DesktopSession.menu (s : DesktopSession) : List MenuIcon :=
  (s.apps.filter fun name => s.typed.map lowerChar <+: name.map lowerChar).mapIdx fun k name =>
    ⟨30 + 64 * (k % 4 : Nat), 80 * (k / 4 : Nat) - 188, name⟩

/-! ## What the session says about the desktop -/

/-- At most this panel is open. -/
structure ShowsPanel (d : Desktop) (panel : Option Panel) : Prop where
  startMenu : d.showStartMenu = (panel == some .startMenu)
  network : d.showNetworkFlyout = (panel == some .network)
  volume : d.showVolumeFlyout = (panel == some .volume)
  battery : d.showBatteryFlyout = (panel == some .battery)

/-- The buffer of the search holds what was typed, and zeros behind it. -/
structure HoldsSearch (d : Desktop) (typed : Bytes) : Prop where
  buffer : d.startMenuSearch = typed ++ List.replicate (startMenuSearchSize - typed.length) 0
  len : d.startMenuSearchLen = typed.length
  room : typed.length ≤ 63
  chars : ∀ c ∈ typed, c ≠ 0

/-- The applications have these names. -/
structure HoldsApps (d : Desktop) (names : List Bytes) : Prop where
  texts : d.apps.map (fun app => cString app.name) = names
  buffers : ∀ app ∈ d.apps, app.name.length = 64

/-- The icons are at these positions, and one of them at most is selected. -/
structure HoldsIcons (d : Desktop) (positions : List (Int × Int)) (selected : Option Nat) :
    Prop where
  places : d.icons.map (fun icon => (icon.x, icon.y)) = positions
  sizes : ∀ icon ∈ d.icons, icon.width = 48 ∧ icon.height = 48
  marks : d.icons.map (fun icon => icon.selected) =
    (List.range d.icons.length).map fun i => selected == some i
  existing : ∀ i, selected = some i → i < d.icons.length

structure ShowsSession (d : Desktop) (s : DesktopSession) : Prop where
  panel : ShowsPanel d s.panel
  search : HoldsSearch d s.typed
  apps : HoldsApps d s.apps
  icons : HoldsIcons d s.icons s.selected

theorem showsSession_zero : ShowsSession Desktop.zero DesktopSession.zero where
  panel := ⟨rfl, rfl, rfl, rfl⟩
  search := ⟨rfl, rfl, by decide, fun _ h => nomatch h⟩
  apps := ⟨rfl, fun _ h => nomatch h⟩
  icons := ⟨rfl, fun _ h => (nomatch h), rfl, fun _ h => (nomatch h)⟩

variable {d : Desktop} {s : DesktopSession}

/-! ## The panels -/

/-- **A panel that is opened is the only one.** -/
theorem showsPanel_toggle {shown : Option Panel} (h : ShowsPanel d shown) (panel : Panel) :
    ShowsPanel (desktopToggle d panel) (if shown = some panel then none else some panel) := by
  obtain ⟨hmenu, hnetwork, hvolume, hbattery⟩ := h
  by_cases hshown : shown = some panel
  · subst hshown
    cases panel <;>
      simp only [desktopToggle, desktopToggleStartMenu, desktopToggleNetworkFlyout,
        desktopToggleVolumeFlyout, desktopToggleBatteryFlyout, hmenu, hnetwork, hvolume, hbattery] <;>
      exact ⟨by simp [*], by simp [*], by simp [*], by simp [*]⟩
  · have hclosed : (shown == some panel) = false := beq_eq_false_iff_ne.mpr hshown
    rw [if_neg hshown]
    cases panel <;>
      simp only [desktopToggle, desktopToggleStartMenu, desktopToggleNetworkFlyout,
        desktopToggleVolumeFlyout, desktopToggleBatteryFlyout, hmenu, hnetwork, hvolume, hbattery,
        hclosed] <;>
      exact ⟨rfl, rfl, rfl, rfl⟩

/-! ## The search -/

theorem holdsSearch_nil (d : Desktop) : HoldsSearch (desktopToggleStartMenu d) [] := by
  unfold desktopToggleStartMenu
  dsimp only
  split <;> exact ⟨rfl, rfl, by decide, fun _ h => nomatch h⟩

/-- A character and the terminator behind it. -/
theorem set_end (typed : Bytes) (c : UInt8) (n : Nat) :
    ((typed ++ List.replicate (n + 2) 0).set typed.length c).set (typed.length + 1) 0 =
      typed ++ [c] ++ List.replicate (n + 1) 0 := by
  rw [List.set_append_right _ _ (Nat.le_refl _), Nat.sub_self,
    List.set_append_right _ _ (Nat.le_add_right _ _), Nat.add_sub_cancel_left, List.append_assoc]
  rfl

/-- **One key.** -/
theorem holdsSearch_key {typed : Bytes} (h : HoldsSearch d typed) (hshown : d.showStartMenu = true)
    (c : UInt8) : HoldsSearch (desktopHandleStartMenuInput d c) (typeSearch typed c) := by
  have hroom := h.room
  unfold desktopHandleStartMenuInput typeSearch
  rw [if_neg (by simp [hshown]), h.len]
  by_cases hback : c = 0x08
  · rw [if_pos hback]
    rcases List.eq_nil_or_concat typed with rfl | ⟨init, last, rfl⟩
    · rw [if_neg (by simp), if_neg (by subst hback; decide)]
      exact h
    · have hlen : (init.concat last).length = init.length + 1 := List.length_concat
      rw [if_pos ⟨hback, by omega⟩, List.concat_eq_append, List.dropLast_concat]
      rw [List.concat_eq_append] at h
      refine ⟨?_, by simp, by omega, fun b hb => h.chars b (List.mem_append_left _ hb)⟩
      have hsize : startMenuSearchSize - init.length =
          startMenuSearchSize - (init.length + 1) + 1 := by
        unfold startMenuSearchSize
        omega
      have hat : (init ++ [last]).length - 1 = init.length := by simp
      show d.startMenuSearch.set ((init ++ [last]).length - 1) 0 = _
      rw [h.buffer, hat, List.append_assoc, List.set_append_right _ _ (Nat.le_refl _), Nat.sub_self,
        List.length_append, List.length_singleton, hsize]
      rfl
  · rw [if_neg (by simp [hback]), if_neg hback]
    by_cases hchar : 0x20 ≤ c ∧ c ≤ 0x7E ∧ typed.length < 63
    · rw [if_pos hchar, if_pos hchar]
      obtain ⟨hlow, -, hfits⟩ := hchar
      obtain ⟨n, hn⟩ : ∃ n, startMenuSearchSize - typed.length = n + 2 :=
        ⟨startMenuSearchSize - typed.length - 2, by unfold startMenuSearchSize; omega⟩
      have hlen : (typed ++ [c]).length = typed.length + 1 := List.length_append
      refine ⟨?_, hlen.symm, by omega, fun b hb => ?_⟩
      · show (d.startMenuSearch.set typed.length c).set (typed.length + 1) 0 = _
        rw [h.buffer, hn, set_end, hlen, Nat.sub_add_eq, hn]
        rfl
      · rcases List.mem_append.mp hb with hb | hb
        · exact h.chars b hb
        · rw [List.mem_singleton.mp hb]
          rintro rfl
          exact absurd hlow (by decide)
    · rw [if_neg hchar, if_neg hchar]
      exact h

theorem lowerChar_eq_zero_iff (c : UInt8) : lowerChar c = 0 ↔ c = 0 := by
  unfold lowerChar
  split
  · next h =>
    rw [UInt8.le_iff_toNat_le, UInt8.le_iff_toNat_le] at h
    constructor <;> intro hzero
    · have := congrArg UInt8.toNat hzero
      simp only [UInt8.toNat_add, UInt8.reduceToNat] at this h
      omega
    · rw [hzero] at h
      exact absurd h.1 (by decide)
  · exact Iff.rfl

/-- The beginning of a text is the beginning of its buffer. -/
theorem prefix_cString_iff {l : Bytes} (hl : ∀ c ∈ l, c ≠ 0) (buffer : Bytes) :
    l <+: cString buffer ↔ l <+: buffer := by
  constructor
  · exact fun h => h.trans (List.takeWhile_prefix _)
  · rintro ⟨rest, rfl⟩
    unfold cString
    rw [List.takeWhile_append_of_pos fun c hc => decide_eq_true (hl c hc)]
    exact List.prefix_append _ _

theorem cString_map_lowerChar (buffer : Bytes) :
    (cString buffer).map lowerChar = cString (buffer.map lowerChar) := by
  unfold cString
  rw [List.takeWhile_map]
  congr 2
  funext c
  simp [lowerChar_eq_zero_iff]

/-- **An application is found iff its name begins with the search**, capital letters or not. -/
theorem searchMatches_iff {typed : Bytes} (h : HoldsSearch d typed) {app : Application}
    (happ : app.name.length = 64) :
    searchMatches d app = true ↔ typed.map lowerChar <+: (cString app.name).map lowerChar := by
  have hchars : ∀ c ∈ typed.map lowerChar, c ≠ 0 := by
    intro c hc
    obtain ⟨b, hb, rfl⟩ := List.mem_map.mp hc
    exact fun hzero => h.chars b hb ((lowerChar_eq_zero_iff b).mp hzero)
  have hroom := h.room
  rw [cString_map_lowerChar, prefix_cString_iff hchars, List.prefix_iff_getElem?]
  unfold searchMatches
  rw [h.len, List.all_eq_true]
  have hlen : (typed.map lowerChar).length = typed.length := List.length_map ..
  have hchar : ∀ (c : Nat) (hc : c < typed.length),
      (lowerChar (d.startMenuSearch.getD c 0) == lowerChar (app.name.getD c 0)) = true ↔
        (app.name.map lowerChar)[c]? = some (lowerChar typed[c]) := by
    intro c hc
    have hname : c < app.name.length := by omega
    have hsearch : d.startMenuSearch.getD c 0 = typed[c] := by
      rw [h.buffer, List.getD_eq_getElem?_getD, List.getElem?_append_left hc,
        List.getElem?_eq_getElem hc, Option.getD_some]
    rw [hsearch, List.getD_eq_getElem?_getD, List.getElem?_map, List.getElem?_eq_getElem hname,
      Option.getD_some, Option.map_some, beq_iff_eq, Option.some_inj]
    exact eq_comm
  constructor
  · intro hall c hc
    have hc' : c < typed.length := hlen ▸ hc
    rw [List.getElem_map]
    exact (hchar c hc').mp (hall c (List.mem_range.mpr hc'))
  · intro hpre c hc
    have hc' : c < typed.length := List.mem_range.mp hc
    have hget := hpre c (hlen.symm ▸ hc')
    rw [List.getElem_map] at hget
    exact (hchar c hc').mpr hget

/-! ## The applications -/

theorem cString_copyText (size : Nat) (hsize : 0 < size) (text : Bytes) :
    cString (copyText size text) = (cString text).take (size - 1) := by
  refine cString_strncpy ?_ text
  rw [List.getElem?_replicate, if_pos (by omega)]

theorem holdsApps_add {names : List Bytes} (h : HoldsApps d names) (name command category : Bytes) :
    HoldsApps (desktopAddApplication d name command category)
      (if names.length < maxApplications then names ++ [(cString name).take 63] else names) := by
  have hlen : names.length = d.apps.length := by rw [← h.texts, List.length_map]
  unfold desktopAddApplication
  by_cases hroom : names.length < maxApplications
  · rw [if_neg (by omega), if_pos hroom]
    refine ⟨?_, fun app happ => ?_⟩
    · show List.map _ (d.apps ++ [_]) = _
      rw [List.map_append, h.texts, List.map_singleton, cString_copyText 64 (by decide)]
    · rcases List.mem_append.mp happ with hold | hnew
      · exact h.buffers app hold
      · rw [List.mem_singleton.mp hnew]
        exact (length_strncpy (by simp) name).trans List.length_replicate
  · rw [if_pos (by omega), if_neg hroom]
    exact h

/-- An application that has been launched keeps its name. -/
theorem launch_names (d : Desktop) (index : Nat) :
    (desktopLaunchApplication d index).apps.map (fun app => app.name) =
      d.apps.map fun app => app.name := by
  refine List.ext_getElem? fun i => ?_
  unfold desktopLaunchApplication
  rw [List.getElem?_map, List.getElem?_map, List.getElem?_modify]
  cases d.apps[i]? with
  | none => rfl
  | some app => simp only [Option.map_some, Option.map_eq_map]; split <;> rfl

theorem HoldsApps.congr {names : List Bytes} (h : HoldsApps d names) {d' : Desktop}
    (heq : d'.apps.map (fun app => app.name) = d.apps.map fun app => app.name) :
    HoldsApps d' names := by
  refine ⟨?_, fun app happ => ?_⟩
  · rw [← h.texts]
    simpa only [List.map_map, Function.comp_def] using congrArg (List.map cString) heq
  · have hmem : app.name ∈ d.apps.map fun app => app.name := by
      rw [← heq]
      exact List.mem_map_of_mem happ
    obtain ⟨app', happ', hname⟩ := List.mem_map.mp hmem
    rw [← hname]
    exact h.buffers app' happ'

/-! ## The icons -/

theorem holdsIcons_add {positions : List (Int × Int)} {selected : Option Nat}
    (h : HoldsIcons d positions selected) (name path : Bytes) (x y : Int) (type : UInt8) :
    HoldsIcons (desktopAddIcon d name path x y type)
      (if positions.length < maxDesktopIcons then positions ++ [(x, y)] else positions) selected := by
  have hlen : positions.length = d.icons.length := by rw [← h.places, List.length_map]
  unfold desktopAddIcon
  by_cases hroom : positions.length < maxDesktopIcons
  · rw [if_neg (by omega), if_pos hroom]
    have hlast : (selected == some d.icons.length) = false := by
      refine beq_eq_false_iff_ne.mpr fun he => ?_
      exact absurd (h.existing _ he) (Nat.lt_irrefl _)
    refine ⟨?_, fun icon hicon => ?_, ?_, fun i hi => ?_⟩
    · show List.map _ (d.icons ++ [_]) = _
      rw [List.map_append, h.places]
      rfl
    · rcases List.mem_append.mp hicon with hold | hnew
      · exact h.sizes icon hold
      · rw [List.mem_singleton.mp hnew]
        exact ⟨rfl, rfl⟩
    · show List.map _ (d.icons ++ [_]) = List.map _ (List.range (d.icons ++ [_]).length)
      rw [List.map_append, h.marks, List.length_append, List.length_singleton, List.range_succ,
        List.map_append, List.map_singleton, List.map_singleton, hlast]
    · show i < (d.icons ++ [_]).length
      rw [List.length_append]
      exact Nat.lt_add_right _ (h.existing i hi)
  · rw [if_pos (by omega), if_neg hroom]
    exact h

theorem findIdx?_congr {α : Type} {p q : α → Bool} : ∀ {l : List α}, (∀ a ∈ l, p a = q a) →
    l.findIdx? p = l.findIdx? q := by
  intro l
  induction l with
  | nil => intro _; rfl
  | cons a l ih =>
    intro h
    rw [List.findIdx?_cons, List.findIdx?_cons, h a List.mem_cons_self,
      ih fun b hb => h b (List.mem_cons_of_mem a hb)]

/-- The icon that is clicked is the first at the position. -/
theorem findIdx?_covers {positions : List (Int × Int)} {selected : Option Nat}
    (h : HoldsIcons d positions selected) (x y : Int) :
    (d.icons.findIdx? fun icon => icon.covers x y) = positions.findIdx? fun p =>
      p.1 ≤ x ∧ x ≤ int32 (p.1 + 48) ∧ p.2 ≤ y ∧ y ≤ int32 (p.2 + 48) := by
  rw [← h.places, List.findIdx?_map]
  refine findIdx?_congr fun icon hicon => ?_
  obtain ⟨hwidth, hheight⟩ := h.sizes icon hicon
  unfold DesktopIcon.covers
  rw [hwidth, hheight]
  rfl

/-- **One click** selects the icon that is clicked, and no other. -/
theorem holdsIcons_click {positions : List (Int × Int)} {selected : Option Nat}
    (h : HoldsIcons d positions selected) (x y : Int) (double : Bool) :
    HoldsIcons (desktopHandleIconClick d x y double).1 positions
      (positions.findIdx? fun p =>
        p.1 ≤ x ∧ x ≤ int32 (p.1 + 48) ∧ p.2 ≤ y ∧ y ≤ int32 (p.2 + 48)) := by
  rw [← findIdx?_covers h]
  unfold desktopHandleIconClick
  cases hfound : d.icons.findIdx? fun icon => icon.covers x y with
  | none =>
    refine ⟨?_, fun icon hicon => ?_, ?_, fun i hi => nomatch hi⟩
    · show List.map _ (d.icons.map _) = _
      rw [List.map_map]
      exact h.places
    · obtain ⟨icon', hicon', rfl⟩ := List.mem_map.mp hicon
      exact h.sizes icon' hicon'
    · refine List.ext_getElem (by simp) fun i hi _ => ?_
      simp
  | some i =>
    have hi : i < d.icons.length := (List.findIdx?_eq_some_iff_getElem.mp hfound).1
    have hmarked : HoldsIcons { d with icons := d.icons.mapIdx fun j icon =>
        { icon with selected := i == j } } positions (some i) := by
      refine ⟨?_, fun icon hicon => ?_, ?_, fun j hj => ?_⟩
      · rw [← h.places]
        exact List.ext_getElem (by simp) fun j hj _ => by simp
      · obtain ⟨j, hj, rfl⟩ := List.mem_mapIdx.mp hicon
        exact h.sizes d.icons[j] (List.getElem_mem hj)
      · refine List.ext_getElem (by simp) fun j hj _ => ?_
        simp
      · obtain rfl := Option.some.inj hj
        simpa using hi
    dsimp only
    split
    · exact hmarked
    · exact ⟨hmarked.places, hmarked.sizes, hmarked.marks, hmarked.existing⟩

/-! ## The grid -/

/-- **The grid has rows of four.** -/
theorem drawAppGrid_eq (d : Desktop) : ∀ (apps : List Application) (k : Nat),
    drawAppGrid d apps (30 + 64 * (k % 4 : Nat)) (80 * (k / 4 : Nat) - 188) =
      ((apps.filter fun app => d.startMenuSearchLen = 0 ∨ searchMatches d app).zipIdx k).map
        fun p => ⟨30 + 64 * (p.2 % 4 : Nat), 80 * (p.2 / 4 : Nat) - 188, cString p.1.name⟩ := by
  intro apps
  induction apps with
  | nil => intro k; rfl
  | cons app apps ih =>
    intro k
    rw [drawAppGrid, List.filter_cons]
    by_cases hfound : d.startMenuSearchLen = 0 ∨ searchMatches d app = true
    · have hshown : ¬(0 < d.startMenuSearchLen ∧ searchMatches d app = false) := by
        rintro ⟨hpos, hfalse⟩
        rcases hfound with hzero | htrue
        · omega
        · rw [htrue] at hfalse
          cases hfalse
      rw [if_neg hshown, if_pos (decide_eq_true hfound), List.zipIdx_cons, List.map_cons, ← ih (k + 1)]
      congr 1
      have hwidth : menuX + menuWidth = 310 := rfl
      have hleft : menuX + 20 = 30 := rfl
      rw [hwidth, hleft]
      split
      · congr 1 <;> omega
      · congr 1 <;> omega
    · have hhidden : 0 < d.startMenuSearchLen ∧ searchMatches d app = false := by
        rw [not_or, Bool.not_eq_true] at hfound
        exact ⟨Nat.pos_of_ne_zero hfound.1, hfound.2⟩
      rw [if_pos hhidden, if_neg (by simpa using hfound)]
      exact ih k

/-! ## Sequences of calls -/

theorem HoldsSearch.congr {d' : Desktop} {typed : Bytes} (h : HoldsSearch d typed)
    (hbuffer : d'.startMenuSearch = d.startMenuSearch)
    (hlen : d'.startMenuSearchLen = d.startMenuSearchLen) : HoldsSearch d' typed :=
  ⟨hbuffer.trans h.buffer, hlen.trans h.len, h.room, h.chars⟩

/-- The flyouts leave the search alone. -/
theorem flyout_search (d : Desktop) {panel : Panel} (hpanel : panel ≠ .startMenu) :
    (desktopToggle d panel).startMenuSearch = d.startMenuSearch ∧
      (desktopToggle d panel).startMenuSearchLen = d.startMenuSearchLen := by
  cases panel with
  | startMenu => exact absurd rfl hpanel
  | network =>
    unfold desktopToggle desktopToggleNetworkFlyout
    dsimp only
    split <;> exact ⟨rfl, rfl⟩
  | volume =>
    unfold desktopToggle desktopToggleVolumeFlyout
    dsimp only
    split <;> exact ⟨rfl, rfl⟩
  | battery =>
    unfold desktopToggle desktopToggleBatteryFlyout
    dsimp only
    split <;> exact ⟨rfl, rfl⟩

theorem holdsSearch_toggle {typed : Bytes} (h : HoldsSearch d typed) (panel : Panel) :
    HoldsSearch (desktopToggle d panel) (if panel = .startMenu then [] else typed) := by
  by_cases hpanel : panel = .startMenu
  · rw [if_pos hpanel, hpanel]
    exact holdsSearch_nil d
  · rw [if_neg hpanel]
    obtain ⟨hbuffer, hlen⟩ := flyout_search d hpanel
    exact h.congr hbuffer hlen

/-- Opening and closing leaves the applications and the icons alone. -/
theorem toggle_frame (d : Desktop) (panel : Panel) :
    (desktopToggle d panel).apps = d.apps ∧ (desktopToggle d panel).icons = d.icons := by
  cases panel <;>
    simp only [desktopToggle, desktopToggleStartMenu, desktopToggleNetworkFlyout,
      desktopToggleVolumeFlyout, desktopToggleBatteryFlyout] <;>
    split <;> exact ⟨rfl, rfl⟩

/-- **One call.** -/
theorem session_step (h : ShowsSession d s) (op : DesktopOp) :
    ShowsSession (desktopStep d op) (s.step op) := by
  obtain ⟨hpanel, hsearch, happs, hicons⟩ := h
  cases op with
  | addApplication name command category =>
    have hadded := holdsApps_add happs name command category
    obtain ⟨apps, heq⟩ :
        ∃ apps, desktopAddApplication d name command category = { d with apps := apps } := by
      unfold desktopAddApplication
      split <;> exact ⟨_, rfl⟩
    rw [heq] at hadded
    rw [desktopStep, heq]
    exact ⟨⟨hpanel.1, hpanel.2, hpanel.3, hpanel.4⟩, hsearch.congr rfl rfl, hadded,
      ⟨hicons.1, hicons.2, hicons.3, hicons.4⟩⟩
  | addIcon name path x y type =>
    have hadded := holdsIcons_add hicons name path x y type
    obtain ⟨icons, heq⟩ : ∃ icons, desktopAddIcon d name path x y type = { d with icons := icons } := by
      unfold desktopAddIcon
      split <;> exact ⟨_, rfl⟩
    rw [heq] at hadded
    rw [desktopStep, heq]
    exact ⟨⟨hpanel.1, hpanel.2, hpanel.3, hpanel.4⟩, hsearch.congr rfl rfl, happs.congr rfl, hadded⟩
  | toggle panel =>
    obtain ⟨hsame, hplaces⟩ := toggle_frame d panel
    refine ⟨showsPanel_toggle hpanel panel, holdsSearch_toggle hsearch panel,
      happs.congr (by rw [desktopStep, hsame]), ?_⟩
    obtain ⟨h1, h2, h3, h4⟩ := hicons
    rw [← hplaces] at h1 h2 h3 h4
    exact ⟨h1, h2, h3, h4⟩
  | key ascii =>
    obtain ⟨buffer, len, heq⟩ : ∃ buffer len, desktopHandleStartMenuInput d ascii =
        { d with startMenuSearch := buffer, startMenuSearchLen := len } := by
      unfold desktopHandleStartMenuInput
      split_ifs <;> exact ⟨_, _, rfl⟩
    have htyped : HoldsSearch (desktopHandleStartMenuInput d ascii)
        (if s.panel = some .startMenu then typeSearch s.typed ascii else s.typed) := by
      have hshown := hpanel.startMenu
      split
      · next hopen =>
        rw [hopen] at hshown
        exact holdsSearch_key hsearch hshown ascii
      · next hclosed =>
        rw [beq_eq_false_iff_ne.mpr hclosed] at hshown
        unfold desktopHandleStartMenuInput
        rw [if_pos hshown]
        exact hsearch
    rw [heq] at htyped
    rw [desktopStep, heq]
    exact ⟨⟨hpanel.1, hpanel.2, hpanel.3, hpanel.4⟩, htyped, happs.congr rfl,
      ⟨hicons.1, hicons.2, hicons.3, hicons.4⟩⟩
  | iconClick x y double =>
    have hclicked := holdsIcons_click hicons x y double
    obtain ⟨icons, apps, heq, hnames⟩ : ∃ icons apps, (desktopHandleIconClick d x y double).1 =
        { d with icons := icons, apps := apps } ∧
          apps.map (fun app => app.name) = d.apps.map fun app => app.name := by
      unfold desktopHandleIconClick
      split
      · exact ⟨_, _, rfl, rfl⟩
      · dsimp only
        split
        · exact ⟨_, _, rfl, rfl⟩
        · exact ⟨_, _, rfl, launch_names _ _⟩
    rw [heq] at hclicked
    rw [desktopStep, heq]
    exact ⟨⟨hpanel.1, hpanel.2, hpanel.3, hpanel.4⟩, hsearch.congr rfl rfl, happs.congr hnames,
      hclicked⟩

theorem session_run : ∀ {ops : List DesktopOp} {d : Desktop} {s : DesktopSession},
    ShowsSession d s → ShowsSession (ops.foldl desktopStep d) (ops.foldl DesktopSession.step s) := by
  intro ops
  induction ops with
  | nil => intro d s h; exact h
  | cons op ops ih => intro d s h; exact ih (session_step h op)

/-! ## What is drawn -/

/-- **The start menu shows the applications whose names begin with the search.** -/
theorem desktopDrawStartMenu_eq (h : ShowsSession d s) :
    desktopDrawStartMenu d = if s.panel = some .startMenu then s.menu else [] := by
  have hshown := h.panel.startMenu
  unfold desktopDrawStartMenu
  by_cases hopen : s.panel = some .startMenu
  · rw [hopen] at hshown
    rw [if_neg (by simp [hshown]), if_pos hopen]
    have hgrid := drawAppGrid_eq d d.apps 0
    have hfound : (d.apps.filter fun app => d.startMenuSearchLen = 0 ∨ searchMatches d app) =
        d.apps.filter fun app => s.typed.map lowerChar <+: (cString app.name).map lowerChar := by
      refine List.filter_congr fun app happ => decide_eq_decide.mpr ?_
      rw [← searchMatches_iff h.search (h.apps.buffers app happ)]
      refine or_iff_right_of_imp fun hzero => ?_
      unfold searchMatches
      rw [hzero]
      rfl
    unfold DesktopSession.menu
    rw [← h.apps.texts, List.filter_map, List.mapIdx_eq_zipIdx_map, List.zipIdx_map, List.map_map]
    rw [hfound] at hgrid
    exact hgrid
  · rw [beq_eq_false_iff_ne.mpr hopen] at hshown
    rw [if_pos hshown, if_neg hopen]

/-- A filter that goes by the position. -/
theorem filter_eq_drop_take {α : Type} {l : List α} {p : α → Bool} {a n : Nat}
    (h : ∀ k (hk : k < l.length), p l[k] = decide (a ≤ k ∧ k < a + n)) :
    l.filter p = (l.drop a).take n := by
  have hbefore : (l.take a).filter p = [] := by
    rw [List.filter_eq_nil_iff]
    intro x hx
    obtain ⟨k, hk, rfl⟩ := List.mem_take_iff_getElem.mp hx
    rw [h k (by omega), decide_eq_true_iff]
    omega
  have hinside : ((l.drop a).take n).filter p = (l.drop a).take n := by
    rw [List.filter_eq_self]
    intro x hx
    obtain ⟨k, hk, rfl⟩ := List.mem_take_iff_getElem.mp hx
    rw [List.length_drop] at hk
    rw [List.getElem_drop, h (a + k) (by omega), decide_eq_true_iff]
    omega
  have hbehind : ((l.drop a).drop n).filter p = [] := by
    rw [List.filter_eq_nil_iff]
    intro x hx
    obtain ⟨k, hk, rfl⟩ := List.getElem_of_mem hx
    rw [List.length_drop, List.length_drop] at hk
    rw [List.getElem_drop, List.getElem_drop, h (a + (n + k)) (by omega), decide_eq_true_iff]
    omega
  have hsplit : l.take a ++ ((l.drop a).take n ++ (l.drop a).drop n) = l := by
    rw [List.take_append_drop, List.take_append_drop]
  calc l.filter p = (l.take a ++ ((l.drop a).take n ++ (l.drop a).drop n)).filter p := by
        rw [hsplit]
    _ = (l.drop a).take n := by
        rw [List.filter_append, List.filter_append, hbefore, hinside, hbehind, List.nil_append,
          List.append_nil]

/-- Some pixel of the square is on the screen. -/
def MenuIcon.onScreen (icon : MenuIcon) : Bool :=
  -48 < icon.x ∧ icon.x < 320 ∧ -48 < icon.y ∧ icon.y < 200

/-- **The first eight are above the screen**, and those from the twentieth on below it. -/
theorem menu_onScreen (s : DesktopSession) :
    s.menu.filter MenuIcon.onScreen = (s.menu.drop 8).take 12 := by
  refine filter_eq_drop_take fun k hk => ?_
  unfold DesktopSession.menu at hk ⊢
  rw [List.getElem_mapIdx]
  unfold MenuIcon.onScreen
  refine decide_eq_decide.mpr ?_
  dsimp only
  omega

/-- The panels that are open. -/
def Desktop.panels (d : Desktop) : List Panel :=
  [(d.showStartMenu, Panel.startMenu), (d.showNetworkFlyout, .network),
    (d.showVolumeFlyout, .volume), (d.showBatteryFlyout, .battery)].filterMap
      fun p => if p.1 then some p.2 else none

theorem ShowsPanel.panels {panel : Option Panel} (h : ShowsPanel d panel) :
    d.panels = panel.toList := by
  unfold Desktop.panels
  rw [h.startMenu, h.network, h.volume, h.battery]
  rcases panel with _ | panel
  · rfl
  · cases panel <;> rfl

/--
**After any calls, one panel is open at most, and the start menu shows the applications that have been
found**, in rows of four in the order in which they were added.

Of these only the ninth to the twentieth are on the screen. The icon that is selected is the one that was
clicked last.
-/
theorem desktop_session (ops : List DesktopOp) :
    let d := ops.foldl desktopStep Desktop.zero
    let s := ops.foldl DesktopSession.step DesktopSession.zero
    d.panels = s.panel.toList ∧
      desktopDrawStartMenu d = (if s.panel = some .startMenu then s.menu else []) ∧
        (desktopDrawStartMenu d).filter MenuIcon.onScreen =
            ((desktopDrawStartMenu d).drop 8).take 12 ∧
          d.icons.map (fun icon => icon.selected) =
            (List.range d.icons.length).map fun i => s.selected == some i := by
  intro d s
  have h : ShowsSession d s := session_run showsSession_zero
  have hmenu := desktopDrawStartMenu_eq h
  refine ⟨h.panel.panels, hmenu, ?_, h.icons.marks⟩
  rw [hmenu]
  split
  · exact menu_onScreen s
  · rfl

end MayaOs.Gui
