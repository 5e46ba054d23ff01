import MayaOs.Lib.Layers
import MayaOs.Properties.ScreenRegions

/-!
# Pictures on the screen

Each function that draws puts a picture over what is on the screen.

* `drawRect_draws`, `fillRect_draws`, `blit_draws`, `clear_draws` — the pictures, for rectangles
  that lie anywhere
* `drawText_eq` — a text has no pixels
-/

namespace MayaOs.Gui

open MayaOs.Lib

/-! ## Pictures on the screen -/

/-- A picture by its positions on the screen. -/
abbrev Picture := Int × Int → Option UInt32

/-- The screen shows the picture, over what was there before. -/
structure Draws (g g' : Graphics) (picture : Picture) : Prop where
  ready : Ready g'
  shows : Overlays (fun (g : Graphics) (p : Int × Int) => g.pixel p.1 p.2) (fun p => Visible p.1 p.2)
    g g' picture

theorem Draws.trans {g g' g'' : Graphics} {picture picture' : Picture} (h : Draws g g' picture)
    (h' : Draws g' g'' picture') : Draws g g'' (atop picture' picture) :=
  ⟨h'.ready, h.shows.trans h'.shows⟩

theorem Draws.congr {g g' : Graphics} {picture picture' : Picture} (h : Draws g g' picture)
    (heq : ∀ p, picture' p = picture p) : Draws g g' picture' :=
  ⟨h.ready, h.shows.congr fun p _ => heq p⟩

instance (x y width height X Y : Int) : Decidable (InRect x y width height X Y) :=
  inferInstanceAs (Decidable (_ ∧ _))

/-- An area with a value at each position. -/
def areaPicture (area : Int → Int → Prop) [∀ X Y, Decidable (area X Y)]
    (value : Int → Int → UInt32) : Picture :=
  fun p => if area p.1 p.2 then some (value p.1 p.2) else none

theorem Painted.draws {g g' : Graphics} {area : Int → Int → Prop} [∀ X Y, Decidable (area X Y)]
    {value : Int → Int → UInt32} (h : Painted g g' area value) (hready : Ready g') :
    Draws g g' (areaPicture area value) := by
  refine ⟨hready, fun p hp => ?_⟩
  unfold areaPicture
  by_cases hin : area p.1 p.2
  · rw [if_pos hin]
    exact h.inside p.1 p.2 hp hin
  · rw [if_neg hin]
    exact h.outside p.1 p.2 hp hin

/-- Two areas of one color. -/
theorem atop_areaPicture {area area' : Int → Int → Prop} [∀ X Y, Decidable (area X Y)]
    [∀ X Y, Decidable (area' X Y)] (value : Int → Int → UInt32) :
    atop (areaPicture area value) (areaPicture area' value) =
      areaPicture (fun X Y => area X Y ∨ area' X Y) value := by
  funext p
  unfold atop areaPicture
  by_cases harea : area p.1 p.2
  · rw [if_pos harea, if_pos (Or.inl harea)]
    rfl
  · by_cases harea' : area' p.1 p.2
    · rw [if_neg harea, if_pos harea', if_pos (Or.inr harea')]
      rfl
    · rw [if_neg harea, if_neg harea', if_neg (not_or.mpr ⟨harea, harea'⟩)]
      rfl

theorem areaPicture_congr {area area' : Int → Int → Prop} [∀ X Y, Decidable (area X Y)]
    [∀ X Y, Decidable (area' X Y)] {value : Int → Int → UInt32}
    (h : ∀ X Y, area X Y ↔ area' X Y) (p : Int × Int) :
    areaPicture area value p = areaPicture area' value p :=
  if_congr (h p.1 p.2) rfl rfl

variable {g : Graphics}

/-! ## graphics_draw_rect -/

theorem intRange_cons {a b : Int} (h : a < b) : intRange a b = a :: intRange (a + 1) b := by
  unfold intRange
  obtain ⟨n, hn⟩ : ∃ n : Nat, (b - a).toNat = n + 1 := ⟨(b - a).toNat - 1, by omega⟩
  have hrest : (b - (a + 1)).toNat = n := by omega
  rw [hn, hrest, List.range_succ_eq_map, List.map_cons, List.map_map]
  congr 1
  · simp
  · refine List.map_congr_left fun k _ => ?_
    simp only [Function.comp, Nat.succ_eq_add_one, Nat.cast_add, Nat.cast_one]
    omega

theorem intRange_self (a : Int) : intRange a a = [] := by
  unfold intRange
  rw [Int.sub_self]
  rfl

/-- **A line to the right**, the loop from `n` pixels before its end. -/
theorem lineLoop_right {dx sy x2 y err : Int} (hdx : 0 < dx ∧ dx < 2 ^ 30)
    (herr : 0 ≤ err ∧ err < 2 ^ 30) (hx2 : x2 < 2 ^ 30) :
    ∀ (n fuel : Nat) (x : Int), -2 ^ 30 < x → x + n = x2 → n < fuel →
      lineLoop dx 0 1 sy x2 y fuel ⟨x, y, err⟩ = some ((intRange x (x2 + 1)).map fun X => (X, y)) := by
  intro n
  induction n with
  | zero =>
    intro fuel x _ hx hfuel
    obtain ⟨fuel, rfl⟩ : ∃ f, fuel = f + 1 := ⟨fuel - 1, by omega⟩
    obtain rfl : x = x2 := by omega
    rw [lineLoop, if_pos ⟨rfl, rfl⟩, intRange_cons (by omega), intRange_self]
    rfl
  | succ n ih =>
    intro fuel x hlow hx hfuel
    obtain ⟨fuel, rfl⟩ : ∃ f, fuel = f + 1 := ⟨fuel - 1, by omega⟩
    have hstep : lineStep dx 0 1 sy ⟨x, y, err⟩ = ⟨x + 1, y, err⟩ := by
      have hfirst : int32 (-dx) < err := by
        rw [int32_eq_self (by omega) (by omega)]
        omega
      have hsecond : ¬ err < 0 := by omega
      have hnext : int32 (x + 1) = x + 1 := int32_eq_self (by omega) (by omega)
      have hsame : int32 (err - 0) = err := by
        rw [Int.sub_zero, int32_eq_self (by omega) (by omega)]
      unfold lineStep
      simp only [if_pos hfirst, if_neg hsecond, hnext, hsame]
    have hbefore : ¬ (x = x2 ∧ y = y) := by omega
    rw [lineLoop, if_neg hbefore, hstep, ih fuel (x + 1) (by omega) (by omega) (by omega),
      intRange_cons (a := x) (by omega)]
    rfl

/-- **A line downwards.** -/
theorem lineLoop_down {dy sx x y2 err : Int} (hdy : 0 < dy ∧ dy < 2 ^ 30)
    (herr : -2 ^ 30 < err ∧ err ≤ 0) (hy2 : y2 < 2 ^ 30) :
    ∀ (n fuel : Nat) (y : Int), -2 ^ 30 < y → y + n = y2 → n < fuel →
      lineLoop 0 dy sx 1 x y2 fuel ⟨x, y, err⟩ = some ((intRange y (y2 + 1)).map fun Y => (x, Y)) := by
  intro n
  induction n with
  | zero =>
    intro fuel y _ hy hfuel
    obtain ⟨fuel, rfl⟩ : ∃ f, fuel = f + 1 := ⟨fuel - 1, by omega⟩
    obtain rfl : y = y2 := by omega
    rw [lineLoop, if_pos ⟨rfl, rfl⟩, intRange_cons (by omega), intRange_self]
    rfl
  | succ n ih =>
    intro fuel y hlow hy hfuel
    obtain ⟨fuel, rfl⟩ : ∃ f, fuel = f + 1 := ⟨fuel - 1, by omega⟩
    have hstep : lineStep 0 dy sx 1 ⟨x, y, err⟩ = ⟨x, y + 1, err⟩ := by
      have hfirst : ¬ int32 (-0) < err := by
        rw [int32_eq_self (by omega) (by omega)]
        omega
      have hsecond : err < dy := by omega
      have hnext : int32 (y + 1) = y + 1 := int32_eq_self (by omega) (by omega)
      have hsame : int32 (err + 0) = err := by
        rw [Int.add_zero, int32_eq_self (by omega) (by omega)]
      unfold lineStep
      simp only [if_neg hfirst, if_pos hsecond, hnext, hsame]
    have hbefore : ¬ (x = x ∧ y = y2) := by omega
    rw [lineLoop, if_neg hbefore, hstep, ih fuel (y + 1) (by omega) (by omega) (by omega),
      intRange_cons (a := y) (by omega)]
    rfl

/-- The pixels that the loop comes to, as a picture. -/
theorem drawLine_draws (h : Ready g) {fuel : Nat} {x1 y1 x2 y2 : Int} {pixels : List (Int × Int)}
    (hloop : linePixels fuel x1 y1 x2 y2 = some pixels) (color : UInt32)
    {area : Int → Int → Prop} [∀ X Y, Decidable (area X Y)]
    (harea : ∀ X Y, (X, Y) ∈ pixels ↔ area X Y) :
    ∃ g', graphicsDrawLine fuel g x1 y1 x2 y2 color = some g' ∧
      Draws g g' (areaPicture area fun _ _ => color) := by
  refine ⟨paint (fun _ _ => color) g pixels, ?_, ?_⟩
  · unfold graphicsDrawLine
    rw [if_neg (by simp [h.on]), hloop]
    rfl
  · exact ((paint_painted _ h).congr harea).draws (h.paint _)

section Lines

variable (h : Ready g) {fuel : Nat} (hfuel : 2 ^ 15 ≤ fuel) (color : UInt32)
include h hfuel

theorem drawLine_right {x1 x2 y : Int} (hx1 : SmallArg x1) (hx2 : SmallArg x2) (hlt : x1 < x2) :
    ∃ g', graphicsDrawLine fuel g x1 y x2 y color = some g' ∧
      Draws g g' (areaPicture (fun X Y => Y = y ∧ x1 ≤ X ∧ X ≤ x2) fun _ _ => color) := by
  obtain ⟨hlow1, hhigh1⟩ := hx1
  obtain ⟨hlow2, hhigh2⟩ := hx2
  have hdx : intAbs (int32 (x2 - x1)) = x2 - x1 := by
    rw [int32_eq_self (by omega) (by omega)]
    exact if_neg (by omega)
  have hdy : intAbs (int32 (y - y)) = 0 := by
    rw [Int.sub_self]
    rfl
  have hloop : linePixels fuel x1 y x2 y = some ((intRange x1 (x2 + 1)).map fun X => (X, y)) := by
    unfold linePixels
    simp only [hdx, hdy, if_pos hlt, if_pos (show (0 : Int) < x2 - x1 by omega)]
    rw [Int.tdiv_eq_ediv_of_nonneg (by omega)]
    exact lineLoop_right (by omega) (by omega) (by omega) (x2 - x1).toNat fuel x1 (by omega)
      (by omega) (by omega)
  refine drawLine_draws h hloop color fun X Y => ?_
  simp only [List.mem_map, mem_intRange, Prod.mk.injEq]
  constructor
  · rintro ⟨_, hin, rfl, rfl⟩
    exact ⟨rfl, by omega⟩
  · rintro ⟨rfl, hin⟩
    exact ⟨X, by omega, rfl, rfl⟩

theorem drawLine_down {x y1 y2 : Int} (hy1 : SmallArg y1) (hy2 : SmallArg y2) (hlt : y1 < y2) :
    ∃ g', graphicsDrawLine fuel g x y1 x y2 color = some g' ∧
      Draws g g' (areaPicture (fun X Y => X = x ∧ y1 ≤ Y ∧ Y ≤ y2) fun _ _ => color) := by
  obtain ⟨hlow1, hhigh1⟩ := hy1
  obtain ⟨hlow2, hhigh2⟩ := hy2
  have hdx : intAbs (int32 (x - x)) = 0 := by
    rw [Int.sub_self]
    rfl
  have hdy : intAbs (int32 (y2 - y1)) = y2 - y1 := by
    rw [int32_eq_self (by omega) (by omega)]
    exact if_neg (by omega)
  have hhalf : (int32 (-(y2 - y1))).tdiv 2 = -((y2 - y1) / 2) := by
    rw [int32_eq_self (by omega) (by omega), Int.neg_tdiv, Int.tdiv_eq_ediv_of_nonneg (by omega)]
  have hloop : linePixels fuel x y1 x y2 = some ((intRange y1 (y2 + 1)).map fun Y => (x, Y)) := by
    unfold linePixels
    simp only [hdx, hdy, if_pos hlt, if_neg (show ¬ y2 - y1 < (0 : Int) by omega)]
    rw [hhalf]
    exact lineLoop_down (by omega) (by omega) (by omega) (y2 - y1).toNat fuel y1 (by omega)
      (by omega) (by omega)
  refine drawLine_draws h hloop color fun X Y => ?_
  simp only [List.mem_map, mem_intRange, Prod.mk.injEq]
  constructor
  · rintro ⟨_, hin, rfl, rfl⟩
    exact ⟨rfl, by omega⟩
  · rintro ⟨rfl, hin⟩
    exact ⟨Y, by omega, rfl, rfl⟩

/-- The outermost pixels of a rectangle. -/
def OnFrame (x y width height X Y : Int) : Prop :=
  InRect x y width height X Y ∧ (X = x ∨ X = x + width - 1 ∨ Y = y ∨ Y = y + height - 1)

instance (x y width height X Y : Int) : Decidable (OnFrame x y width height X Y) :=
  inferInstanceAs (Decidable (_ ∧ _))

/-- **`graphics_draw_rect`** -/
theorem drawRect_draws {x y width height : Int} (hx : -2 ^ 13 < x ∧ x < 2 ^ 13)
    (hy : -2 ^ 13 < y ∧ y < 2 ^ 13) (hwidth : 2 ≤ width ∧ width < 2 ^ 13)
    (hheight : 2 ≤ height ∧ height < 2 ^ 13) :
    ∃ g', graphicsDrawRect fuel g x y width height color = some g' ∧
      Draws g g' (areaPicture (OnFrame x y width height) fun _ _ => color) := by
  have hright : int32 (int32 (x + width) - 1) = x + width - 1 := by
    rw [int32_eq_self (x := x + width) (by omega) (by omega), int32_eq_self (by omega) (by omega)]
  have hbottom : int32 (int32 (y + height) - 1) = y + height - 1 := by
    rw [int32_eq_self (x := y + height) (by omega) (by omega), int32_eq_self (by omega) (by omega)]
  have hsmall : SmallArg x ∧ SmallArg y ∧ SmallArg (x + width - 1) ∧ SmallArg (y + height - 1) := by
    unfold SmallArg
    omega
  obtain ⟨hx', hy', hr', hb'⟩ := hsmall
  obtain ⟨g₁, htop, hd₁⟩ := drawLine_right h hfuel color (y := y) hx' hr' (by omega)
  obtain ⟨g₂, hlow, hd₂⟩ :=
    drawLine_right hd₁.ready hfuel color (y := y + height - 1) hx' hr' (by omega)
  obtain ⟨g₃, hleft, hd₃⟩ := drawLine_down hd₂.ready hfuel color (x := x) hy' hb' (by omega)
  obtain ⟨g₄, hend, hd₄⟩ :=
    drawLine_down hd₃.ready hfuel color (x := x + width - 1) hy' hb' (by omega)
  refine ⟨g₄, ?_, (((hd₁.trans hd₂).trans hd₃).trans hd₄).congr fun p => ?_⟩
  · unfold graphicsDrawRect
    rw [if_neg (by simp [h.on])]
    simp only [hright, hbottom, htop, hlow, hleft, Option.bind_eq_bind, Option.bind_some]
    exact hend
  · rw [atop_areaPicture, atop_areaPicture, atop_areaPicture]
    refine areaPicture_congr (fun X Y => ?_) p
    unfold OnFrame InRect
    omega

end Lines

/-! ## graphics_fill_rect -/

/-- **`graphics_fill_rect`** -/
theorem fillRect_draws (h : Ready g) {x y width height : Int} (hx : SmallArg x) (hy : SmallArg y)
    (hwidth : SmallArg width) (hheight : SmallArg height) (color : UInt32) :
    Draws g (graphicsFillRect g x y width height color)
      (areaPicture (InRect x y width height) fun _ _ => color) := by
  rw [fillRect_eq h hx hy hwidth hheight]
  exact ((paint_painted _ h).congr fun X Y => mem_rectCells).draws (h.paint _)

/-! ## graphics_draw_text -/

/-- No character has a pixel. -/
theorem drawChar_eq (g : Graphics) (c : UInt8) (x y : Int) (color : UInt32) :
    graphicsDrawChar g c x y color = g := by
  have hbit : ∀ i j, (defaultFont c i).toNat.testBit (7 - j) = false := fun _ _ =>
    Nat.zero_testBit _
  unfold graphicsDrawChar
  simp only [hbit, Bool.false_eq_true, if_false, List.foldl_fixed, ite_self]

theorem drawTextLoop_eq (x : Int) (color : UInt32) : ∀ (text : List UInt8) (g : Graphics)
    (cursorX cursorY : Int), drawTextLoop x color text g cursorX cursorY = g := by
  intro text
  induction text with
  | nil => intro _ _ _; rfl
  | cons c text ih =>
    intro g cursorX cursorY
    rw [drawTextLoop, ih, ih, ih, drawChar_eq]
    simp only [ite_self]

/-- **`graphics_draw_text`** leaves the screen as it is. -/
theorem drawText_eq (g : Graphics) (text : List UInt8) (x y : Int) (color : UInt32) :
    graphicsDrawText g text x y color = g := by
  unfold graphicsDrawText
  rw [drawTextLoop_eq]
  exact ite_self _

/-! ## graphics_clear -/

/-- The positions of a row of the screen. -/
def screenRow (i : Nat) : List (Int × Int) :=
  (List.range 320).map fun j : Nat => ((j : Int), (i : Int))

theorem clearRow_eq {color : UInt32} {i : Nat} (hi : i < 200) :
    ∀ {js : List Nat} {g : Graphics}, Ready g → (∀ j ∈ js, j < 320) →
      js.foldl (fun g j => g.store (wrap32 (i * g.width + j)) color) g =
        paint (fun _ _ => color) g (js.map fun j : Nat => ((j : Int), (i : Int))) := by
  intro js
  induction js with
  | nil => intro g _ _; rfl
  | cons j js ih =>
    intro g h hjs
    obtain ⟨hj, hrest⟩ := List.forall_mem_cons.mp hjs
    have hv : Visible (j : Int) (i : Int) := by
      unfold Visible
      omega
    have hput : graphicsPutPixel g j i color = g.store (wrap32 (i * g.width + j)) color := by
      rw [putPixel_visible h hv, h.width, wrap32_eq_self (by omega)]
      rfl
    rw [List.foldl_cons, ← hput, ih (h.putPixel _ _ _) hrest]
    rfl

theorem clearRows_eq {color : UInt32} :
    ∀ {is : List Nat} {g : Graphics}, Ready g → (∀ i ∈ is, i < 200) →
      is.foldl (fun g i =>
          (List.range g.width).foldl (fun g j => g.store (wrap32 (i * g.width + j)) color) g) g =
        paint (fun _ _ => color) g (is.flatMap screenRow) := by
  intro is
  induction is with
  | nil => intro g _ _; rfl
  | cons i is ih =>
    intro g h his
    obtain ⟨hi, hrest⟩ := List.forall_mem_cons.mp his
    have hone : (List.range g.width).foldl
        (fun g j => g.store (wrap32 (i * g.width + j)) color) g =
          paint (fun _ _ => color) g (screenRow i) := by
      rw [h.width]
      exact clearRow_eq hi h fun j hj => List.mem_range.mp hj
    rw [List.foldl_cons, hone, ih (h.paint _) hrest, List.flatMap_cons, paint_append]

/-- **`graphics_clear`** -/
theorem clear_draws (h : Ready g) (color : UInt32) :
    Draws g (graphicsClear g color) fun _ => some color := by
  have hcells : graphicsClear g color =
      paint (fun _ _ => color) g ((List.range 200).flatMap screenRow) := by
    unfold graphicsClear
    rw [if_neg (by simp [h.on]), h.height]
    exact clearRows_eq h fun i hi => List.mem_range.mp hi
  rw [hcells]
  refine ⟨h.paint _, fun p hp => (paint_painted _ h).inside p.1 p.2 hp ?_⟩
  obtain ⟨⟨hx, hx'⟩, hy, hy'⟩ := hp
  refine List.mem_flatMap.mpr ⟨p.2.toNat, List.mem_range.mpr (by omega), List.mem_map.mpr
    ⟨p.1.toNat, List.mem_range.mpr (by omega), ?_⟩⟩
  rw [Int.toNat_of_nonneg hx, Int.toNat_of_nonneg hy]

/-! ## graphics_blit -/

section Blit

variable {src : Int → UInt32} {x y : Int}

/-- The value that a position gets, for any length of the rows. -/
def blitValue (src : Int → UInt32) (x y srcWidth X Y : Int) : UInt32 :=
  src (int32 (int32 ((Y - y) * srcWidth) + (X - x)))

theorem blitValue_add (srcWidth i j : Int) : blitValue src x y srcWidth (x + j) (y + i) =
    src (int32 (int32 (i * srcWidth) + j)) := by
  unfold blitValue
  rw [show y + i - y = i by omega, show x + j - x = j by omega]

/-- A row that is on the screen. -/
theorem foldl_blitPixel (hx : SmallArg x) (srcWidth : Int) {i : Int}
    (hy : int32 (y + i) = y + i) (hrow : 0 ≤ y + i ∧ y + i < 200) :
    ∀ {js : List Int} {s : BlitState}, Ready s.graphics → (∀ j ∈ js, 0 ≤ j ∧ j < 2 ^ 14) →
      (js.foldl (blitPixel src x y srcWidth i) s).graphics =
        paint (blitValue src x y srcWidth) s.graphics (js.map fun j => (x + j, y + i)) := by
  intro js
  induction js with
  | nil => intro s _ _; rfl
  | cons j js ih =>
    intro s h hjs
    obtain ⟨hj, hrest⟩ := List.forall_mem_cons.mp hjs
    obtain ⟨hxlow, hxhigh⟩ := hx
    have hone : (blitPixel src x y srcWidth i s j).graphics = graphicsPutPixel s.graphics (x + j)
        (y + i) (blitValue src x y srcWidth (x + j) (y + i)) := by
      unfold blitPixel
      dsimp only
      rw [hy, int32_eq_self (x := x + j) (by omega) (by omega), h.int_width, blitValue_add]
      by_cases hv : Visible (x + j) (y + i)
      · have hcol := hv.1
        rw [if_neg (by omega), putPixel_visible h hv, h.index_eq hv]
      · have hcol : x + j < 0 ∨ 320 ≤ x + j := by
          by_contra hcol
          exact hv ⟨by omega, hrow⟩
        rw [if_pos hcol, putPixel_hidden h hv]
    rw [List.foldl_cons, ih (by rw [hone]; exact h.putPixel _ _ _) hrest, hone]
    rfl

theorem foldl_blitRow (hx : SmallArg x) (hy : SmallArg y) {width : Int} (hwidth : SmallArg width)
    (srcWidth : Int) :
    ∀ {is : List Int} {s : BlitState}, Ready s.graphics → (∀ i ∈ is, 0 ≤ i ∧ i < 2 ^ 14) →
      (is.foldl (blitRow src x y width srcWidth) s).graphics =
        paint (blitValue src x y srcWidth) s.graphics (is.flatMap (rowCells x y width)) := by
  intro is
  induction is with
  | nil => intro s _ _; rfl
  | cons i is ih =>
    intro s h his
    obtain ⟨hi, hrest⟩ := List.forall_mem_cons.mp his
    obtain ⟨hylow, hyhigh⟩ := hy
    have hwrap : int32 (y + i) = y + i := int32_eq_self (by omega) (by omega)
    have hone : (blitRow src x y width srcWidth s i).graphics =
        paint (blitValue src x y srcWidth) s.graphics (rowCells x y width i) := by
      unfold blitRow
      dsimp only
      rw [hwrap, h.int_height]
      by_cases hrow : y + i < 0 ∨ 200 ≤ y + i
      · rw [if_pos hrow, paint_hidden _ h fun p hp => ?_]
        obtain ⟨j, -, rfl⟩ := List.mem_map.mp hp
        exact fun hv => by
          have := hv.2
          omega
      · rw [if_neg hrow]
        refine foldl_blitPixel hx srcWidth hwrap (by omega) h fun j hj => ?_
        have := mem_intRange.mp hj
        have := hwidth.2
        omega
    rw [List.foldl_cons, ih (by rw [hone]; exact h.paint _) hrest, hone, List.flatMap_cons,
      paint_append]

/-- **`graphics_blit`** -/
theorem blit_draws (src : Int → UInt32) (h : Ready g) (hx : SmallArg x) (hy : SmallArg y) {width height : Int}
    (hwidth : SmallArg width) (hheight : SmallArg height) (srcWidth : Int) :
    Draws g (graphicsBlit g (some src) x y width height srcWidth).graphics
      (areaPicture (InRect x y width height) (blitValue src x y srcWidth)) := by
  have hbelow : ∀ i ∈ intRange 0 height, 0 ≤ i ∧ i < 2 ^ 14 := fun i hi => by
    have := mem_intRange.mp hi
    have := hheight.2
    omega
  have hcells : (graphicsBlit g (some src) x y width height srcWidth).graphics =
      paint (blitValue src x y srcWidth) g ((intRange 0 height).flatMap (rowCells x y width)) := by
    unfold graphicsBlit
    dsimp only
    rw [if_neg (by simp [h.on])]
    exact foldl_blitRow (s := ⟨g, []⟩) hx hy hwidth srcWidth h hbelow
  rw [hcells]
  exact ((paint_painted _ h).congr fun X Y => mem_blitCells).draws (h.paint _)

end Blit

end MayaOs.Gui
