import MayaOs.Gui.Graphics

/-!
# Filling and copying rectangles

Both functions put pixels at the positions of a rectangle, and what is not on the screen is left
out pixel by pixel.

* `paint_painted` — pixels put one after the other
* `drawLine_painted` — the pixels of a line
* `fillRect_eq`, `blit_eq` — the loops put the pixels of their rectangles
* `regions_painted` — what is on the screen afterwards, and what was read
-/

namespace MayaOs.Gui

open MayaOs.Lib

/-! ## The screen -/

/-- `graphics_state` after `graphics_init`. -/
structure Ready (g : Graphics) : Prop where
  on : g.initialized = true
  width : g.width = 320
  height : g.height = 200

def Visible (X Y : Int) : Prop := (0 ≤ X ∧ X < 320) ∧ 0 ≤ Y ∧ Y < 200

instance (X Y : Int) : Decidable (Visible X Y) := inferInstanceAs (Decidable (_ ∧ _))

def pixelIndex (X Y : Int) : Nat := Y.toNat * 320 + X.toNat

def Graphics.pixel (g : Graphics) (X Y : Int) : UInt32 := g.framebuffer (pixelIndex X Y)

def InRect (x y width height X Y : Int) : Prop :=
  (x ≤ X ∧ X < x + width) ∧ y ≤ Y ∧ Y < y + height

/-- The pixels of the area on the screen have the values, and nothing else has changed. -/
structure Painted (g g' : Graphics) (area : Int → Int → Prop) (value : Int → Int → UInt32) :
    Prop where
  inside : ∀ X Y, Visible X Y → area X Y → g'.pixel X Y = value X Y
  outside : ∀ X Y, Visible X Y → ¬ area X Y → g'.pixel X Y = g.pixel X Y
  beyond : ∀ k, 320 * 200 ≤ k → g'.framebuffer k = g.framebuffer k

theorem ready_init (framebuffer : Nat → UInt32) :
    Ready (graphicsInit (Graphics.boot framebuffer)) := ⟨rfl, rfl, rfl⟩

variable {g : Graphics} {X Y : Int}

theorem Ready.int_width (h : Ready g) : int32 g.width = 320 := by
  rw [h.width]
  rfl

theorem Ready.int_height (h : Ready g) : int32 g.height = 200 := by
  rw [h.height]
  rfl

theorem Ready.onScreen_iff (h : Ready g) : g.onScreen X Y = true ↔ Visible X Y := by
  unfold Graphics.onScreen Visible
  rw [h.int_width, h.int_height, decide_eq_true_iff, and_assoc]

theorem Ready.index_eq (h : Ready g) (hv : Visible X Y) : g.index X Y = pixelIndex X Y := by
  obtain ⟨⟨hx, hx'⟩, hy, hy'⟩ := hv
  unfold Graphics.index pixelIndex
  rw [h.width, wrap32_eq_self (by omega)]

/-- Each position on the screen has a cell of its own. -/
theorem pixelIndex_inj {X' Y' : Int} (h : Visible X Y) (h' : Visible X' Y')
    (heq : pixelIndex X Y = pixelIndex X' Y') : X = X' ∧ Y = Y' := by
  obtain ⟨⟨hx, hx'⟩, hy, hy'⟩ := h
  obtain ⟨⟨hx2, hx2'⟩, hy2, hy2'⟩ := h'
  unfold pixelIndex at heq
  omega

theorem pixelIndex_lt (h : Visible X Y) : pixelIndex X Y < 320 * 200 := by
  obtain ⟨⟨hx, hx'⟩, hy, hy'⟩ := h
  unfold pixelIndex
  omega

theorem Ready.store (h : Ready g) (i : Nat) (color : UInt32) : Ready (g.store i color) :=
  ⟨h.on, h.width, h.height⟩

/-! ## Putting pixels -/

theorem putPixel_hidden (h : Ready g) (hv : ¬ Visible X Y) (color : UInt32) :
    graphicsPutPixel g X Y color = g := by
  unfold graphicsPutPixel
  rw [if_pos (Or.inr (Bool.eq_false_iff.mpr fun hon => hv (h.onScreen_iff.mp hon)))]

theorem putPixel_visible (h : Ready g) (hv : Visible X Y) (color : UInt32) :
    graphicsPutPixel g X Y color = g.store (pixelIndex X Y) color := by
  have hon := h.onScreen_iff.mpr hv
  unfold graphicsPutPixel
  rw [if_neg (by simp [h.on, hon]), h.index_eq hv]

theorem Ready.putPixel (h : Ready g) (X Y : Int) (color : UInt32) :
    Ready (graphicsPutPixel g X Y color) := by
  by_cases hv : Visible X Y
  · rw [putPixel_visible h hv]
    exact h.store _ color
  · rw [putPixel_hidden h hv]
    exact h

/-- **One pixel.** -/
theorem putPixel_painted (h : Ready g) (x y : Int) (color : UInt32) :
    Painted g (graphicsPutPixel g x y color) (fun X Y => X = x ∧ Y = y) fun _ _ => color := by
  by_cases hv : Visible x y
  · rw [putPixel_visible h hv]
    refine ⟨?_, fun X Y hXY hne => ?_, fun k hk => ?_⟩
    · rintro X Y - ⟨rfl, rfl⟩
      simp [Graphics.pixel, Graphics.store]
    · have hindex : pixelIndex X Y ≠ pixelIndex x y := fun he => hne (pixelIndex_inj hXY hv he)
      simp [Graphics.pixel, Graphics.store, hindex]
    · have hlt := pixelIndex_lt hv
      have hindex : k ≠ pixelIndex x y := by omega
      simp [Graphics.store, hindex]
  · rw [putPixel_hidden h hv]
    refine ⟨?_, fun _ _ _ _ => rfl, fun _ _ => rfl⟩
    rintro X Y hXY ⟨rfl, rfl⟩
    exact absurd hXY hv

/-- The pixels of a list of positions, each with the value of its position. -/
def paint (value : Int → Int → UInt32) (g : Graphics) (ps : List (Int × Int)) : Graphics :=
  ps.foldl (fun g p => graphicsPutPixel g p.1 p.2 (value p.1 p.2)) g

theorem Ready.paint (value : Int → Int → UInt32) :
    ∀ {ps : List (Int × Int)} {g : Graphics}, Ready g → Ready (paint value g ps) := by
  intro ps
  induction ps with
  | nil => intro g h; exact h
  | cons p ps ih => intro g h; exact ih (h.putPixel p.1 p.2 _)

/-- **Pixels put one after the other.** -/
theorem paint_painted (value : Int → Int → UInt32) :
    ∀ {ps : List (Int × Int)} {g : Graphics}, Ready g →
      Painted g (paint value g ps) (fun X Y => (X, Y) ∈ ps) value := by
  intro ps
  induction ps with
  | nil =>
    intro g _
    exact ⟨fun _ _ _ hin => absurd hin List.not_mem_nil, fun _ _ _ _ => rfl, fun _ _ => rfl⟩
  | cons p ps ih =>
    intro g h
    have hone := putPixel_painted h p.1 p.2 (value p.1 p.2)
    have hrest := ih (h.putPixel p.1 p.2 (value p.1 p.2))
    refine ⟨fun X Y hv hin => ?_, fun X Y hv hnot => ?_, fun k hk => ?_⟩
    · by_cases hlater : (X, Y) ∈ ps
      · exact hrest.inside X Y hv hlater
      · obtain rfl : (X, Y) = p := (List.mem_cons.mp hin).resolve_right hlater
        exact (hrest.outside X Y hv hlater).trans (hone.inside X Y hv ⟨rfl, rfl⟩)
    · rw [List.mem_cons, not_or] at hnot
      refine (hrest.outside X Y hv hnot.2).trans (hone.outside X Y hv ?_)
      rintro ⟨rfl, rfl⟩
      exact hnot.1 rfl
    · exact (hrest.beyond k hk).trans (hone.beyond k hk)

theorem paint_append (value : Int → Int → UInt32) (g : Graphics) (ps qs : List (Int × Int)) :
    paint value g (ps ++ qs) = paint value (paint value g ps) qs := List.foldl_append

theorem paint_flatMap (value : Int → Int → UInt32) {α : Type} (f : α → List (Int × Int)) :
    ∀ (l : List α) (g : Graphics),
      paint value g (l.flatMap f) = l.foldl (fun g a => paint value g (f a)) g := by
  intro l
  induction l with
  | nil => intro g; rfl
  | cons a l ih => intro g; rw [List.flatMap_cons, paint_append, ih, List.foldl_cons]

/-- Positions off the screen. -/
theorem paint_hidden (value : Int → Int → UInt32) :
    ∀ {ps : List (Int × Int)} {g : Graphics}, Ready g → (∀ p ∈ ps, ¬ Visible p.1 p.2) →
      paint value g ps = g := by
  intro ps
  induction ps with
  | nil => intro g _ _; rfl
  | cons p ps ih =>
    intro g h hps
    obtain ⟨hp, hrest⟩ := List.forall_mem_cons.mp hps
    rw [paint, List.foldl_cons, putPixel_hidden h hp]
    exact ih h hrest

/-! ## graphics_draw_line -/

/-- **`graphics_draw_line`** puts the pixels that its loop comes to. -/
theorem drawLine_painted (h : Ready g) {fuel : Nat} {x1 y1 x2 y2 : Int} {pixels : List (Int × Int)}
    (hloop : linePixels fuel x1 y1 x2 y2 = some pixels) (color : UInt32) :
    ∃ g', graphicsDrawLine fuel g x1 y1 x2 y2 color = some g' ∧
      Painted g g' (fun X Y => (X, Y) ∈ pixels) fun _ _ => color := by
  refine ⟨_, ?_, paint_painted (fun _ _ => color) h⟩
  unfold graphicsDrawLine
  rw [if_neg (by simp [h.on]), hloop]
  rfl

/-! ## graphics_fill_rect -/

/-- An argument of absolute value below 2^14. -/
def SmallArg (c : Int) : Prop := -2 ^ 14 < c ∧ c < 2 ^ 14

instance (c : Int) : Decidable (SmallArg c) := inferInstanceAs (Decidable (_ ∧ _))

/-- The positions of a rectangle, row by row. -/
def rectCells (x y width height : Int) : List (Int × Int) :=
  (intRange y (y + height)).flatMap fun i => (intRange x (x + width)).map fun j => (j, i)

theorem mem_rectCells {x y width height : Int} :
    (X, Y) ∈ rectCells x y width height ↔ InRect x y width height X Y := by
  unfold rectCells InRect
  rw [List.mem_flatMap]
  constructor
  · rintro ⟨i, hi, hmem⟩
    obtain ⟨j, hj, heq⟩ := List.mem_map.mp hmem
    obtain ⟨rfl, rfl⟩ := Prod.mk.inj heq
    exact ⟨mem_intRange.mp hj, mem_intRange.mp hi⟩
  · rintro ⟨hX, hY⟩
    exact ⟨Y, mem_intRange.mpr hY, List.mem_map.mpr ⟨X, mem_intRange.mpr hX, rfl⟩⟩

/-- **`graphics_fill_rect`** puts the pixels of its rectangle. -/
theorem fillRect_eq (h : Ready g) {x y width height : Int} (hx : SmallArg x) (hy : SmallArg y)
    (hwidth : SmallArg width) (hheight : SmallArg height) (color : UInt32) :
    graphicsFillRect g x y width height color =
      paint (fun _ _ => color) g (rectCells x y width height) := by
  obtain ⟨hx, hx'⟩ := hx
  obtain ⟨hy, hy'⟩ := hy
  obtain ⟨hw, hw'⟩ := hwidth
  obtain ⟨hh, hh'⟩ := hheight
  unfold graphicsFillRect rectCells
  rw [if_neg (by simp [h.on]), int32_eq_self (by omega) (by omega),
    int32_eq_self (by omega) (by omega), paint_flatMap]
  simp only [paint, List.foldl_map]

/-! ## graphics_blit -/

section Blit

variable {src : Int → UInt32} {x y width height srcWidth : Int}

/-- The pixel of the source for a position of the rectangle. -/
def sourceIndex (x y srcWidth X Y : Int) : Int := (Y - y) * srcWidth + (X - x)

theorem sourceIndex_add (i j : Int) : sourceIndex x y srcWidth (x + j) (y + i) = i * srcWidth + j := by
  unfold sourceIndex
  rw [show y + i - y = i by omega, show x + j - x = j by omega]

/-- The rows of the source are short enough for 32 bits. -/
theorem source_bounds {i j : Int} (hi : 0 ≤ i ∧ i < 2 ^ 14) (hj : 0 ≤ j ∧ j < 2 ^ 14)
    (hsrc : SmallArg srcWidth) : int32 (int32 (i * srcWidth) + j) = i * srcWidth + j := by
  obtain ⟨hs, hs'⟩ := hsrc
  have hhigh : i * srcWidth ≤ i * 2 ^ 14 := Int.mul_le_mul_of_nonneg_left (by omega) hi.1
  have hlow : i * -2 ^ 14 ≤ i * srcWidth := Int.mul_le_mul_of_nonneg_left (by omega) hi.1
  rw [int32_eq_self (x := i * srcWidth) (by omega) (by omega),
    int32_eq_self (by omega) (by omega)]

/-- One pixel of a row that is on the screen. -/
theorem blitPixel_eq {s : BlitState} (h : Ready s.graphics) (hx : SmallArg x)
    (hsrc : SmallArg srcWidth) {i j : Int} (hi : 0 ≤ i ∧ i < 2 ^ 14) (hj : 0 ≤ j ∧ j < 2 ^ 14)
    (hy : int32 (y + i) = y + i) (hrow : 0 ≤ y + i ∧ y + i < 200) :
    blitPixel src x y srcWidth i s j =
      ⟨graphicsPutPixel s.graphics (x + j) (y + i) (src (i * srcWidth + j)),
        s.reads ++ if Visible (x + j) (y + i) then [i * srcWidth + j] else []⟩ := by
  obtain ⟨hx, hx'⟩ := hx
  unfold blitPixel
  dsimp only
  rw [source_bounds hi hj hsrc, hy, int32_eq_self (x := x + j) (by omega) (by omega), h.int_width]
  by_cases hv : Visible (x + j) (y + i)
  · have hcol := hv.1
    rw [if_neg (by omega), if_pos hv, putPixel_visible h hv, h.index_eq hv]
  · have hcol : x + j < 0 ∨ 320 ≤ x + j := by
      by_contra hcol
      exact hv ⟨by omega, hrow⟩
    rw [if_pos hcol, if_neg hv, putPixel_hidden h hv, List.append_nil]

/-- The positions and the reads of a row. -/
def rowCells (x y width i : Int) : List (Int × Int) :=
  (intRange 0 width).map fun j => (x + j, y + i)

def rowReads (x y width srcWidth i : Int) : List Int :=
  (intRange 0 width).flatMap fun j =>
    if Visible (x + j) (y + i) then [i * srcWidth + j] else []

/-- The source as a function of the position on the screen. -/
def sourcePixel (src : Int → UInt32) (x y srcWidth X Y : Int) : UInt32 :=
  src (sourceIndex x y srcWidth X Y)

theorem blitPixels_eq (hx : SmallArg x) (hsrc : SmallArg srcWidth) {i : Int}
    (hi : 0 ≤ i ∧ i < 2 ^ 14) (hy : int32 (y + i) = y + i) (hrow : 0 ≤ y + i ∧ y + i < 200) :
    ∀ {js : List Int} {s : BlitState}, Ready s.graphics → (∀ j ∈ js, 0 ≤ j ∧ j < 2 ^ 14) →
      js.foldl (blitPixel src x y srcWidth i) s =
        ⟨paint (sourcePixel src x y srcWidth) s.graphics (js.map fun j => (x + j, y + i)),
          s.reads ++ js.flatMap fun j =>
            if Visible (x + j) (y + i) then [i * srcWidth + j] else []⟩ := by
  intro js
  induction js with
  | nil =>
    intro s _ _
    rw [List.flatMap_nil, List.append_nil]
    rfl
  | cons j js ih =>
    intro s h hjs
    obtain ⟨hj, hrest⟩ := List.forall_mem_cons.mp hjs
    rw [List.foldl_cons, blitPixel_eq h hx hsrc hi hj hy hrow, ih (h.putPixel _ _ _) hrest,
      List.map_cons, List.flatMap_cons, ← List.append_assoc]
    congr 1
    rw [paint, paint, List.foldl_cons, sourcePixel, sourceIndex_add]

/-- **A row**, on the screen or not. -/
theorem blitRow_eq {s : BlitState} (h : Ready s.graphics) (hx : SmallArg x) (hy : SmallArg y)
    (hwidth : SmallArg width) (hsrc : SmallArg srcWidth) {i : Int} (hi : 0 ≤ i ∧ i < 2 ^ 14) :
    blitRow src x y width srcWidth s i =
      ⟨paint (sourcePixel src x y srcWidth) s.graphics (rowCells x y width i),
        s.reads ++ rowReads x y width srcWidth i⟩ := by
  obtain ⟨hylow, hyhigh⟩ := hy
  obtain ⟨hw, hw'⟩ := hwidth
  have hwrap : int32 (y + i) = y + i := int32_eq_self (by omega) (by omega)
  unfold blitRow
  dsimp only
  rw [hwrap, h.int_height]
  by_cases hrow : y + i < 0 ∨ 200 ≤ y + i
  · have hhidden : ∀ j, ¬ Visible (x + j) (y + i) := fun j hv => by
      have := hv.2
      omega
    have hreads : rowReads x y width srcWidth i = [] :=
      List.flatMap_eq_nil_iff.mpr fun j _ => if_neg (hhidden j)
    have hcells : paint (sourcePixel src x y srcWidth) s.graphics (rowCells x y width i) =
        s.graphics := by
      refine paint_hidden _ h fun p hp => ?_
      obtain ⟨j, -, rfl⟩ := List.mem_map.mp hp
      exact hhidden j
    rw [if_pos hrow, hcells, hreads, List.append_nil]
  · rw [if_neg hrow]
    refine blitPixels_eq hx hsrc hi hwrap (by omega) h fun j hj => ?_
    have := mem_intRange.mp hj
    omega

theorem blitRows_eq (hx : SmallArg x) (hy : SmallArg y) (hwidth : SmallArg width)
    (hsrc : SmallArg srcWidth) :
    ∀ {is : List Int} {s : BlitState}, Ready s.graphics → (∀ i ∈ is, 0 ≤ i ∧ i < 2 ^ 14) →
      is.foldl (blitRow src x y width srcWidth) s =
        ⟨paint (sourcePixel src x y srcWidth) s.graphics (is.flatMap (rowCells x y width)),
          s.reads ++ is.flatMap (rowReads x y width srcWidth)⟩ := by
  intro is
  induction is with
  | nil =>
    intro s _ _
    rw [List.flatMap_nil, List.flatMap_nil, List.append_nil]
    rfl
  | cons i is ih =>
    intro s h his
    obtain ⟨hi, hrest⟩ := List.forall_mem_cons.mp his
    rw [List.foldl_cons, blitRow_eq h hx hy hwidth hsrc hi, ih (h.paint _) hrest,
      List.flatMap_cons, List.flatMap_cons, paint_append, List.append_assoc]

/-- **`graphics_blit`** puts the pixels of its rectangle, and reads the source for those that are
on the screen. -/
theorem blit_eq (h : Ready g) (hx : SmallArg x) (hy : SmallArg y) (hwidth : SmallArg width)
    (hheight : SmallArg height) (hsrc : SmallArg srcWidth) :
    graphicsBlit g (some src) x y width height srcWidth =
      ⟨paint (sourcePixel src x y srcWidth) g ((intRange 0 height).flatMap (rowCells x y width)),
        (intRange 0 height).flatMap (rowReads x y width srcWidth)⟩ := by
  have hbelow : ∀ i ∈ intRange 0 height, 0 ≤ i ∧ i < 2 ^ 14 := fun i hi => by
    have := mem_intRange.mp hi
    have := hheight.2
    omega
  have hstart : Ready (BlitState.mk g []).graphics := h
  unfold graphicsBlit
  dsimp only
  rw [if_neg (by simp [h.on]), blitRows_eq hx hy hwidth hsrc hstart hbelow, List.nil_append]

theorem mem_blitCells :
    (X, Y) ∈ (intRange 0 height).flatMap (rowCells x y width) ↔ InRect x y width height X Y := by
  unfold rowCells InRect
  rw [List.mem_flatMap]
  constructor
  · rintro ⟨i, hi, hmem⟩
    obtain ⟨j, hj, heq⟩ := List.mem_map.mp hmem
    obtain ⟨rfl, rfl⟩ := Prod.mk.inj heq
    rw [mem_intRange] at hi hj
    omega
  · rintro ⟨hX, hY⟩
    exact ⟨Y - y, mem_intRange.mpr (by omega), List.mem_map.mpr
      ⟨X - x, mem_intRange.mpr (by omega), by rw [show x + (X - x) = X by omega,
        show y + (Y - y) = Y by omega]⟩⟩

theorem mem_blitReads {r : Int} :
    r ∈ (intRange 0 height).flatMap (rowReads x y width srcWidth) ↔
      ∃ X Y, Visible X Y ∧ InRect x y width height X Y ∧ r = sourceIndex x y srcWidth X Y := by
  unfold rowReads
  simp only [List.mem_flatMap, mem_intRange]
  constructor
  · rintro ⟨i, hi, j, hj, hmem⟩
    by_cases hv : Visible (x + j) (y + i)
    · rw [if_pos hv, List.mem_singleton] at hmem
      refine ⟨x + j, y + i, hv, ?_, by rw [sourceIndex_add, hmem]⟩
      unfold InRect
      omega
    · rw [if_neg hv] at hmem
      cases hmem
  · rintro ⟨X, Y, hv, ⟨hX, hY⟩, rfl⟩
    refine ⟨Y - y, by omega, X - x, by omega, ?_⟩
    rw [show x + (X - x) = X by omega, show y + (Y - y) = Y by omega, if_pos hv, sourceIndex,
      List.mem_singleton]

end Blit

/-! ## The result -/

theorem Painted.congr {g' : Graphics} {area area' : Int → Int → Prop}
    {value : Int → Int → UInt32} (h : Painted g g' area value)
    (harea : ∀ X Y, area X Y ↔ area' X Y) : Painted g g' area' value :=
  ⟨fun X Y hv ha => h.inside X Y hv ((harea X Y).mpr ha),
    fun X Y hv hn => h.outside X Y hv fun ha => hn ((harea X Y).mp ha), h.beyond⟩

/--
**Both functions change exactly the pixels of their rectangle that are on the screen**, and
`graphics_blit` reads its source for no others.

The screen holds anything, and the rectangle lies anywhere.
-/
theorem regions_painted (framebuffer : Nat → UInt32) {x y width height srcWidth : Int}
    (hx : SmallArg x) (hy : SmallArg y) (hwidth : SmallArg width) (hheight : SmallArg height)
    (hsrc : SmallArg srcWidth) (color : UInt32) (src : Int → UInt32) :
    let g := graphicsInit (Graphics.boot framebuffer)
    let copied := graphicsBlit g (some src) x y width height srcWidth
    Painted g (graphicsFillRect g x y width height color) (InRect x y width height)
        (fun _ _ => color) ∧
      Painted g copied.graphics (InRect x y width height)
          (fun X Y => src ((Y - y) * srcWidth + (X - x))) ∧
        ∀ r, r ∈ copied.reads ↔ ∃ X Y, Visible X Y ∧ InRect x y width height X Y ∧
          r = (Y - y) * srcWidth + (X - x) := by
  have hready := ready_init framebuffer
  intro g copied
  refine ⟨?_, ?_⟩
  · rw [fillRect_eq hready hx hy hwidth hheight]
    exact (paint_painted _ hready).congr fun X Y => mem_rectCells
  · have hcopied : copied = _ := blit_eq hready hx hy hwidth hheight hsrc
    rw [hcopied]
    exact ⟨(paint_painted _ hready).congr fun X Y => mem_blitCells, fun r => mem_blitReads⟩

/-- A rectangle over the lower left corner. -/
theorem regions_painted_corner :
    let g := graphicsInit (Graphics.boot fun _ => 7)
    let copied := graphicsBlit g (some fun i => UInt32.ofNat i.toNat) (-2) 190 4 20 4
    Painted g (graphicsFillRect g (-2) 190 4 20 5) (InRect (-2) 190 4 20) (fun _ _ => 5) ∧
      Painted g copied.graphics (InRect (-2) 190 4 20)
          (fun X Y => UInt32.ofNat ((Y - 190) * 4 + (X - -2)).toNat) ∧
        ∀ r, r ∈ copied.reads ↔ ∃ X Y, Visible X Y ∧ InRect (-2) 190 4 20 X Y ∧
          r = (Y - 190) * 4 + (X - -2) :=
  regions_painted (fun _ => 7) (by decide) (by decide) (by decide) (by decide) (by decide) 5 _

end MayaOs.Gui
