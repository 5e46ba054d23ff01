import MayaOs.Gui.Graphics
import MayaOs.Lib.ErrorTerm

/-!
# Drawing a line

The loop of `graphics_draw_line` leaves only where both coordinates are those of the end point. The
error term decides which turns move along the shorter axis, and it picks exactly as many of them as
the line needs.

* `lineStep_eq` — one turn, without overflow
* `flat_step`, `steep_step` — one turn along either axis
* `flat_drawn`, `steep_drawn` — the loop along either axis
* `line_drawn` — the loop ends, after the right number of pixels
-/

namespace MayaOs.Gui

open MayaOs.Lib

/-! ## The property -/

/-- One along the longer axis, at most one along the other, and towards the end point. -/
structure LineMove (dx dy : Nat) (x2 y2 : Int) (p q : Int × Int) : Prop where
  longX : dy ≤ dx → (q.1 - p.1).natAbs = 1
  longY : dx ≤ dy → (q.2 - p.2).natAbs = 1
  oneX : (q.1 - p.1).natAbs ≤ 1
  oneY : (q.2 - p.2).natAbs ≤ 1
  towardsX : (x2 - q.1).natAbs + (q.1 - p.1).natAbs = (x2 - p.1).natAbs
  towardsY : (y2 - q.2).natAbs + (q.2 - p.2).natAbs = (y2 - p.2).natAbs

structure LineDrawn (x1 y1 x2 y2 : Int) (pixels : List (Int × Int)) : Prop where
  count : pixels.length = max (x2 - x1).natAbs (y2 - y1).natAbs + 1
  first : pixels.head? = some (x1, y1)
  last : pixels.getLast? = some (x2, y2)
  moves : pixels.IsChain (LineMove (x2 - x1).natAbs (y2 - y1).natAbs x2 y2)

/-! ## The loop -/

variable {dx dy sx sy x1 y1 x2 y2 : Int}

/-- **A loop that meets its end after `n` turns** has called `graphics_put_pixel` once more. -/
theorem lineLoop_ends {nx ny : Nat} (total : Nat) (Inv : Nat → LineState → Prop)
    (hend : ∀ s, Inv total s → s.x = x2 ∧ s.y = y2)
    (hstep : ∀ k s, k < total → Inv k s → ¬ (s.x = x2 ∧ s.y = y2) ∧
      Inv (k + 1) (lineStep dx dy sx sy s) ∧
        LineMove nx ny x2 y2 (s.x, s.y)
          ((lineStep dx dy sx sy s).x, (lineStep dx dy sx sy s).y)) :
    ∀ n k s, k + n = total → Inv k s →
      ∃ pixels, pixels.length = n + 1 ∧ pixels.head? = some (s.x, s.y) ∧
        pixels.getLast? = some (x2, y2) ∧ pixels.IsChain (LineMove nx ny x2 y2) ∧
          ∀ fuel, n + 1 ≤ fuel → lineLoop dx dy sx sy x2 y2 fuel s = some pixels := by
  intro n
  induction n with
  | zero =>
    intro k s hk hinv
    rw [Nat.add_zero] at hk
    have hat := hend s (hk ▸ hinv)
    refine ⟨[(s.x, s.y)], rfl, rfl, by rw [hat.1, hat.2]; rfl, List.IsChain.singleton _, ?_⟩
    intro fuel hfuel
    obtain ⟨f, rfl⟩ : ∃ f, fuel = f + 1 := ⟨fuel - 1, by omega⟩
    rw [lineLoop, if_pos hat]
  | succ n ih =>
    intro k s hk hinv
    obtain ⟨hgo, hnext, hmove⟩ := hstep k s (by omega) hinv
    obtain ⟨pixels, hlen, hhead, hlast, hchain, hloop⟩ :=
      ih (k + 1) (lineStep dx dy sx sy s) (by omega) hnext
    cases pixels with
    | nil => cases hhead
    | cons q rest =>
      obtain rfl := Option.some.inj hhead
      refine ⟨(s.x, s.y) :: _, by rw [List.length_cons, hlen], rfl,
        by rw [List.getLast?_cons_cons]; exact hlast,
        List.isChain_cons_cons.mpr ⟨hmove, hchain⟩, fun fuel hfuel => ?_⟩
      obtain ⟨f, rfl⟩ : ∃ f, fuel = f + 1 := ⟨fuel - 1, by omega⟩
      rw [lineLoop, if_neg hgo, hloop f (by omega)]
      rfl

/-- Numbers that the loop can add and subtract without overflow. -/
structure InRange (dx dy sx sy : Int) (s : LineState) : Prop where
  dx : 0 ≤ dx ∧ dx < 2 ^ 30
  dy : 0 ≤ dy ∧ dy < 2 ^ 30
  sx : sx = 1 ∨ sx = -1
  sy : sy = 1 ∨ sy = -1
  x : -2 ^ 29 ≤ s.x ∧ s.x ≤ 2 ^ 29
  y : -2 ^ 29 ≤ s.y ∧ s.y ≤ 2 ^ 29
  err : -2 ^ 30 ≤ s.err ∧ s.err ≤ 2 ^ 30

/-- **One turn**, where nothing overflows. -/
theorem lineStep_eq {s : LineState} (h : InRange dx dy sx sy s) :
    lineStep dx dy sx sy s =
      ⟨if -dx < s.err then s.x + sx else s.x, if s.err < dy then s.y + sy else s.y,
        s.err - (if -dx < s.err then dy else 0) + if s.err < dy then dx else 0⟩ := by
  obtain ⟨hdx, hdy, hsx, hsy, hx, hy, herr⟩ := h
  have hneg : int32 (-dx) = -dx := int32_eq_self (by omega) (by omega)
  have hx' : int32 (s.x + sx) = s.x + sx := int32_eq_self (by omega) (by omega)
  have hy' : int32 (s.y + sy) = s.y + sy := int32_eq_self (by omega) (by omega)
  have hless : int32 (s.err - dy) = s.err - dy := int32_eq_self (by omega) (by omega)
  have hmore : int32 (s.err + dx) = s.err + dx := int32_eq_self (by omega) (by omega)
  have hboth : int32 (s.err - dy + dx) = s.err - dy + dx := int32_eq_self (by omega) (by omega)
  unfold lineStep
  rw [hneg]
  by_cases hfirst : -dx < s.err
  · by_cases hsecond : s.err < dy
    · simp [hfirst, hsecond, hx', hy', hless, hboth]
    · simp [hfirst, hsecond, hx', hless]
  · by_cases hsecond : s.err < dy
    · simp [hfirst, hsecond, hy', hmore]
    · simp [hfirst, hsecond]

/-! ## The axes -/

/-- From `p` to `q` in `d` steps of `s`. -/
structure Axis (p q d s : Int) : Prop where
  dir : s = 1 ∨ s = -1
  reach : q = p + s * d
  long : 0 ≤ d ∧ d < 2 ^ 30
  start : -2 ^ 29 < p ∧ p < 2 ^ 29
  stop : -2 ^ 29 < q ∧ q < 2 ^ 29

variable {p q d s a : Int}

theorem Axis.within (h : Axis p q d s) (ha : 0 ≤ a ∧ a ≤ d) :
    -2 ^ 29 ≤ p + s * a ∧ p + s * a ≤ 2 ^ 29 := by
  obtain ⟨hs, hq, -, hp, hq'⟩ := h
  rcases hs with rfl | rfl <;> omega

theorem Axis.step (h : Axis p q d s) (ha : 0 ≤ a ∧ a + 1 ≤ d) :
    (p + s * (a + 1) - (p + s * a)).natAbs = 1 ∧
      (q - (p + s * (a + 1))).natAbs + (p + s * (a + 1) - (p + s * a)).natAbs =
        (q - (p + s * a)).natAbs := by
  obtain ⟨hs, hq, -, -, -⟩ := h
  rcases hs with rfl | rfl <;> omega

theorem Axis.ne_stop (h : Axis p q d s) (ha : a < d) : p + s * a ≠ q := by
  obtain ⟨hs, hq, -, -, -⟩ := h
  rcases hs with rfl | rfl <;> omega

theorem Axis.add_step (p s a : Int) : p + s * a + s = p + s * (a + 1) := by
  rw [Int.mul_add, Int.mul_one, Int.add_assoc]

/-- The axis that the first lines of `graphics_draw_line` find. -/
theorem axis_of_bounds (hp : -2 ^ 29 < p ∧ p < 2 ^ 29) (hq : -2 ^ 29 < q ∧ q < 2 ^ 29) :
    Axis p q (intAbs (int32 (q - p))) (if p < q then 1 else -1) ∧
      intAbs (int32 (q - p)) = (q - p).natAbs := by
  have hdist : intAbs (int32 (q - p)) = (q - p).natAbs := by
    rw [int32_eq_self (by omega) (by omega), intAbs]
    split
    · rw [int32_eq_self (by omega) (by omega)]
      omega
    · omega
  refine ⟨⟨?_, ?_, by omega, hp, hq⟩, hdist⟩
  · split
    · exact Or.inl rfl
    · exact Or.inr rfl
  · rw [hdist]
    split <;> omega

section Steps

variable {nx ny : Nat} (hx : Axis x1 x2 dx sx) (hy : Axis y1 y2 dy sy) (hnx : (nx : Int) = dx)
  (hny : (ny : Int) = dy)
include hx hy hnx hny

/-- Along the longer axis `x`: `k` turns, `b` of them with a step of `y`. -/
def FlatAt (dx dy sx sy x1 y1 : Int) (k : Nat) (s : LineState) : Prop :=
  ∃ b, s.x = x1 + sx * k ∧ s.y = y1 + sy * b ∧ Tracks dx dy (dx / 2) k b s.err

theorem flat_step (hflat : dy < dx) {k : Nat} {s : LineState} (hk : (k : Int) < dx)
    (h : FlatAt dx dy sx sy x1 y1 k s) :
    ¬ (s.x = x2 ∧ s.y = y2) ∧ FlatAt dx dy sx sy x1 y1 (k + 1) (lineStep dx dy sx sy s) ∧
      LineMove nx ny x2 y2 (s.x, s.y)
        ((lineStep dx dy sx sy s).x, (lineStep dx dy sx sy s).y) := by
  obtain ⟨b, hsx, hsy, htracks⟩ := h
  have hdx := hx.long
  have hdy := hy.long
  have hlow := htracks.low
  have hhigh := htracks.high
  have hb := htracks.le (by omega) (by omega) hdy.1 (by omega) (by omega)
  have hrange : InRange dx dy sx sy s :=
    ⟨hdx, hdy, hx.dir, hy.dir, by rw [hsx]; exact hx.within (by omega),
      by rw [hsy]; exact hy.within hb, by omega⟩
  have hmoveX := hx.step (a := k) (by omega)
  refine ⟨fun hend => hx.ne_stop hk (by rw [← hsx, hend.1]), ?_⟩
  have hfirst : -dx < s.err := by omega
  rw [lineStep_eq hrange]
  simp only [if_pos hfirst, hsx, Axis.add_step]
  by_cases hpick : s.err < dy
  · have hnext := htracks.picked (by omega) hpick
    have hb' := hnext.le (by omega) (by omega) hdy.1 (by omega) (by omega)
    have hmoveY := hy.step (a := b) (by omega)
    simp only [if_pos hpick, hsy, Axis.add_step]
    exact ⟨⟨b + 1, rfl, rfl, hnext⟩, fun _ => hmoveX.1, fun hle => by omega, by omega, by omega,
      hmoveX.2, hmoveY.2⟩
  · simp only [if_neg hpick, Int.add_zero]
    exact ⟨⟨b, rfl, hsy, htracks.passed hdy.1 (by omega)⟩, fun _ => hmoveX.1, fun hle => by omega,
      by omega, by omega, hmoveX.2, by simp⟩

/-- Along the longer axis `y`: `k` turns, `a` of them with a step of `x`. -/
def SteepAt (dx dy sx sy x1 y1 : Int) (k : Nat) (s : LineState) : Prop :=
  ∃ a, s.x = x1 + sx * a ∧ s.y = y1 + sy * k ∧ Tracks dy dx (dy / 2) k a (-s.err)

theorem steep_step (hsteep : dx ≤ dy) {k : Nat} {s : LineState} (hk : (k : Int) < dy)
    (h : SteepAt dx dy sx sy x1 y1 k s) :
    ¬ (s.x = x2 ∧ s.y = y2) ∧ SteepAt dx dy sx sy x1 y1 (k + 1) (lineStep dx dy sx sy s) ∧
      LineMove nx ny x2 y2 (s.x, s.y)
        ((lineStep dx dy sx sy s).x, (lineStep dx dy sx sy s).y) := by
  obtain ⟨a, hsx, hsy, htracks⟩ := h
  have hdx := hx.long
  have hdy := hy.long
  have hlow := htracks.low
  have hhigh := htracks.high
  have ha := htracks.le (by omega) (by omega) hdx.1 (by omega) (by omega)
  have hrange : InRange dx dy sx sy s :=
    ⟨hdx, hdy, hx.dir, hy.dir, by rw [hsx]; exact hx.within ha,
      by rw [hsy]; exact hy.within (by omega), by omega⟩
  have hmoveY := hy.step (a := k) (by omega)
  refine ⟨fun hend => hy.ne_stop hk (by rw [← hsy, hend.2]), ?_⟩
  have hsecond : s.err < dy := by omega
  rw [lineStep_eq hrange]
  simp only [if_pos hsecond, hsy, Axis.add_step]
  by_cases hpick : -dx < s.err
  · have hnext := htracks.picked hsteep (by omega)
    have ha' := hnext.le (by omega) (by omega) hdx.1 (by omega) (by omega)
    have hmoveX := hx.step (a := a) (by omega)
    simp only [if_pos hpick, hsx, Axis.add_step]
    refine ⟨⟨a + 1, rfl, rfl, ?_⟩, fun _ => hmoveX.1, fun _ => hmoveY.1, by omega, by omega,
      hmoveX.2, hmoveY.2⟩
    rw [show -(s.err - dy + dx) = -s.err - dx + dy by omega]
    exact hnext
  · have hnext := htracks.passed hdx.1 (by omega)
    simp only [if_neg hpick, Int.sub_zero]
    refine ⟨⟨a, hsx, rfl, ?_⟩, fun hle => by omega, fun _ => hmoveY.1, by omega, by omega,
      by simp, hmoveY.2⟩
    rw [show -(s.err + dx) = -s.err - dx by omega]
    exact hnext

/-- **A line along `x`**: the error has picked every step of `y` when the last turn is over. -/
theorem flat_drawn (hflat : dy < dx) :
    ∃ pixels, pixels.length = nx + 1 ∧ pixels.head? = some (x1, y1) ∧
      pixels.getLast? = some (x2, y2) ∧ pixels.IsChain (LineMove nx ny x2 y2) ∧
        ∀ fuel, nx + 1 ≤ fuel →
          lineLoop dx dy sx sy x2 y2 fuel ⟨x1, y1, dx / 2⟩ = some pixels := by
  have hlongY := hy.long
  have hend : ∀ s, FlatAt dx dy sx sy x1 y1 nx s → s.x = x2 ∧ s.y = y2 := by
    rintro s ⟨b, hsx, hsy, htracks⟩
    rw [hnx] at hsx htracks
    rw [hsx, hsy, htracks.all (by omega) (by omega)]
    exact ⟨hx.reach.symm, hy.reach.symm⟩
  exact lineLoop_ends nx (FlatAt dx dy sx sy x1 y1) hend
    (fun k s hk => flat_step hx hy hnx hny hflat (by omega)) nx 0 ⟨x1, y1, dx / 2⟩ (Nat.zero_add _)
    ⟨0, by simp, by simp, Tracks.start (by omega) (by omega)⟩

/-- **A line along `y`.** -/
theorem steep_drawn (hsteep : dx ≤ dy) (hpos : 0 < dy) :
    ∃ pixels, pixels.length = ny + 1 ∧ pixels.head? = some (x1, y1) ∧
      pixels.getLast? = some (x2, y2) ∧ pixels.IsChain (LineMove nx ny x2 y2) ∧
        ∀ fuel, ny + 1 ≤ fuel →
          lineLoop dx dy sx sy x2 y2 fuel ⟨x1, y1, -(dy / 2)⟩ = some pixels := by
  have hend : ∀ s, SteepAt dx dy sx sy x1 y1 ny s → s.x = x2 ∧ s.y = y2 := by
    rintro s ⟨a, hsx, hsy, htracks⟩
    rw [hny] at hsy htracks
    rw [hsx, hsy, htracks.all (by omega) (by omega)]
    exact ⟨hx.reach.symm, hy.reach.symm⟩
  refine lineLoop_ends ny (SteepAt dx dy sx sy x1 y1) hend
    (fun k s hk => steep_step hx hy hnx hny hsteep (by omega)) ny 0 ⟨x1, y1, -(dy / 2)⟩
    (Nat.zero_add _) ⟨0, by simp, by simp, ?_⟩
  rw [Int.neg_neg]
  exact Tracks.start (by omega) (by omega)

end Steps

/-! ## The result -/

/-- A coordinate of absolute value below 2^29. -/
def SmallCoordinate (c : Int) : Prop := -2 ^ 29 < c ∧ c < 2 ^ 29

/--
**A line ends after as many pixels as the longer axis has**, from one end point to the other.

`fuel` bounds the turns of the loop: any bound from the number of pixels on gives the same line.
-/
theorem line_drawn {x1 y1 x2 y2 : Int} (hx1 : SmallCoordinate x1) (hy1 : SmallCoordinate y1)
    (hx2 : SmallCoordinate x2) (hy2 : SmallCoordinate y2) :
    ∃ pixels, LineDrawn x1 y1 x2 y2 pixels ∧
      ∀ fuel, max (x2 - x1).natAbs (y2 - y1).natAbs + 1 ≤ fuel →
        linePixels fuel x1 y1 x2 y2 = some pixels := by
  obtain ⟨hx, hdx⟩ := axis_of_bounds hx1 hx2
  obtain ⟨hy, hdy⟩ := axis_of_bounds hy1 hy2
  unfold linePixels
  dsimp only
  generalize intAbs (int32 (x2 - x1)) = dx at hx hdx ⊢
  generalize intAbs (int32 (y2 - y1)) = dy at hy hdy ⊢
  generalize (if x1 < x2 then (1 : Int) else -1) = sx at hx ⊢
  generalize (if y1 < y2 then (1 : Int) else -1) = sy at hy ⊢
  have hlongX := hx.long
  have hlongY := hy.long
  by_cases hflat : dy < dx
  · -- the longer axis is `x`
    have hmax : max (x2 - x1).natAbs (y2 - y1).natAbs = (x2 - x1).natAbs := by omega
    have herr : dx.tdiv 2 = dx / 2 := Int.tdiv_eq_ediv_of_nonneg hlongX.1
    rw [if_pos hflat, herr, hmax]
    obtain ⟨pixels, hlen, hhead, hlast, hchain, hloop⟩ := flat_drawn hx hy hdx.symm hdy.symm hflat
    exact ⟨pixels, ⟨by rw [hlen, hmax], hhead, hlast, hchain⟩, hloop⟩
  · have hmax : max (x2 - x1).natAbs (y2 - y1).natAbs = (y2 - y1).natAbs := by omega
    have herr : (int32 (-dy)).tdiv 2 = -(dy / 2) := by
      rw [int32_eq_self (by omega) (by omega), Int.neg_tdiv, Int.tdiv_eq_ediv_of_nonneg hlongY.1]
    rw [if_neg hflat, herr, hmax]
    by_cases hpoint : dy = 0
    · -- both end points are the same
      have hxy : x1 = x2 ∧ y1 = y2 := by omega
      refine ⟨[(x1, y1)], ⟨by rw [hmax]; simp; omega, rfl, by rw [hxy.1, hxy.2]; rfl,
        List.IsChain.singleton _⟩, fun fuel hfuel => ?_⟩
      obtain ⟨f, rfl⟩ : ∃ f, fuel = f + 1 := ⟨fuel - 1, by omega⟩
      rw [lineLoop, if_pos hxy]
    · obtain ⟨pixels, hlen, hhead, hlast, hchain, hloop⟩ :=
        steep_drawn hx hy hdx.symm hdy.symm (by omega) (by omega)
      exact ⟨pixels, ⟨by rw [hlen, hmax], hhead, hlast, hchain⟩, hloop⟩

/-- From (0, 0) to (3, -2). -/
theorem line_drawn_short :
    ∃ pixels, LineDrawn 0 0 3 (-2) pixels ∧
      ∀ fuel, max ((3 : Int) - 0).natAbs ((-2 : Int) - 0).natAbs + 1 ≤ fuel →
        linePixels fuel 0 0 3 (-2) = some pixels :=
  line_drawn (by unfold SmallCoordinate; omega) (by unfold SmallCoordinate; omega)
    (by unfold SmallCoordinate; omega) (by unfold SmallCoordinate; omega)

end MayaOs.Gui
