import Mathlib.Tactic.Ring
import MayaOs.Lib.Channels
import MayaOs.Properties.ScreenRegions

/-!
# Blending a colour over the screen

The weights of the two colours add up to 255 and the sum is divided by 256, so every channel comes
out too dark: a white rectangle over white is grey, and an opacity of 255 is not the colour.

* `channel_blend` — what is stored, channel by channel
* `fillRectAlpha_pixel` — each pixel of the rectangle is blended once
* `alpha_blend_iff` — when the stored pixel lies between the two colours
-/

namespace MayaOs.Gui

open MayaOs.Lib

/-! ## The blended pixel -/

/-- A channel of the blended pixel. -/
def mix (d c a : Nat) : Nat := (d * (255 - a) + c * a) / 256

section Blend

variable (dest color : UInt32) (alpha : UInt8)

theorem toNat_weight : (255 - alpha.toUInt32).toNat = 255 - alpha.toNat := by
  have halpha := alpha.toNat_lt
  rw [UInt32.toNat_sub_of_le]
  · rfl
  · rw [UInt32.le_iff_toNat_le, UInt8.toNat_toUInt32]
    show alpha.toNat ≤ 255
    omega

/-- A weighted sum of two pixels in the channels of a mask, without overflow. -/
def weightedSum (dest color : UInt32) (alpha : UInt8) (mask : Nat) : Nat :=
  (dest.toNat &&& mask) * (255 - alpha.toNat) + (color.toNat &&& mask) * alpha.toNat

theorem weightedSum_lt {mask : Nat} (hmask : mask ≤ 0xFF00FF) :
    weightedSum dest color alpha mask < 2 ^ 32 := by
  have halpha := alpha.toNat_lt
  have h1 : (dest.toNat &&& mask) * (255 - alpha.toNat) ≤ 0xFF00FF * (255 - alpha.toNat) :=
    Nat.mul_le_mul_right _ (Nat.le_trans Nat.and_le_right hmask)
  have h2 : (color.toNat &&& mask) * alpha.toNat ≤ 0xFF00FF * alpha.toNat :=
    Nat.mul_le_mul_right _ (Nat.le_trans Nat.and_le_right hmask)
  unfold weightedSum
  omega

/-- The sum that the code computes is the exact one. -/
theorem toNat_weighted {mask : UInt32} (hmask : mask.toNat ≤ 0xFF00FF) :
    ((dest &&& mask) * (255 - alpha.toUInt32) + (color &&& mask) * alpha.toUInt32).toNat =
      weightedSum dest color alpha mask.toNat := by
  have hsum := weightedSum_lt dest color alpha hmask
  unfold weightedSum at hsum ⊢
  rw [UInt32.toNat_add, UInt32.toNat_mul, UInt32.toNat_mul, toNat_weight, UInt8.toNat_toUInt32,
    UInt32.toNat_and, UInt32.toNat_and, Nat.mod_eq_of_lt (a := _ * (255 - _)) (by omega),
    Nat.mod_eq_of_lt (a := _ * alpha.toNat) (by omega), Nat.mod_eq_of_lt hsum]

theorem toNat_blend : (blend dest color alpha).toNat =
    (weightedSum dest color alpha 0xFF00FF / 256 &&& 0xFF00FF) |||
      (weightedSum dest color alpha 0x00FF00 / 256 &&& 0x00FF00) := by
  have hrb := toNat_weighted dest color alpha (show (0xFF00FF : UInt32).toNat ≤ 0xFF00FF by decide)
  have hg := toNat_weighted dest color alpha (show (0x00FF00 : UInt32).toNat ≤ 0xFF00FF by decide)
  unfold blend
  dsimp only
  rw [UInt32.toNat_or, UInt32.toNat_and, UInt32.toNat_and, UInt32.toNat_shiftRight,
    UInt32.toNat_shiftRight, hrb, hg, Nat.shiftRight_eq_div_pow, Nat.shiftRight_eq_div_pow]
  rfl

/-- The outer channels are summed side by side. -/
theorem weightedSum_outer : weightedSum dest color alpha 0xFF00FF =
    (channel dest.toNat 0 * (255 - alpha.toNat) + channel color.toNat 0 * alpha.toNat) +
      65536 * (channel dest.toNat 2 * (255 - alpha.toNat) +
        channel color.toNat 2 * alpha.toNat) := by
  rw [weightedSum, and_outer, and_outer]
  ring

theorem weightedSum_middle : weightedSum dest color alpha 0x00FF00 =
    256 * (channel dest.toNat 1 * (255 - alpha.toNat) + channel color.toNat 1 * alpha.toNat) := by
  rw [weightedSum, and_middle, and_middle]
  ring

/-- **Every channel is the weighted sum of that channel**, divided by 256. -/
theorem channel_blend {k : Nat} (hk : k < 3) : channel (blend dest color alpha).toNat k =
    mix (channel dest.toNat k) (channel color.toNat k) alpha.toNat := by
  have halpha := alpha.toNat_lt
  have hsum : ∀ j, channel dest.toNat j * (255 - alpha.toNat) + channel color.toNat j * alpha.toNat ≤
      65025 := fun j => mix_le (Nat.le_of_lt_succ (channel_lt _ _))
        (Nat.le_of_lt_succ (channel_lt _ _)) (by omega)
  have h0 := hsum 0
  have h1 := hsum 1
  have h2 := hsum 2
  rw [toNat_blend, channel_or, channel_and, channel_and, weightedSum_outer, weightedSum_middle, mix]
  rcases k with _ | _ | _ | k
  · show channel _ 0 &&& 255 ||| channel _ 0 &&& 0 = _
    rw [and_255, Nat.and_zero, Nat.or_zero, low_pair_div (by omega)]
  · show channel _ 1 &&& 0 ||| channel _ 1 &&& 255 = _
    rw [and_255, Nat.and_zero, Nat.zero_or, Nat.mul_div_cancel_left _ (by decide),
      channel_one (by omega)]
  · show channel _ 2 &&& 255 ||| channel _ 2 &&& 0 = _
    rw [and_255, Nat.and_zero, Nat.or_zero, high_pair_div (by omega) (by omega)]
  · omega

end Blend

/-! ## graphics_fill_rect_alpha -/

section FillRectAlpha

variable {g : Graphics} {color : UInt32} {alpha : UInt8} {X Y : Int}

/-- The body of the loops. -/
def blendAt (color : UInt32) (alpha : UInt8) (g : Graphics) (p : Int × Int) : Graphics :=
  if g.onScreen p.1 p.2 = false then g
  else g.store (g.index p.1 p.2) (blend (g.framebuffer (g.index p.1 p.2)) color alpha)

theorem blendAt_visible (h : Ready g) (hv : Visible X Y) : blendAt color alpha g (X, Y) =
    g.store (pixelIndex X Y) (blend (g.pixel X Y) color alpha) := by
  unfold blendAt Graphics.pixel
  rw [if_neg (by simp [h.onScreen_iff.mpr hv]), h.index_eq hv]

theorem blendAt_hidden (h : Ready g) (hv : ¬ Visible X Y) :
    blendAt color alpha g (X, Y) = g := by
  unfold blendAt
  rw [if_pos (Bool.eq_false_iff.mpr fun hon => hv (h.onScreen_iff.mp hon))]

theorem Ready.blendAt (h : Ready g) (p : Int × Int) : Ready (blendAt color alpha g p) := by
  by_cases hv : Visible p.1 p.2
  · rw [blendAt_visible h hv]
    exact h.store _ _
  · rw [blendAt_hidden h hv]
    exact h

/-- One turn blends its own pixel and no other. -/
theorem pixel_blendAt (h : Ready g) (hv : Visible X Y) (p : Int × Int) :
    (blendAt color alpha g p).pixel X Y =
      if (X, Y) = p then blend (g.pixel X Y) color alpha else g.pixel X Y := by
  by_cases hp : Visible p.1 p.2
  · rw [blendAt_visible h hp]
    by_cases heq : (X, Y) = p
    · subst heq
      simp [Graphics.pixel, Graphics.store]
    · have hindex : pixelIndex X Y ≠ pixelIndex p.1 p.2 := fun he =>
        heq (Prod.ext (pixelIndex_inj hv hp he).1 (pixelIndex_inj hv hp he).2)
      simp [Graphics.pixel, Graphics.store, hindex, heq]
  · rw [blendAt_hidden h hp, if_neg]
    rintro rfl
    exact hp hv

/-- Turns at different positions blend each of them once. -/
theorem pixel_foldl_blendAt (hv : Visible X Y) :
    ∀ {ps : List (Int × Int)} {g : Graphics}, Ready g → ps.Nodup →
      (ps.foldl (blendAt color alpha) g).pixel X Y =
        if (X, Y) ∈ ps then blend (g.pixel X Y) color alpha else g.pixel X Y := by
  intro ps
  induction ps with
  | nil => intro g _ _; rfl
  | cons p ps ih =>
    intro g h hnodup
    obtain ⟨hp, hrest⟩ := List.nodup_cons.mp hnodup
    rw [List.foldl_cons, ih (h.blendAt p) hrest, pixel_blendAt h hv]
    by_cases heq : (X, Y) = p
    · subst heq
      simp [hp]
    · simp [heq]

theorem nodup_rectCells (x y width height : Int) : (rectCells x y width height).Nodup := by
  unfold rectCells
  rw [List.nodup_flatMap]
  refine ⟨fun i _ => (nodup_intRange _ _).map fun j k hjk => (Prod.mk.inj hjk).1, ?_⟩
  refine (nodup_intRange _ _).imp fun {i k} hne => List.disjoint_left.mpr fun {p} hi hk => ?_
  obtain ⟨_, _, rfl⟩ := List.mem_map.mp hi
  obtain ⟨_, _, heq⟩ := List.mem_map.mp hk
  exact hne (Prod.mk.inj heq).2.symm

/-- The loops count up to the wrapped sums. -/
theorem fillRectAlpha_eq (h : Ready g) (x y width height : Int) :
    graphicsFillRectAlpha g x y width height color alpha =
      (rectCells x y (int32 (x + width) - x) (int32 (y + height) - y)).foldl
        (blendAt color alpha) g := by
  unfold graphicsFillRectAlpha rectCells
  rw [if_neg (by simp [h.on]), add_sub_cancel, add_sub_cancel, List.foldl_flatMap]
  simp only [List.foldl_map]
  rfl

/-- **A pixel of the rectangle is blended once.** -/
theorem fillRectAlpha_pixel (h : Ready g) (hv : Visible X Y) {x y width height : Int}
    (hX : x ≤ X ∧ X < int32 (x + width)) (hY : y ≤ Y ∧ Y < int32 (y + height)) :
    (graphicsFillRectAlpha g x y width height color alpha).pixel X Y =
      blend (g.pixel X Y) color alpha := by
  rw [fillRectAlpha_eq h, pixel_foldl_blendAt hv h (nodup_rectCells ..), if_pos]
  rw [mem_rectCells, InRect]
  omega

end FillRectAlpha

/-! ## The property -/

/-- What blending should store over `dest`. -/
structure BlendRight (dest color : UInt32) (alpha : UInt8) (stored : UInt32) : Prop where
  own : ∀ k < 3, ∀ dest' color' : UInt32, channel dest'.toNat k = channel dest.toNat k →
    channel color'.toNat k = channel color.toNat k →
      channel (blend dest' color' alpha).toNat k = channel stored.toNat k
  low : ∀ k < 3, min (channel dest.toNat k) (channel color.toNat k) ≤ channel stored.toNat k
  high : ∀ k < 3, channel stored.toNat k ≤ max (channel dest.toNat k) (channel color.toNat k)
  clear : alpha = 0 → stored.toNat % 2 ^ 24 = dest.toNat % 2 ^ 24
  solid : alpha = 255 → stored.toNat % 2 ^ 24 = color.toNat % 2 ^ 24
  fits : ∀ mask ∈ [0xFF00FF, 0x00FF00], weightedSum dest color alpha mask < 2 ^ 32

/-- A channel that loses nothing by the division. -/
def ChannelExact (d c a : Nat) : Prop :=
  (if d ≤ c then d ≤ a * (c - d) else c ≤ (255 - a) * (d - c)) ∧ (a = 0 → d = 0) ∧
    (a = 255 → c = 0)

def BlendExact (dest color : UInt32) (alpha : UInt8) : Prop :=
  ∀ k < 3, ChannelExact (channel dest.toNat k) (channel color.toNat k) alpha.toNat

instance (d c a : Nat) : Decidable (ChannelExact d c a) := inferInstanceAs (Decidable (_ ∧ _))

instance (dest color : UInt32) (alpha : UInt8) : Decidable (BlendExact dest color alpha) :=
  inferInstanceAs (Decidable (∀ k < 3, _))

/-! ## A channel -/

section Mix

variable {d c a : Nat}

theorem mix_le_max (ha : a ≤ 255) : mix d c a ≤ max d c := by
  have h1 : d * (255 - a) ≤ max d c * (255 - a) := Nat.mul_le_mul_right _ (Nat.le_max_left _ _)
  have h2 : c * a ≤ max d c * a := Nat.mul_le_mul_right _ (Nat.le_max_right _ _)
  have hsum : max d c * (255 - a) + max d c * a = max d c * 255 := by
    rw [← Nat.mul_add, Nat.sub_add_cancel ha]
  unfold mix
  omega

/-- **The lower bound**: what the weights give beyond it makes up for the missing 256th part. -/
theorem min_le_mix_iff (ha : a ≤ 255) : min d c ≤ mix d c a ↔
    if d ≤ c then d ≤ a * (c - d) else c ≤ (255 - a) * (d - c) := by
  have hweights : (255 - a) + a = 255 := Nat.sub_add_cancel ha
  unfold mix
  generalize 255 - a = b at hweights ⊢
  rw [Nat.le_div_iff_mul_le (by decide)]
  split
  next hle =>
    obtain ⟨e, rfl⟩ := Nat.exists_eq_add_of_le hle
    have hsum : d * b + (d + e) * a = d * 255 + a * e := by
      rw [← hweights]
      ring
    rw [Nat.min_eq_left hle, hsum, Nat.add_sub_cancel_left]
    omega
  next hlt =>
    obtain ⟨e, rfl⟩ := Nat.exists_eq_add_of_le (Nat.le_of_not_le hlt)
    have hsum : (c + e) * b + c * a = c * 255 + b * e := by
      rw [← hweights]
      ring
    rw [Nat.min_eq_right (Nat.le_of_not_le hlt), hsum, Nat.add_sub_cancel_left]
    omega

/-- Without opacity nothing of the colour is added, but the division still takes something. -/
theorem mix_clear (hd : d ≤ 255) : mix d c 0 = d ↔ d = 0 := by
  unfold mix
  omega

theorem mix_solid (hc : c ≤ 255) : mix d c 255 = c ↔ c = 0 := by
  unfold mix
  omega

end Mix

/-! ## The result -/

section Result

variable {dest color : UInt32} {alpha : UInt8}

/-- Without opacity, the pixel stays as it was iff it is black. -/
theorem blend_clear_iff (halpha : alpha = 0) :
    (blend dest color alpha).toNat % 2 ^ 24 = dest.toNat % 2 ^ 24 ↔
      ∀ k < 3, channel dest.toNat k = 0 := by
  subst halpha
  rw [mod_eq_iff_channel]
  refine forall₂_congr fun k hk => ?_
  rw [channel_blend dest color 0 hk]
  exact mix_clear (Nat.le_of_lt_succ (channel_lt _ _))

/-- At full opacity, the colour is stored iff it is black. -/
theorem blend_solid_iff (halpha : alpha = 255) :
    (blend dest color alpha).toNat % 2 ^ 24 = color.toNat % 2 ^ 24 ↔
      ∀ k < 3, channel color.toNat k = 0 := by
  subst halpha
  rw [mod_eq_iff_channel]
  refine forall₂_congr fun k hk => ?_
  rw [channel_blend dest color 255 hk]
  exact mix_solid (Nat.le_of_lt_succ (channel_lt _ _))

theorem blendRight_iff :
    BlendRight dest color alpha (blend dest color alpha) ↔ BlendExact dest color alpha := by
  have halpha : alpha.toNat ≤ 255 := Nat.le_of_lt_succ alpha.toNat_lt
  have hzero : alpha.toNat = 0 ↔ alpha = 0 := by rw [← UInt8.toNat_inj]; rfl
  have hfull : alpha.toNat = 255 ↔ alpha = 255 := by rw [← UInt8.toNat_inj]; rfl
  constructor
  · intro h k hk
    have hlow := h.low k hk
    rw [channel_blend dest color alpha hk] at hlow
    exact ⟨(min_le_mix_iff halpha).mp hlow,
      fun ha => (blend_clear_iff (hzero.mp ha)).mp (h.clear (hzero.mp ha)) k hk,
      fun ha => (blend_solid_iff (hfull.mp ha)).mp (h.solid (hfull.mp ha)) k hk⟩
  · intro h
    refine ⟨fun k hk dest' color' hdest hcolor => ?_, fun k hk => ?_, fun k hk => ?_,
      fun ha => (blend_clear_iff ha).mpr fun k hk => (h k hk).2.1 (hzero.mpr ha),
      fun ha => (blend_solid_iff ha).mpr fun k hk => (h k hk).2.2 (hfull.mpr ha),
      fun mask hmask => weightedSum_lt dest color alpha ?_⟩
    · rw [channel_blend dest' color' alpha hk, channel_blend dest color alpha hk, hdest, hcolor]
    · rw [channel_blend dest color alpha hk]
      exact (min_le_mix_iff halpha).mpr (h k hk).1
    · rw [channel_blend dest color alpha hk]
      exact mix_le_max halpha
    · rcases List.mem_pair.mp hmask with rfl | rfl <;> decide

end Result

/--
**A blended pixel is as it should be iff no channel loses by the division.**

`framebuffer` is any contents of the video memory, and the pixel any one of the rectangle on the
screen.
-/
theorem alpha_blend_iff (framebuffer : Nat → UInt32) (x y width height : Int) (color : UInt32)
    (alpha : UInt8) {X Y : Int} (hv : Visible X Y) (hX : x ≤ X ∧ X < int32 (x + width))
    (hY : y ≤ Y ∧ Y < int32 (y + height)) :
    let g := graphicsInit (Graphics.boot framebuffer)
    BlendRight (g.pixel X Y) color alpha
        ((graphicsFillRectAlpha g x y width height color alpha).pixel X Y) ↔
      BlendExact (g.pixel X Y) color alpha := by
  intro g
  rw [fillRectAlpha_pixel (ready_init framebuffer) hv hX hY]
  exact blendRight_iff

/-- A grey over a black screen. -/
theorem alpha_blend_black :
    BlendRight 0 0x808080 128
      ((graphicsFillRectAlpha (graphicsInit (Graphics.boot fun _ => 0)) 0 0 2 2 0x808080
        128).pixel 1 1) :=
  (alpha_blend_iff (fun _ => 0) 0 0 2 2 0x808080 128 (by decide) (by decide) (by decide)).mpr
    (by decide)

/-- White over white is not white. -/
theorem alpha_blend_white :
    let g := graphicsInit (Graphics.boot fun _ => 0xFFFFFF)
    g.pixel 1 1 = 0xFFFFFF ∧ (graphicsFillRectAlpha g 0 0 2 2 0xFFFFFF 128).pixel 1 1 = 0xFEFEFE ∧
      ¬ BlendRight (g.pixel 1 1) 0xFFFFFF 128
        ((graphicsFillRectAlpha g 0 0 2 2 0xFFFFFF 128).pixel 1 1) := by
  intro g
  have hstored : (graphicsFillRectAlpha g 0 0 2 2 0xFFFFFF 128).pixel 1 1 = 0xFEFEFE :=
    fillRectAlpha_pixel (ready_init _) (by decide) (by decide) (by decide)
  refine ⟨rfl, hstored, fun h => ?_⟩
  have hlow := h.low 0 (by decide)
  rw [hstored] at hlow
  exact absurd hlow (by decide)

end MayaOs.Gui
