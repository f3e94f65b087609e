import Mathlib.Data.Rat.Floor
import TrackSelection.Proofs.LargerViewports

/-!
# Letterboxes

A video that keeps its aspect ratio touches the surface that it is shown on in one dimension and
leaves bars in the other. The space for it is computed with words: products of 64 bits say which
dimension is touched, and a quotient, rounded up and clamped to 32 bits, gives the other. Nothing is
lost on the way. A product of two dimensions never overflows, and what is clamped is no more than
the surface has, because the dimension that is touched is the one for which this holds. The main
statement is that the space is the one that the exact ratio asks for, and that a viewport that may
be turned never leaves a video less.
-/

namespace TrackSelection

namespace Size

variable {video surface space room : Size}

/-! ## The aspect ratio -/

def aspectRatio (size : Size) : ℚ :=
  size.width.toNat / size.height.toNat

/-- Scaling gives the least number that is not below the exact value. -/
theorem toNat_scale_eq_ceil (dimension num : UInt32) {den : UInt32} (positive : 0 < den.toNat) :
    (scale dimension num den).toNat = ⌈(dimension.toNat * num.toNat / den.toNat : ℚ)⌉₊ := by
  have divisor : (0 : ℚ) < den.toNat := Nat.cast_pos.mpr positive
  apply eq_of_forall_ge_iff
  intro bound
  rw [toNat_scale _ _ positive, ceilDiv_le_iff_le_mul positive, Nat.ceil_le, div_le_iff₀' divisor]
  norm_cast

theorem toNat_scale_width (area : 0 < video.width.toNat) (surface : Size) :
    (scale surface.width video.height video.width).toNat =
      ⌈surface.width.toNat / video.aspectRatio⌉₊ := by
  rw [toNat_scale_eq_ceil _ _ area, aspectRatio, div_div_eq_mul_div]

theorem toNat_scale_height (area : 0 < video.height.toNat) (surface : Size) :
    (scale surface.height video.width video.height).toNat =
      ⌈surface.height.toNat * video.aspectRatio⌉₊ := by
  rw [toNat_scale_eq_ceil _ _ area, aspectRatio, mul_div_assoc]

/-! ## The space on a surface -/

/-- A space for a video on a surface: it does not stick out, it touches the surface in one
dimension, and the other is the least one that is not below what the aspect ratio makes of it. -/
structure LetterboxedOn (video surface space : Size) : Prop where
  within : space.Within surface
  touches :
    (space.width = surface.width ∧
      space.height.toNat = ⌈surface.width.toNat / video.aspectRatio⌉₊) ∨
    (space.height = surface.height ∧
      space.width.toNat = ⌈surface.height.toNat * video.aspectRatio⌉₊)

/-- The number that is clamped on the way to the space for a video is a dimension already. -/
def IsClampedInVainOn (video surface : Size) : Prop :=
  if product video.height surface.width ≤ product video.width surface.height then
    (clamp (scale surface.width video.height video.width)).toNat =
      (scale surface.width video.height video.width).toNat
  else
    (clamp (scale surface.height video.width video.height)).toNat =
      (scale surface.height video.width video.height).toNat

theorem isClampedInVainOn (width : 0 < video.width.toNat) (height : 0 < video.height.toNat)
    (surface : Size) : video.IsClampedInVainOn surface := by
  unfold IsClampedInVainOn
  split
  · rename_i wide
    exact toNat_clamp (scale_le_and_le_scale width height wide).1
  · rename_i tall
    exact toNat_clamp
      (scale_le_and_le_scale height width (UInt64.le_of_lt (UInt64.not_le.mp tall))).1

theorem letterboxedOn_of_fitOn? (fit : video.fitOn? surface = some space) :
    video.LetterboxedOn surface space := by
  obtain ⟨widthPos, heightPos⟩ := area_of_fitOn? fit
  obtain ⟨width, height⟩ := toNat_fitOn? fit
  refine ⟨within_iff.mpr (by omega), ?_⟩
  rw [← toNat_scale_width widthPos, ← toNat_scale_height heightPos, ← UInt32.toNat_inj,
    ← UInt32.toNat_inj]
  obtain wide | tall := UInt64.le_total (product video.height surface.width)
    (product video.width surface.height)
  · obtain ⟨inside, room⟩ := scale_le_and_le_scale widthPos heightPos wide
    left
    omega
  · obtain ⟨inside, room⟩ := scale_le_and_le_scale heightPos widthPos tall
    right
    omega

/-! ## Turned surfaces -/

/-- Scaling by a ratio of at most one makes a dimension no longer, and by the inverse no shorter. -/
theorem scale_le_self_and_self_le_scale {shorter longer : UInt32} (positive : 0 < shorter.toNat)
    (le : shorter.toNat ≤ longer.toNat) (dimension : UInt32) :
    (scale dimension shorter longer).toNat ≤ dimension.toNat ∧
      dimension.toNat ≤ (scale dimension longer shorter).toNat := by
  apply scale_le_and_le_scale (Nat.lt_of_lt_of_le positive le) positive
  rw [UInt64.le_iff_toNat_le, toNat_product, toNat_product]
  exact Nat.mul_le_mul_right dimension.toNat le

/-- A surface that is not of the orientation of a video leaves it no more space than when it is
turned. -/
theorem within_of_fitOn?_turned (differ : video.isLandscape ≠ surface.isLandscape)
    (fit : video.fitOn? surface = some space)
    (fitTurned : video.fitOn? surface.turned = some room) : space.Within room := by
  obtain ⟨widthPos, heightPos⟩ := area_of_fitOn? fit
  obtain ⟨width, height⟩ := toNat_fitOn? fit
  obtain ⟨widthToo, heightToo⟩ := toNat_fitOn? fitTurned
  have across : surface.turned.width = surface.height := rfl
  have down : surface.turned.height = surface.width := rfl
  rw [within_iff, width, height, widthToo, heightToo, across, down]
  -- along the shorter side of the surface the video is shrunk before and enlarged afterwards
  cases landscape : video.isLandscape with
  | true =>
      have upright : ¬ surface.isLandscape = true := fun same => differ (landscape.trans same.symm)
      rw [isLandscape_iff] at landscape upright
      have sides : surface.width.toNat ≤ surface.height.toNat := Nat.le_of_not_lt upright
      have shrunk :=
        scale_le_self_and_self_le_scale heightPos (Nat.le_of_lt landscape) surface.width
      have grown := scale_mono sides video.height widthPos
      omega
  | false =>
      have lying : surface.isLandscape = true := by
        rw [landscape] at differ
        exact (Bool.not_eq_false _).mp differ.symm
      have upright : ¬ video.isLandscape = true := (Bool.not_eq_true _).mpr landscape
      rw [isLandscape_iff] at lying upright
      have shrunk :=
        scale_le_self_and_self_le_scale widthPos (Nat.le_of_not_lt upright) surface.height
      have grown := scale_mono (Nat.le_of_lt lying) video.width heightPos
      omega

end Size

/-! ## The space on a viewport -/

namespace Viewport

/-- The surface for a video is the viewport, or the turned viewport if it may be turned. -/
theorem surfaceFor_cases (viewport : Viewport) (video : Size) :
    viewport.surfaceFor video = viewport.surface ∨
      viewport.mayRotate = true ∧ viewport.surfaceFor video = viewport.surface.turned ∧
        video.isLandscape ≠ viewport.surface.isLandscape := by
  rw [surfaceFor]
  split
  · rename_i turns
    rw [Bool.and_eq_true, bne_iff_ne] at turns
    exact .inr ⟨turns.1, rfl, turns.2⟩
  · exact .inl rfl

/-- A viewport that may be turned leaves a video no less space. -/
theorem within_of_mayRotate {width height : UInt32} {video fixed free : Size}
    (fit : video.fitOn? ⟨width, height⟩ = some fixed)
    (fitFree : video.fitOn? (surfaceFor ⟨width, height, true⟩ video) = some free) :
    fixed.Within free := by
  obtain same | ⟨_, turned, differ⟩ := surfaceFor_cases ⟨width, height, true⟩ video
  · rw [same] at fitFree
    obtain rfl := Option.some.inj (fit.symm.trans fitFree)
    exact Size.within_iff.mpr ⟨Nat.le_refl _, Nat.le_refl _⟩
  · rw [turned] at fitFree
    exact Size.within_of_fitOn?_turned differ fit fitFree

/-- No product overflows on the way to the space for a video, and no number is changed by being
clamped. The space is inside the viewport, in the orientation that is chosen for the video, touches
it in one dimension, and has the other one from the exact aspect ratio, rounded up. A viewport that
may be turned leaves at least the space in both dimensions that it leaves if it may not be. -/
theorem fitOn?_surfaceFor_letterboxed (width height : UInt32) {video : Size}
    (wide : 0 < video.width) (high : 0 < video.height) :
    (∀ a b : UInt32, a.toNat * b.toNat < UInt64.size ∧
      (Size.product a b).toNat = a.toNat * b.toNat) ∧
    (∀ mayRotate, ∃ surface space,
      surfaceFor ⟨width, height, mayRotate⟩ video = surface ∧
      (surface = ⟨width, height⟩ ∨ mayRotate = true ∧ surface = ⟨height, width⟩) ∧
      video.fitOn? surface = some space ∧
      video.IsClampedInVainOn surface ∧
      video.LetterboxedOn surface space) ∧
    ∃ fixed free,
      video.fitOn? (surfaceFor ⟨width, height, false⟩ video) = some fixed ∧
      video.fitOn? (surfaceFor ⟨width, height, true⟩ video) = some free ∧
      fixed.width ≤ free.width ∧ fixed.height ≤ free.height := by
  rw [UInt32.lt_iff_toNat_lt] at wide high
  refine ⟨?_, ?_, ?_⟩
  · intro a b
    have fits := (Size.product a b).toNat_lt_size
    rw [Size.toNat_product] at fits
    exact ⟨fits, Size.toNat_product a b⟩
  · intro mayRotate
    obtain ⟨space, fit⟩ :=
      Size.exists_fitOn? wide high (surfaceFor ⟨width, height, mayRotate⟩ video)
    refine ⟨_, space, rfl, ?_, fit, Size.isClampedInVainOn wide high _,
      Size.letterboxedOn_of_fitOn? fit⟩
    obtain same | ⟨may, turned, _⟩ := surfaceFor_cases ⟨width, height, mayRotate⟩ video
    · exact .inl same
    · exact .inr ⟨may, turned⟩
  · obtain ⟨fixed, fit⟩ := Size.exists_fitOn? wide high ⟨width, height⟩
    obtain ⟨free, fitFree⟩ := Size.exists_fitOn? wide high (surfaceFor ⟨width, height, true⟩ video)
    have within := within_of_mayRotate fit fitFree
    exact ⟨fixed, free, fit, fitFree, within.width, within.height⟩

namespace Sample

/-- The greatest video that is not square. -/
def greatest : Size :=
  ⟨4294967295, 4294967294⟩

end Sample

/-- The greatest video on a viewport of its own size that is held upright. -/
theorem fitOn?_surfaceFor_letterboxed_greatest :
    (0 < Sample.greatest.width ∧ 0 < Sample.greatest.height) ∧
      Sample.greatest.fitOn? ⟨4294967294, 4294967295⟩ = some ⟨4294967294, 4294967294⟩ ∧
      Sample.greatest.LetterboxedOn ⟨4294967294, 4294967295⟩ ⟨4294967294, 4294967294⟩ ∧
      ∃ free,
        Sample.greatest.fitOn? (surfaceFor ⟨4294967294, 4294967295, true⟩ Sample.greatest) =
          some free ∧
        4294967294 ≤ free.width ∧ 4294967294 ≤ free.height := by
  have area : 0 < Sample.greatest.width ∧ 0 < Sample.greatest.height := by decide
  have narrow : Sample.greatest.fitOn? ⟨4294967294, 4294967295⟩ =
      some ⟨4294967294, 4294967294⟩ := by decide +kernel
  obtain ⟨_, boxed, fixed, free, fit, fitFree, within⟩ :=
    fitOn?_surfaceFor_letterboxed 4294967294 4294967295 area.1 area.2
  obtain ⟨_, space, rfl, _, fitToo, _, letterboxed⟩ := boxed false
  obtain rfl := Option.some.inj (narrow.symm.trans fit)
  obtain rfl := Option.some.inj (narrow.symm.trans fitToo)
  exact ⟨area, narrow, letterboxed, free, fitFree, within⟩

end Viewport

end TrackSelection
