import Mathlib.Algebra.Order.Floor.Div
import TrackSelection.Proofs.Tracks

/-!
# Larger viewports

Almost all of a dimension is a rounded product, and rounding keeps the order of numbers, also from
one number of dropped bits to the next. The words that the space for a video is computed with hold
the exact numbers. The space is bounded by the surface, and in each dimension by what the aspect
ratio makes of the other one, so it grows with both. A video that fills a viewport therefore fills
every smaller one, and the budget of pixels can only rise with the viewport or go away. The main
statement is that no track is lost to a larger viewport, whichever way it makes the videos turn.
-/

namespace TrackSelection

/-! ## Rounding -/

namespace Number

variable {num a b den precision : Nat}

/-- Rounding is off by half a unit at most. -/
theorem nearestEven_near (num : Nat) (positive : 0 < den) :
    2 * (nearestEven num den * den) ≤ 2 * num + den ∧
      2 * num ≤ 2 * (nearestEven num den * den) + den := by
  have parts := Nat.div_add_mod' num den
  have below := Nat.mod_lt num positive
  have next := Nat.add_one_mul (num / den) den
  unfold nearestEven
  dsimp only
  split
  · omega
  · split
    · omega
    · split <;> omega

theorem nearestEven_mono (positive : 0 < den) (le : a ≤ b) :
    nearestEven a den ≤ nearestEven b den := by
  obtain rfl | less := Nat.eq_or_lt_of_le le
  · exact Nat.le_refl _
  · apply Nat.le_of_not_lt
    intro more
    -- a step down is a whole unit, and two errors of half a unit do not make up for more
    have step := Nat.mul_le_mul_right den (Nat.succ_le_of_lt more)
    rw [Nat.succ_mul] at step
    have first := (nearestEven_near a positive).1
    have second := (nearestEven_near b positive).2
    omega

theorem nearestEven_mul (count : Nat) (positive : 0 < den) :
    nearestEven (count * den) den = count := by
  simp [nearestEven, Nat.mul_div_cancel count positive, positive]

theorem shiftLeft_mono {bits : Nat} (le : a ≤ b) : a <<< bits ≤ b <<< bits := by
  rw [Nat.shiftLeft_eq, Nat.shiftLeft_eq]
  exact Nat.mul_le_mul_right _ le

theorem one_shiftLeft_pos (bits : Nat) : 0 < 1 <<< bits := by
  rw [Nat.one_shiftLeft]
  exact Nat.two_pow_pos bits

theorem one_shiftLeft_mono {bits more : Nat} (le : bits ≤ more) : 1 <<< bits ≤ 1 <<< more := by
  rw [Nat.one_shiftLeft, Nat.one_shiftLeft]
  exact Nat.pow_le_pow_right Nat.two_pos le

/-- A power of two is left as it is if no more bits are dropped than it has zeros. -/
theorem nearestEven_one_shiftLeft {bits dropped : Nat} (le : dropped ≤ bits) :
    nearestEven (1 <<< bits) (1 <<< dropped) <<< dropped = 1 <<< bits := by
  have split : 1 <<< bits = 1 <<< (bits - dropped) * 1 <<< dropped := by
    calc 1 <<< bits = 1 <<< (bits - dropped) <<< dropped := by
          rw [← Nat.shiftLeft_add, Nat.sub_add_cancel le]
      _ = 1 <<< (bits - dropped) * 1 <<< dropped := by
          rw [Nat.shiftLeft_eq _ dropped, Nat.one_shiftLeft dropped]
  rw [split, nearestEven_mul _ (one_shiftLeft_pos dropped), ← Nat.shiftLeft_add,
    Nat.sub_add_cancel le, ← split]

theorem log2_mono (le : a ≤ b) : a.log2 ≤ b.log2 := by
  by_cases zero : a = 0
  · rw [zero]
    exact Nat.zero_le _
  · rw [Nat.le_log2 (by omega)]
    exact Nat.le_trans (Nat.log2_self_le zero) le

/-- Rounding to leading bits keeps the order. -/
theorem roundBits_mono (positive : 0 < precision) (le : a ≤ b) :
    roundBits precision a ≤ roundBits precision b := by
  have logs := log2_mono le
  simp only [roundBits, roundRatio, Nat.div_one]
  by_cases same : a.log2 = b.log2
  · rw [same]
    exact shiftLeft_mono (nearestEven_mono (one_shiftLeft_pos _) le)
  · -- the leading bit of the larger number lies between the two, and rounding leaves it there
    have larger : b ≠ 0 := by
      rintro rfl
      exact same (by rw [Nat.le_zero.mp le])
    have above : a ≤ 1 <<< b.log2 := by
      refine Nat.le_trans (Nat.le_of_lt Nat.lt_log2_self) ?_
      rw [← Nat.one_shiftLeft]
      exact one_shiftLeft_mono (by omega)
    have below : 1 <<< b.log2 ≤ b := by
      rw [Nat.one_shiftLeft]
      exact Nat.log2_self_le larger
    calc nearestEven a (1 <<< (a.log2 + 1 - precision)) <<< (a.log2 + 1 - precision)
        ≤ nearestEven (1 <<< b.log2) (1 <<< (a.log2 + 1 - precision)) <<<
            (a.log2 + 1 - precision) :=
          shiftLeft_mono (nearestEven_mono (one_shiftLeft_pos _) above)
      _ = 1 <<< b.log2 := nearestEven_one_shiftLeft (by omega)
      _ = nearestEven (1 <<< b.log2) (1 <<< (b.log2 + 1 - precision)) <<<
            (b.log2 + 1 - precision) := (nearestEven_one_shiftLeft (by omega)).symm
      _ ≤ nearestEven b (1 <<< (b.log2 + 1 - precision)) <<< (b.log2 + 1 - precision) :=
          shiftLeft_mono (nearestEven_mono (one_shiftLeft_pos _) below)

end Number

/-! ## The space for a video -/

namespace Size

variable {video surface larger space room : Size}

/-- No dimension of a size is greater than that of another. -/
structure Within (inner outer : Size) : Prop where
  width : inner.width ≤ outer.width
  height : inner.height ≤ outer.height

/-- The size with its longer dimension across. -/
def laidDown (size : Size) : Size :=
  if size.isLandscape then size else size.turned

/-- The size with its longer dimension upright. -/
def stoodUp (size : Size) : Size :=
  if size.isLandscape then size.turned else size

theorem within_iff : surface.Within larger ↔
    surface.width.toNat ≤ larger.width.toNat ∧ surface.height.toNat ≤ larger.height.toNat := by
  rw [← UInt32.le_iff_toNat_le, ← UInt32.le_iff_toNat_le]
  exact ⟨fun within => ⟨within.width, within.height⟩, fun le => ⟨le.1, le.2⟩⟩

theorem Within.turned (within : surface.Within larger) : surface.turned.Within larger.turned :=
  ⟨within.height, within.width⟩

theorem isLandscape_iff {size : Size} :
    size.isLandscape = true ↔ size.height.toNat < size.width.toNat := by
  rw [isLandscape, decide_eq_true_eq, UInt32.lt_iff_toNat_lt]

theorem toNat_laidDown (size : Size) :
    size.laidDown.width.toNat = max size.width.toNat size.height.toNat ∧
      size.laidDown.height.toNat = min size.width.toNat size.height.toNat := by
  unfold laidDown
  split
  · rename_i across
    rw [isLandscape_iff] at across
    omega
  · rename_i upright
    rw [isLandscape_iff] at upright
    show size.height.toNat = _ ∧ size.width.toNat = _
    omega

/-- The longer dimensions are ordered and so are the shorter ones, whichever dimensions they are. -/
theorem Within.laidDown (within : surface.Within larger) :
    surface.laidDown.Within larger.laidDown := by
  obtain ⟨longer, shorter⟩ := toNat_laidDown surface
  obtain ⟨longerToo, shorterToo⟩ := toNat_laidDown larger
  rw [within_iff] at within ⊢
  omega

theorem stoodUp_eq (size : Size) : size.stoodUp = size.laidDown.turned := by
  unfold stoodUp laidDown
  split <;> rfl

theorem Within.stoodUp (within : surface.Within larger) :
    surface.stoodUp.Within larger.stoodUp := by
  rw [stoodUp_eq, stoodUp_eq]
  exact within.laidDown.turned

/-- A product of two dimensions does not overflow. -/
theorem toNat_product (a b : UInt32) : (product a b).toNat = a.toNat * b.toNat := by
  have bound : a.toNat * b.toNat < UInt32.size * UInt32.size :=
    Nat.mul_lt_mul_of_lt_of_lt a.toNat_lt_size b.toNat_lt_size
  rw [product, UInt64.toNat_mul, UInt32.toNat_toUInt64, UInt32.toNat_toUInt64]
  exact Nat.mod_eq_of_lt bound

theorem ceilDiv_eq_ite (num : Nat) {den : Nat} (positive : 0 < den) :
    num ⌈/⌉ den = if num % den = 0 then num / den else num / den + 1 := by
  have parts := Nat.div_add_mod' num den
  have below := Nat.mod_lt num positive
  have next := Nat.add_one_mul (num / den) den
  rw [Nat.ceilDiv_eq_add_pred_div]
  split
  · apply Nat.div_eq_of_lt_le <;> omega
  · have last := Nat.add_one_mul (num / den + 1) den
    apply Nat.div_eq_of_lt_le <;> omega

theorem toNat_ceilDiv (num : UInt64) {den : UInt64} (positive : 0 < den.toNat) :
    (ceilDiv num den).toNat = num.toNat ⌈/⌉ den.toNat := by
  have divides : num % den = 0 ↔ num.toNat % den.toNat = 0 := by
    rw [← UInt64.toNat_mod, ← UInt64.toNat_inj, UInt64.toNat_zero]
  rw [ceilDiv, ceilDiv_eq_ite _ positive]
  by_cases whole : num % den = 0
  · rw [if_pos whole, if_pos (divides.mp whole), UInt64.toNat_div]
  · have rest : num.toNat % den.toNat ≠ 0 := fun zero => whole (divides.mpr zero)
    -- something is left over, so the divisor is more than one and there is room for another one
    have many : den.toNat ≠ 1 := by
      intro one
      exact rest (by rw [one, Nat.mod_one])
    have nonzero : num.toNat ≠ 0 := by
      intro zero
      exact rest (by rw [zero, Nat.zero_mod])
    have room : num.toNat / den.toNat < num.toNat := Nat.div_lt_self (by omega) (by omega)
    rw [if_neg whole, if_neg rest, UInt64.toNat_add, UInt64.toNat_div]
    exact Nat.mod_eq_of_lt (Nat.lt_of_le_of_lt room num.toNat_lt)

/-- Scaling is exact up to the rounding. -/
theorem toNat_scale (dimension num : UInt32) {den : UInt32} (positive : 0 < den.toNat) :
    (scale dimension num den).toNat = (dimension.toNat * num.toNat) ⌈/⌉ den.toNat := by
  have word : den.toUInt64.toNat = den.toNat := UInt32.toNat_toUInt64 den
  rw [scale, toNat_ceilDiv _ (word.symm ▸ positive), toNat_product, word]

theorem toNat_clamp {count : UInt64} {bound : UInt32} (le : count.toNat ≤ bound.toNat) :
    (clamp count).toNat = count.toNat := by
  have small : count.toNat < UInt32.size := Nat.lt_of_le_of_lt le bound.toNat_lt_size
  have same : clamp count = UInt32.ofNatLT count.toNat small := dif_pos small
  rw [same, UInt32.toNat_ofNatLT]

/-- Scaling keeps the order of dimensions. -/
theorem scale_mono {dimension more : UInt32} (le : dimension.toNat ≤ more.toNat) (num : UInt32)
    {den : UInt32} (positive : 0 < den.toNat) :
    (scale dimension num den).toNat ≤ (scale more num den).toNat := by
  rw [toNat_scale _ _ positive, toNat_scale _ _ positive]
  exact (gc_mul_ceilDiv positive).monotone_l (Nat.mul_le_mul_right num.toNat le)

/-- Where `x` to `y` is no more than `a` to `b`, scaling `x` gives `y` at most, and scaling `y`
gives `x` at least. -/
theorem scale_le_and_le_scale {a b x y : UInt32} (aPos : 0 < a.toNat) (bPos : 0 < b.toNat)
    (le : product b x ≤ product a y) :
    (scale x b a).toNat ≤ y.toNat ∧ x.toNat ≤ (scale y a b).toNat := by
  rw [UInt64.le_iff_toNat_le, toNat_product, toNat_product] at le
  rw [toNat_scale _ _ aPos, toNat_scale _ _ bPos]
  constructor
  · rw [ceilDiv_le_iff_le_mul aPos, Nat.mul_comm x.toNat]
    exact le
  · have reached := (ceilDiv_le_iff_le_mul bPos).mp (Nat.le_refl ((y.toNat * a.toNat) ⌈/⌉ b.toNat))
    rw [Nat.mul_comm y.toNat] at reached
    rw [Nat.mul_comm y.toNat]
    exact Nat.le_of_mul_le_mul_left (Nat.le_trans le reached) bPos

theorem toNat_pos {dimension : UInt32} (nonzero : dimension ≠ 0) : 0 < dimension.toNat := by
  apply Nat.pos_of_ne_zero
  intro zero
  exact nonzero (UInt32.toNat_inj.mp zero)

theorem area_of_fitOn? (fit : video.fitOn? surface = some space) :
    0 < video.width.toNat ∧ 0 < video.height.toNat := by
  have area : ¬(video.width = 0 ∨ video.height = 0) := by
    intro flat
    rw [fitOn?_eq_none_iff.mpr flat] at fit
    cases fit
  obtain ⟨width, height⟩ := not_or.mp area
  exact ⟨toNat_pos width, toNat_pos height⟩

/-- In either dimension a video takes what the surface has or what the other dimension of the
surface leaves it by the aspect ratio, whichever is less. -/
theorem toNat_fitOn? (fit : video.fitOn? surface = some space) :
    space.width.toNat = min surface.width.toNat
        (scale surface.height video.width video.height).toNat ∧
      space.height.toNat = min surface.height.toNat
        (scale surface.width video.height video.width).toNat := by
  obtain ⟨widthPos, heightPos⟩ := area_of_fitOn? fit
  unfold fitOn? at fit
  split at fit
  · cases fit
  · split at fit
    · rename_i wide
      obtain rfl := Option.some.inj fit
      obtain ⟨height, width⟩ := scale_le_and_le_scale widthPos heightPos wide
      rw [toNat_clamp height, Nat.min_eq_right height]
      exact ⟨(Nat.min_eq_left width).symm, rfl⟩
    · rename_i tall
      obtain rfl := Option.some.inj fit
      obtain ⟨width, height⟩ := scale_le_and_le_scale heightPos widthPos
        (UInt64.le_of_lt (UInt64.not_le.mp tall))
      rw [toNat_clamp width, Nat.min_eq_right width]
      exact ⟨rfl, (Nat.min_eq_left height).symm⟩

/-- A larger surface leaves a video no less space. -/
theorem Within.fitOn? (within : surface.Within larger) (fit : video.fitOn? surface = some space)
    (fitToo : video.fitOn? larger = some room) : space.Within room := by
  obtain ⟨widthPos, heightPos⟩ := area_of_fitOn? fit
  obtain ⟨width, height⟩ := toNat_fitOn? fit
  obtain ⟨widthToo, heightToo⟩ := toNat_fitOn? fitToo
  obtain ⟨wider, higher⟩ := within_iff.mp within
  have across := scale_mono higher video.width heightPos
  have down := scale_mono wider video.height widthPos
  rw [within_iff, width, widthToo, height, heightToo]
  omega

theorem exists_fitOn? (width : 0 < video.width.toNat) (height : 0 < video.height.toNat)
    (surface : Size) : ∃ space, video.fitOn? surface = some space := by
  cases fit : video.fitOn? surface with
  | some space => exact ⟨space, rfl⟩
  | none =>
      obtain zero | zero := fitOn?_eq_none_iff.mp fit
      · rw [zero] at width
        cases width
      · rw [zero] at height
        cases height

theorem almostAll_mono {dimension more : UInt32} (le : dimension ≤ more) :
    almostAll dimension ≤ almostAll more := by
  have precise : 0 < 24 := by decide
  have rounded := Number.roundBits_mono precise (UInt32.le_iff_toNat_le.mp le)
  have product := Number.roundBits_mono precise (Nat.mul_le_mul_right fullScreenFraction rounded)
  rw [almostAll, almostAll, Nat.shiftRight_eq_div_pow, Nat.shiftRight_eq_div_pow]
  exact Nat.div_le_div_right product

theorem fills_iff : video.fills space = true ↔
    almostAll space.width ≤ video.width.toNat ∧ almostAll space.height ≤ video.height.toNat := by
  rw [fills, Bool.and_eq_true, decide_eq_true_eq, decide_eq_true_eq]

/-- A video that fills a space fills a smaller one. -/
theorem Within.fills (within : space.Within room) (fills : video.fills room = true) :
    video.fills space = true := by
  obtain ⟨wide, high⟩ := fills_iff.mp fills
  exact fills_iff.mpr ⟨Nat.le_trans (almostAll_mono within.width) wide,
    Nat.le_trans (almostAll_mono within.height) high⟩

end Size

theorem Format.size?_eq_some_iff {format : Format} {video : Size} :
    format.size? = some video ↔
      format.width = some video.width ∧ format.height = some video.height := by
  rw [size?]
  cases width : format.width with
  | none => simp
  | some w =>
      cases height : format.height with
      | none => simp
      | some h =>
          rw [Option.some.injEq, Option.some.injEq, Option.some.injEq]
          constructor
          · rintro rfl
            exact ⟨rfl, rfl⟩
          · rintro ⟨rfl, rfl⟩
            rfl

/-! ## The tracks worth showing -/

namespace Viewport

variable {viewport larger : Viewport} {video : Size} {pixels : Nat} {group : TrackGroup}

def surface (viewport : Viewport) : Size :=
  ⟨viewport.width, viewport.height⟩

/-- A viewport that may be turned is, so that its longer dimension is that of the video. -/
theorem surfaceFor_eq (viewport : Viewport) (video : Size) :
    viewport.surfaceFor video =
      if viewport.mayRotate then
        if video.isLandscape then viewport.surface.laidDown else viewport.surface.stoodUp
      else viewport.surface := by
  show (if viewport.mayRotate && video.isLandscape != viewport.surface.isLandscape then
    viewport.surface.turned else viewport.surface) = _
  cases viewport.mayRotate with
  | false => rfl
  | true =>
      cases orientation : viewport.surface.isLandscape <;> cases video.isLandscape <;>
        simp [Size.laidDown, Size.stoodUp, orientation]

theorem within_surfaceFor (within : viewport.surface.Within larger.surface)
    (rotate : viewport.mayRotate = larger.mayRotate) (video : Size) :
    (viewport.surfaceFor video).Within (larger.surfaceFor video) := by
  rw [surfaceFor_eq, surfaceFor_eq, rotate]
  split
  · split
    · exact within.laidDown
    · exact within.stoodUp
  · exact within

theorem filling?_eq_some_iff :
    viewport.filling? video = some pixels ↔
      ∃ space, video.fitOn? (viewport.surfaceFor video) = some space ∧
        video.fills space = true ∧ video.pixels = pixels := by
  unfold filling?
  cases video.fitOn? (viewport.surfaceFor video) with
  | none => simp
  | some space => simp

/-- A video that fills a viewport fills a smaller one. -/
theorem filling?_of_within (within : viewport.surface.Within larger.surface)
    (rotate : viewport.mayRotate = larger.mayRotate)
    (filling : larger.filling? video = some pixels) :
    viewport.filling? video = some pixels := by
  obtain ⟨room, fitToo, fills, same⟩ := filling?_eq_some_iff.mp filling
  obtain ⟨width, height⟩ := Size.area_of_fitOn? fitToo
  obtain ⟨space, fit⟩ := Size.exists_fitOn? width height (viewport.surfaceFor video)
  have inside := (within_surfaceFor within rotate video).fitOn? fit fitToo
  exact filling?_eq_some_iff.mpr ⟨space, fit, inside.fills fills, same⟩

theorem budget?_eq_some_iff {formats : List Format} {budget : Nat} :
    viewport.budget? formats = some budget ↔
      (∃ format ∈ formats, format.size?.bind viewport.filling? = some budget) ∧
        ∀ format ∈ formats, ∀ other, format.size?.bind viewport.filling? = some other →
          budget ≤ other := by
  simp only [budget?, List.min?_eq_some_iff, List.mem_filterMap]
  constructor
  · rintro ⟨some, least⟩
    exact ⟨some, fun format mem other fills => least other ⟨format, mem, fills⟩⟩
  · rintro ⟨some, least⟩
    refine ⟨some, ?_⟩
    rintro other ⟨format, mem, fills⟩
    exact least format mem other fills

/-- Where a larger viewport has a budget, a smaller one has a budget that is no greater. -/
theorem exists_budget?_le (within : viewport.surface.Within larger.surface)
    (rotate : viewport.mayRotate = larger.mayRotate) {formats : List Format} {budget : Nat}
    (known : larger.budget? formats = some budget) :
    ∃ less, viewport.budget? formats = some less ∧ less ≤ budget := by
  obtain ⟨⟨format, mem, filling⟩, _⟩ := budget?_eq_some_iff.mp known
  have fillsToo : format.size?.bind viewport.filling? = some budget := by
    obtain ⟨video, size, fills⟩ := Option.bind_eq_some_iff.mp filling
    rw [size, Option.bind_some]
    exact filling?_of_within within rotate fills
  cases knownToo : viewport.budget? formats with
  | none =>
      have nothing := List.filterMap_eq_nil_iff.mp (List.min?_eq_none_iff.mp knownToo) format mem
      rw [fillsToo] at nothing
      cases nothing
  | some less =>
      exact ⟨less, rfl, (budget?_eq_some_iff.mp knownToo).2 format mem budget fillsToo⟩

/-- A track is worth showing unless a set viewport has a budget that it is beyond. -/
theorem mem_worthShowing {track : Nat} :
    track ∈ viewport.worthShowing group ↔
      track < group.size ∧ ∀ budget, viewport.isSet = true →
        viewport.budget? group.formats = some budget →
          (group.formats[track]?.bind Format.pixelCount).any (· ≤ budget) = true := by
  unfold worthShowing
  dsimp only
  cases viewport.isSet with
  | false => simp
  | true =>
      cases viewport.budget? group.formats with
      | none => simp
      | some budget => simp [List.mem_filter]

theorem isSet_of_within (within : viewport.surface.Within larger.surface)
    (set : larger.isSet = true) : viewport.isSet = true := by
  have least {dimension more : UInt32} (le : dimension ≤ more) (known : more ≠ unlimited) :
      dimension ≠ unlimited := by
    rintro rfl
    apply known
    apply UInt32.toNat_inj.mp
    have bound := more.toNat_lt_size
    rw [UInt32.le_iff_toNat_le] at le
    have top : unlimited.toNat + 1 = UInt32.size := rfl
    omega
  simp only [isSet, Bool.and_eq_true, decide_eq_true_eq] at set ⊢
  exact ⟨least within.width set.1, least within.height set.2⟩

/-- A viewport that is at least as wide and as high as another shows every track that the other
shows. -/
theorem worthShowing_subset_of_le {width width' height height' : UInt32} (wider : width ≤ width')
    (higher : height ≤ height') (mayRotate : Bool) (group : TrackGroup) :
    Viewport.worthShowing ⟨width, height, mayRotate⟩ group ⊆
      Viewport.worthShowing ⟨width', height', mayRotate⟩ group := by
  have within : (Viewport.mk width height mayRotate).surface.Within
      (Viewport.mk width' height' mayRotate).surface := ⟨wider, higher⟩
  intro track shown
  obtain ⟨inside, affordable⟩ := mem_worthShowing.mp shown
  refine mem_worthShowing.mpr ⟨inside, ?_⟩
  intro budget set known
  obtain ⟨less, knownToo, le⟩ := exists_budget?_le within rfl known
  obtain ⟨pixels, counted, few⟩ := (Option.any_eq_true ..).mp
    (affordable less (isSet_of_within within set) knownToo)
  rw [counted, Option.any_some, decide_eq_true_eq]
  exact Nat.le_trans (of_decide_eq_true few) le

namespace Sample

def ladder : TrackGroup where
  id := ⟨0⟩
  formats := [(854, 480), (1280, 720), (1920, 1080)].map fun size =>
    { width := some size.1, height := some size.2 }
  nonempty := List.cons_ne_nil _ _

end Sample

/-- A portrait viewport is made wider until it is a landscape one. -/
theorem worthShowing_subset_of_le_ladder :
    ((720 : UInt32) ≤ 1920 ∧ (1280 : UInt32) ≤ 1280) ∧
      Viewport.worthShowing ⟨720, 1280, true⟩ Sample.ladder = [0, 1] ∧
      [0, 1] ⊆ Viewport.worthShowing ⟨1920, 1280, true⟩ Sample.ladder := by
  have shown : Viewport.worthShowing ⟨720, 1280, true⟩ Sample.ladder = [0, 1] := by decide +kernel
  have kept := @worthShowing_subset_of_le 720 1920 1280 1280 (by decide) (by decide) true
    Sample.ladder
  rw [shown] at kept
  exact ⟨by decide, shown, kept⟩

end Viewport

end TrackSelection
