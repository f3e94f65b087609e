import TrackSelection.Proofs.AdaptiveVideo

/-!
# Turned and filled viewports

A viewport that may be turned is laid along each video, landscape or portrait, so that it makes no
difference which of its own two dimensions is the longer one: the tracks worth showing stay the same
when the device is turned, whatever mixture of orientations a group holds. Of the tracks that fill a
viewport the smallest ones set a budget, and what is worth showing is exactly what is known to be
within it. Each track has to fill the space that its own aspect ratio leaves it, and only a track
with an area can; but a track without an area costs nothing and is within every budget.
-/

namespace TrackSelection

/-! ## Turned viewports -/

theorem Size.laidDown_turned (size : Size) : size.turned.laidDown = size.laidDown := by
  obtain ⟨longer, shorter⟩ := toNat_laidDown size
  obtain ⟨longerToo, shorterToo⟩ := toNat_laidDown size.turned
  have width : size.turned.laidDown.width = size.laidDown.width := by
    apply UInt32.toNat_inj.mp
    rw [longerToo, longer]
    exact Nat.max_comm size.height.toNat size.width.toNat
  have height : size.turned.laidDown.height = size.laidDown.height := by
    apply UInt32.toNat_inj.mp
    rw [shorterToo, shorter]
    exact Nat.min_comm size.height.toNat size.width.toNat
  show Size.mk size.turned.laidDown.width size.turned.laidDown.height = size.laidDown
  rw [width, height]

namespace Viewport

section Turned

variable (width height : UInt32)

/-- A video is shown on the same surface before and after the device is turned. -/
theorem surfaceFor_comm (video : Size) :
    surfaceFor ⟨width, height, true⟩ video = surfaceFor ⟨height, width, true⟩ video := by
  have turned : surface ⟨height, width, true⟩ = (surface ⟨width, height, true⟩).turned := rfl
  rw [surfaceFor_eq, surfaceFor_eq, if_pos rfl, if_pos rfl, turned, Size.stoodUp_eq,
    Size.stoodUp_eq, Size.laidDown_turned]

theorem budget?_comm (formats : List Format) :
    budget? ⟨width, height, true⟩ formats = budget? ⟨height, width, true⟩ formats := by
  have filling : filling? ⟨width, height, true⟩ = filling? ⟨height, width, true⟩ := by
    funext video
    rw [filling?, filling?, surfaceFor_comm]
  rw [budget?, budget?, filling]

/-- Turning a device changes nothing about which tracks are worth showing, if the viewport may be
turned. -/
theorem worthShowing_comm (group : TrackGroup) :
    worthShowing ⟨width, height, true⟩ group = worthShowing ⟨height, width, true⟩ group := by
  have set : isSet ⟨width, height, true⟩ = isSet ⟨height, width, true⟩ :=
    Bool.and_comm (width ≠ unlimited) (height ≠ unlimited)
  rw [worthShowing, worthShowing, set, budget?_comm]

end Turned

/-! ## Filled viewports -/

/-- A track of a group has this size, which has an area, and fills a viewport: neither dimension is
below almost all of what the aspect ratio of the track leaves it. -/
structure FilledBy (viewport : Viewport) (group : TrackGroup) (track : Nat) (video : Size) :
    Prop where
  known : ∃ format, group.formats[track]? = some format ∧
    format.width = some video.width ∧ format.height = some video.height
  width_pos : 0 < video.width
  height_pos : 0 < video.height
  fills : ∃ space, video.fitOn? (viewport.surfaceFor video) = some space ∧
    Size.almostAll space.width ≤ video.width.toNat ∧
    Size.almostAll space.height ≤ video.height.toNat

/-- A track fills a viewport, and no track of the group that fills it has fewer pixels. -/
structure SmallestFilling (viewport : Viewport) (group : TrackGroup) (track : Nat) (video : Size) :
    Prop where
  filled : viewport.FilledBy group track video
  least : ∀ other size, viewport.FilledBy group other size → video.pixels ≤ size.pixels

/-- A track of a group is known to have at most this many pixels. -/
def HasAtMost (group : TrackGroup) (pixels track : Nat) : Prop :=
  ∃ format count, group.formats[track]? = some format ∧ format.pixelCount = some count ∧
    count ≤ pixels

variable {viewport : Viewport} {group : TrackGroup} {track budget : Nat} {video : Size}

/-- A track fills the viewport if it counts for the budget. -/
theorem exists_filledBy_iff {pixels : Nat} :
    (∃ video, viewport.FilledBy group track video ∧ video.pixels = pixels) ↔
      ∃ format, group.formats[track]? = some format ∧
        format.size?.bind viewport.filling? = some pixels := by
  constructor
  · rintro ⟨video, ⟨⟨format, here, known⟩, _, _, space, fit, fills⟩, rfl⟩
    refine ⟨format, here, ?_⟩
    rw [Format.size?_eq_some_iff.mpr known, Option.bind_some, filling?_eq_some_iff]
    exact ⟨space, fit, Size.fills_iff.mpr fills, rfl⟩
  · rintro ⟨format, here, filling⟩
    obtain ⟨video, size, sized⟩ := Option.bind_eq_some_iff.mp filling
    obtain ⟨space, fit, fills, rfl⟩ := filling?_eq_some_iff.mp sized
    obtain ⟨widthPos, heightPos⟩ := Size.area_of_fitOn? fit
    exact ⟨video, ⟨⟨format, here, Format.size?_eq_some_iff.mp size⟩, widthPos, heightPos,
      space, fit, Size.fills_iff.mp fills⟩, rfl⟩

/-- The budget is the size of the smallest tracks that fill the viewport. -/
theorem budget?_eq_some_iff_smallestFilling :
    viewport.budget? group.formats = some budget ↔
      ∃ track video, viewport.SmallestFilling group track video ∧ video.pixels = budget := by
  rw [budget?_eq_some_iff]
  constructor
  · rintro ⟨⟨format, mem, filling⟩, least⟩
    obtain ⟨track, here⟩ := List.getElem?_of_mem mem
    obtain ⟨video, filled, rfl⟩ := exists_filledBy_iff.mpr ⟨format, here, filling⟩
    refine ⟨track, video, ⟨filled, ?_⟩, rfl⟩
    intro other size filledToo
    obtain ⟨second, there, fillingToo⟩ := exists_filledBy_iff.mp ⟨size, filledToo, rfl⟩
    exact least second (List.mem_of_getElem? there) size.pixels fillingToo
  · rintro ⟨track, video, smallest, rfl⟩
    obtain ⟨format, here, filling⟩ := exists_filledBy_iff.mp ⟨video, smallest.filled, rfl⟩
    refine ⟨⟨format, List.mem_of_getElem? here, filling⟩, ?_⟩
    intro second mem pixels fillingToo
    obtain ⟨other, there⟩ := List.getElem?_of_mem mem
    obtain ⟨size, filledToo, rfl⟩ := exists_filledBy_iff.mpr ⟨second, there, fillingToo⟩
    exact smallest.least other size filledToo

/-- There is no budget exactly if no track fills the viewport. -/
theorem budget?_eq_none_iff :
    viewport.budget? group.formats = none ↔
      ∀ track video, ¬ viewport.FilledBy group track video := by
  rw [budget?, List.min?_eq_none_iff, List.filterMap_eq_nil_iff]
  constructor
  · intro nothing track video filled
    obtain ⟨format, here, filling⟩ := exists_filledBy_iff.mp ⟨video, filled, rfl⟩
    rw [nothing format (List.mem_of_getElem? here)] at filling
    cases filling
  · intro unfilled format mem
    obtain ⟨track, here⟩ := List.getElem?_of_mem mem
    rw [Option.eq_none_iff_forall_ne_some]
    intro pixels filling
    obtain ⟨video, filled, _⟩ := exists_filledBy_iff.mpr ⟨format, here, filling⟩
    exact unfilled track video filled

theorem exists_smallestFilling (filled : viewport.FilledBy group track video) :
    ∃ smallest size, viewport.SmallestFilling group smallest size := by
  cases known : viewport.budget? group.formats with
  | none => exact absurd filled (budget?_eq_none_iff.mp known track video)
  | some budget =>
      obtain ⟨smallest, size, isSmallest, _⟩ := budget?_eq_some_iff_smallestFilling.mp known
      exact ⟨smallest, size, isSmallest⟩

theorem worthShowing_eq_range
    (free : viewport.isSet = true → viewport.budget? group.formats = none) :
    viewport.worthShowing group = List.range group.size := by
  rw [worthShowing]
  cases set : viewport.isSet with
  | false => rfl
  | true => rw [free set]; rfl

theorem hasAtMost_iff :
    HasAtMost group budget track ↔
      (group.formats[track]?.bind Format.pixelCount).any (· ≤ budget) = true := by
  simp only [HasAtMost, Option.any_eq_true, Option.bind_eq_some_iff, decide_eq_true_eq]
  constructor
  · rintro ⟨format, count, here, counted, few⟩
    exact ⟨count, ⟨format, here, counted⟩, few⟩
  · rintro ⟨count, ⟨format, here, counted⟩, few⟩
    exact ⟨format, count, here, counted, few⟩

theorem mem_worthShowing_iff_hasAtMost (set : viewport.isSet = true)
    (known : viewport.budget? group.formats = some budget) :
    track ∈ viewport.worthShowing group ↔ HasAtMost group budget track := by
  rw [mem_worthShowing, hasAtMost_iff]
  constructor
  · rintro ⟨_, affordable⟩
    exact affordable budget set known
  · intro affordable
    obtain ⟨format, _, here, _⟩ := hasAtMost_iff.mpr affordable
    refine ⟨(List.getElem?_eq_some_iff.mp here).1, ?_⟩
    intro other _ knownToo
    obtain rfl := Option.some.inj (known.symm.trans knownToo)
    exact affordable

/-- The smallest tracks that fill a viewport are worth showing. -/
theorem SmallestFilling.mem_worthShowing (smallest : viewport.SmallestFilling group track video)
    (set : viewport.isSet = true) : track ∈ viewport.worthShowing group := by
  have known := budget?_eq_some_iff_smallestFilling.mpr ⟨track, video, smallest, rfl⟩
  obtain ⟨format, here, filling⟩ := exists_filledBy_iff.mp ⟨video, smallest.filled, rfl⟩
  rw [mem_worthShowing_iff_hasAtMost set known]
  exact ⟨format, video.pixels, here, pixelCount_of_filling? filling, Nat.le_refl _⟩

/-- Some tracks are always worth showing, in ascending order. All are, if the viewport is not set or
nothing fills it. Otherwise there is a smallest track that fills it, which is worth showing, and so
are exactly the tracks that are known to have no more pixels. -/
theorem worthShowing_up_to_smallest (viewport : Viewport) (group : TrackGroup) :
    viewport.worthShowing group ≠ [] ∧
      (viewport.worthShowing group).Pairwise (· < ·) ∧
      (∀ track ∈ viewport.worthShowing group, track < group.size) ∧
      (viewport.width = unlimited ∨ viewport.height = unlimited →
        viewport.worthShowing group = List.range group.size) ∧
      (viewport.width ≠ unlimited ∧ viewport.height ≠ unlimited →
        ((∀ track video, ¬ viewport.FilledBy group track video) →
          viewport.worthShowing group = List.range group.size) ∧
        (∀ track video, viewport.FilledBy group track video →
          ∃ smallest size, viewport.SmallestFilling group smallest size) ∧
        ∀ smallest size, viewport.SmallestFilling group smallest size →
          smallest ∈ viewport.worthShowing group ∧
          ∀ track, track ∈ viewport.worthShowing group ↔ HasAtMost group size.pixels track) := by
  refine ⟨viewport.worthShowing_ne_nil group, viewport.pairwise_worthShowing group,
    fun track shown => (mem_worthShowing.mp shown).1, ?_, ?_⟩
  · intro unset
    apply worthShowing_eq_range
    intro set
    rw [isSet, Bool.and_eq_true, decide_eq_true_eq, decide_eq_true_eq] at set
    exact absurd unset (not_or.mpr set)
  · rintro ⟨width, height⟩
    have set : viewport.isSet = true := by
      rw [isSet, Bool.and_eq_true, decide_eq_true_eq, decide_eq_true_eq]
      exact ⟨width, height⟩
    refine ⟨?_, fun _ _ filled => exists_smallestFilling filled, ?_⟩
    · intro unfilled
      exact worthShowing_eq_range fun _ => budget?_eq_none_iff.mpr unfilled
    · intro smallest size isSmallest
      have known := budget?_eq_some_iff_smallestFilling.mpr ⟨smallest, size, isSmallest, rfl⟩
      exact ⟨isSmallest.mem_worthShowing set, fun _ => mem_worthShowing_iff_hasAtMost set known⟩

namespace Sample

/-- Two tracks with an area, one of unknown height and one without an area. -/
def patchy : TrackGroup where
  id := ⟨0⟩
  formats := [(1920, some 1080), (1280, some 720), (640, none), (0, some 480)].map fun size =>
    { width := some size.1, height := size.2 }
  nonempty := List.cons_ne_nil _ _

theorem filledBy_patchy : FilledBy ⟨1280, 720, false⟩ patchy 1 ⟨1280, 720⟩ where
  known := ⟨_, rfl, rfl, rfl⟩
  width_pos := by decide
  height_pos := by decide
  fills := ⟨⟨1280, 720⟩, by decide, by decide +kernel, by decide +kernel⟩

end Sample

theorem worthShowing_up_to_smallest_patchy :
    worthShowing ⟨1280, 720, false⟩ Sample.patchy = [1, 3] ∧
      ∃ smallest size, SmallestFilling ⟨1280, 720, false⟩ Sample.patchy smallest size ∧
        smallest ∈ [1, 3] ∧
        ∀ track, track ∈ [1, 3] ↔ HasAtMost Sample.patchy size.pixels track := by
  obtain ⟨_, _, _, _, whenSet⟩ := worthShowing_up_to_smallest ⟨1280, 720, false⟩ Sample.patchy
  obtain ⟨_, filled, budgeted⟩ := whenSet (by decide)
  have shown : worthShowing ⟨1280, 720, false⟩ Sample.patchy = [1, 3] := by decide +kernel
  obtain ⟨smallest, size, isSmallest⟩ := filled 1 _ Sample.filledBy_patchy
  rw [shown] at budgeted
  exact ⟨shown, smallest, size, isSmallest, budgeted smallest size isSmallest⟩

end Viewport

end TrackSelection
