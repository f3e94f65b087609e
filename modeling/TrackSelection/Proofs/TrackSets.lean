import TrackSelection.Proofs.AdaptiveAgreement

/-!
# Adaptive levels of sets of tracks

How well playback moves between tracks is worked out along a list: the least level of the tracks so
far, and whether a MIME type differs from that of the first. What comes out depends on the set of
the tracks alone, and more tracks are never moved between better than fewer. So the level of all
tracks that can be played is at most that of the tracks that are fully handled, as soon as there is
one of these.
-/

namespace TrackSelection

namespace AdaptiveSupport

theorem rank_injective {a b : AdaptiveSupport} : a.rank = b.rank → a = b := by
  cases a <;> cases b <;> decide

instance : Std.IsLinearOrder AdaptiveSupport where
  le_refl a := Nat.le_refl a.rank
  le_trans _ _ _ := Nat.le_trans
  le_antisymm _ _ above below := rank_injective (Nat.le_antisymm above below)
  le_total a b := Nat.le_total a.rank b.rank

end AdaptiveSupport

namespace MappedGroup

variable {mapped : MappedGroup}

/-! ## More tracks, lower levels -/

theorem exists_adaptiveSupportOf?_le {fewer more : List Nat} (nonempty : fewer ≠ [])
    (inside : ∀ track ∈ more, track < mapped.group.size) (subset : fewer ⊆ more)
    (mixed : AdaptiveSupport) :
    ∃ level lower, mapped.adaptiveSupportOf? mixed fewer = some level ∧
      mapped.adaptiveSupportOf? mixed more = some lower ∧ lower ≤ level := by
  have insideToo : ∀ track ∈ fewer, track < mapped.group.size :=
    fun track mem => inside track (subset mem)
  have nonemptyToo : more ≠ [] := by
    rintro rfl
    exact nonempty (List.subset_nil.mp subset)
  obtain ⟨level, found, reaches⟩ := exists_adaptiveSupportOf? insideToo nonempty mixed
  obtain ⟨lower, foundToo, reachesToo⟩ := exists_adaptiveSupportOf? inside nonemptyToo mixed
  -- what the lower level needs of all tracks, it needs of fewer
  obtain ⟨each, types⟩ := (reachesToo lower).mp (Std.le_refl lower)
  refine ⟨level, lower, found, foundToo, (reaches lower).mpr ⟨?_, ?_⟩⟩
  · exact fun track mem => each track (subset mem)
  · exact types.imp_right fun one => one.mono fun _ mem => subset mem

/-! ## The tracks that can be played -/

/-- The positions of the tracks that can be played, beyond what the renderer promises if these are
to be included. -/
def playable (mapped : MappedGroup) (includeExceeding : Bool) : List Nat :=
  (List.range mapped.tracks.length).filter fun track =>
    mapped.tracks[track]?.any fun entry => entry.2.isSupported includeExceeding

theorem mem_playable {includeExceeding : Bool} {track : Nat} :
    track ∈ mapped.playable includeExceeding ↔
      ∃ capabilities, mapped.capabilities[track]? = some capabilities ∧
        capabilities.isSupported includeExceeding = true := by
  rw [playable, List.mem_filter, List.mem_range, Option.any_eq_true]
  constructor
  · rintro ⟨_, ⟨format, capabilities⟩, here, supported⟩
    exact ⟨capabilities, (getElem?_tracks.mp here).2, supported⟩
  · rintro ⟨capabilities, reported, supported⟩
    obtain ⟨bound, _⟩ := List.getElem?_eq_some_iff.mp reported
    rw [mapped.covers] at bound
    obtain ⟨format, others, here⟩ := exists_tracks_of_lt bound
    obtain rfl := Option.some.inj (reported.symm.trans (getElem?_tracks.mp here).2)
    exact ⟨by rwa [length_tracks], _, here, supported⟩

theorem adaptiveSupportOf?_playable (mapped : MappedGroup) (mixed : AdaptiveSupport)
    (includeExceeding : Bool) :
    mapped.adaptiveSupportOf? mixed (mapped.playable includeExceeding) =
      some (mapped.adaptiveSupport mixed includeExceeding) := by
  rw [adaptiveSupportOf?, playable, mapM_filter_range_getElem?, Option.map_some, adaptiveSupport]

theorem adaptiveSupport_le (mixed : AdaptiveSupport)
    (handled : ∃ capabilities ∈ mapped.capabilities, capabilities.isHandled = true) :
    mapped.adaptiveSupport mixed true ≤ mapped.adaptiveSupport mixed false := by
  obtain ⟨capabilities, mem, full⟩ := handled
  obtain ⟨track, here⟩ := List.getElem?_of_mem mem
  have first : track ∈ mapped.playable false :=
    mem_playable.mpr ⟨capabilities, here, Capabilities.isSupported_of_isHandled full false⟩
  have inside : ∀ track ∈ mapped.playable true, track < mapped.group.size := by
    intro track mem
    obtain ⟨_, reported, _⟩ := mem_playable.mp mem
    rw [← mapped.covers]
    exact (List.getElem?_eq_some_iff.mp reported).1
  have subset : mapped.playable false ⊆ mapped.playable true := by
    intro track mem
    obtain ⟨reported, there, supported⟩ := mem_playable.mp mem
    have full : reported.isHandled = true := by simpa [Capabilities.isSupported] using supported
    exact mem_playable.mpr ⟨reported, there, Capabilities.isSupported_of_isHandled full true⟩
  obtain ⟨level, lower, found, foundToo, le⟩ :=
    exists_adaptiveSupportOf?_le (List.ne_nil_of_mem first) inside subset mixed
  rw [adaptiveSupportOf?_playable] at found foundToo
  cases found
  cases foundToo
  exact le

end MappedGroup

/-! ## Levels that a mapping finds -/

namespace Mapping

/-- How well a renderer moves between tracks of one of its groups. A level is reached exactly if it
is for each track, and between MIME types too unless the tracks have the same; so it depends on the
set of the tracks alone, and more of them are moved between no better. All playable tracks of a
group with a handled one are moved between no better than the handled ones. -/
theorem adaptiveSupport_of_track_sets {mapping : Mapping} {i groupIndex : Nat}
    {renderer : MappedRenderer} {mapped : MappedGroup}
    (here : mapping.renderers[i]? = some renderer)
    (there : renderer.groups[groupIndex]? = some mapped) :
    (∀ tracks : List Nat, tracks ≠ [] → (∀ track ∈ tracks, track < mapped.group.size) →
      ∃ level, mapping.adaptiveSupportOf? i groupIndex tracks = some level ∧
        ∀ required : AdaptiveSupport, required ≤ level ↔
          (∀ track ∈ tracks, ∃ capabilities, mapped.capabilities[track]? = some capabilities ∧
            required ≤ capabilities.adaptive) ∧
          (required ≤ renderer.mixedMimeTypes ∨ VideoTrack.OneMimeType mapped.group tracks)) ∧
    (∀ fewer more : List Nat, fewer ≠ [] → (∀ track ∈ more, track < mapped.group.size) →
      fewer ⊆ more →
      ∃ level lower, mapping.adaptiveSupportOf? i groupIndex fewer = some level ∧
        mapping.adaptiveSupportOf? i groupIndex more = some lower ∧ lower ≤ level ∧
        (more ⊆ fewer → lower = level)) ∧
    ((∃ capabilities ∈ mapped.capabilities, capabilities.format = .handled) →
      mapped.adaptiveSupport renderer.mixedMimeTypes true ≤
        mapped.adaptiveSupport renderer.mixedMimeTypes false) := by
  refine ⟨?_, ?_, ?_⟩
  · intro tracks nonempty inside
    rw [adaptiveSupportOf?_eq here there nonempty]
    exact MappedGroup.exists_adaptiveSupportOf? inside nonempty renderer.mixedMimeTypes
  · intro fewer more nonempty inside subset
    have nonemptyToo : more ≠ [] := by
      rintro rfl
      exact nonempty (List.subset_nil.mp subset)
    obtain ⟨level, lower, found, foundToo, le⟩ :=
      MappedGroup.exists_adaptiveSupportOf?_le nonempty inside subset renderer.mixedMimeTypes
    refine ⟨level, lower, ?_, ?_, le, fun superset => ?_⟩
    · rw [adaptiveSupportOf?_eq here there nonempty, found]
    · rw [adaptiveSupportOf?_eq here there nonemptyToo, foundToo]
    · -- the two sets are the same, so that each level is at most the other
      obtain ⟨lower', level', foundLower, foundLevel, ge⟩ :=
        MappedGroup.exists_adaptiveSupportOf?_le nonemptyToo
          (fun track mem => inside track (subset mem)) superset renderer.mixedMimeTypes
      obtain rfl := Option.some.inj (foundToo.symm.trans foundLower)
      obtain rfl := Option.some.inj (found.symm.trans foundLevel)
      exact Std.le_antisymm le ge
  · rintro ⟨capabilities, mem, full⟩
    exact MappedGroup.adaptiveSupport_le _ ⟨capabilities, mem, decide_eq_true full⟩

namespace Sample

/-- A film in two codecs. Two of its tracks are handled, the others exceed what is promised. -/
def reissue : MappedGroup where
  group := {
    id := ⟨0⟩
    formats := ["video/avc", "video/hevc", "video/avc", "video/hevc"].map fun type =>
      { sampleMimeType := some type }
    nonempty := List.cons_ne_nil _ _ }
  capabilities := [
    { format := .handled, adaptive := .seamless },
    { format := .exceedsCapabilities, adaptive := .seamless },
    { format := .handled, adaptive := .seamless },
    { format := .exceedsCapabilities, adaptive := .notSeamless }]
  covers := rfl

/-- A renderer that was given this film, and moves between codecs with a break. -/
def cinema : Mapping where
  renderers := [
    { name := "cinema", trackType := .video, mixedMimeTypes := .notSeamless, groups := [reissue] }]
  unmapped := []

end Sample

/-- Two tracks of one codec, in two orders and together with the other codec. -/
theorem adaptiveSupport_of_track_sets_reissue :
    (∃ level, Sample.cinema.adaptiveSupportOf? 0 0 [2, 0] = some level ∧ .seamless ≤ level) ∧
    (∃ level lower, Sample.cinema.adaptiveSupportOf? 0 0 [2, 0] = some level ∧
      Sample.cinema.adaptiveSupportOf? 0 0 [0, 1, 2] = some lower ∧ lower ≤ level ∧
      lower ≠ level) ∧
    (∃ level lower, Sample.cinema.adaptiveSupportOf? 0 0 [2, 0] = some level ∧
      Sample.cinema.adaptiveSupportOf? 0 0 [0, 2, 0] = some lower ∧ lower = level) ∧
    Sample.reissue.adaptiveSupport .notSeamless true ≤
      Sample.reissue.adaptiveSupport .notSeamless false := by
  obtain ⟨reached, sets, handled⟩ := adaptiveSupport_of_track_sets
    (rfl : Sample.cinema.renderers[0]? = some _) (rfl : [Sample.reissue][0]? = some _)
  refine ⟨?_, ?_, ?_, ?_⟩
  · obtain ⟨level, found, reaches⟩ := reached [2, 0] (by decide) (by decide)
    refine ⟨level, found, (reaches .seamless).mpr ⟨?_, .inr (by decide)⟩⟩
    rw [List.forall_mem_cons, List.forall_mem_singleton]
    exact ⟨⟨_, rfl, by decide⟩, _, rfl, by decide⟩
  · obtain ⟨level, lower, found, foundToo, le, _⟩ :=
      sets [2, 0] [0, 1, 2] (by decide) (by decide) (by decide)
    refine ⟨level, lower, found, foundToo, le, ?_⟩
    rintro rfl
    exact absurd (found.trans foundToo.symm) (by decide)
  · obtain ⟨level, lower, found, foundToo, _, same⟩ :=
      sets [2, 0] [0, 2, 0] (by decide) (by decide) (by decide)
    exact ⟨level, lower, found, foundToo, same (by decide)⟩
  · exact handled ⟨_, List.mem_cons_self, rfl⟩

end Mapping

end TrackSelection
