import TrackSelection.Mapping.Support
import TrackSelection.Proofs.AdaptiveVideo
import TrackSelection.Proofs.CheckedChoice

/-!
# Selections that a mapping finds adaptive too

How well playback can move between tracks is worked out twice. A mapping takes the least level of
the tracks, and no more than the renderer has for mixed MIME types where theirs differ. A choice of
video asks every track for the level that is required, and keeps to one type unless the renderer
moves between types as well as that. The main statement is that a mapping never finds less than was
required in a selection of several tracks from a group whose formats have MIME types.
-/

namespace TrackSelection

/-! ## The least of some levels -/

namespace AdaptiveSupport

theorem le_min_iff (a b c : AdaptiveSupport) : c ≤ min a b ↔ c ≤ a ∧ c ≤ b := by
  show c.rank ≤ (if a.rank ≤ b.rank then a else b).rank ↔ c.rank ≤ a.rank ∧ c.rank ≤ b.rank
  split <;> omega

theorem le_seamless (level : AdaptiveSupport) : level ≤ .seamless := by
  cases level <;> decide

variable {level start mixed : AdaptiveSupport} {tracks : List (Format × Capabilities)}

theorem le_foldl_min_iff :
    level ≤ tracks.foldl (fun least track => min least track.2.adaptive) start ↔
      level ≤ start ∧ ∀ track ∈ tracks, level ≤ track.2.adaptive := by
  induction tracks generalizing start with
  | nil => simp
  | cons first rest ih =>
      rw [List.foldl_cons, ih, le_min_iff, List.forall_mem_cons, and_assoc]

/-- Playback moves between tracks as well as a level exactly if it moves so to each of them, and
between MIME types too unless they have the same. -/
theorem le_ofTracks_iff (some : tracks ≠ []) :
    level ≤ ofTracks mixed tracks ↔
      (∀ track ∈ tracks, level ≤ track.2.adaptive) ∧
        (level ≤ mixed ∨
          ∀ a ∈ tracks, ∀ b ∈ tracks, a.1.sampleMimeType = b.1.sampleMimeType) := by
  cases tracks with
  | nil => exact absurd rfl some
  | cons first rest =>
      have least := @le_foldl_min_iff level .seamless (first :: rest)
      rw [and_iff_right (le_seamless level)] at least
      unfold ofTracks
      dsimp only
      split
      · rename_i differ
        obtain ⟨other, mem, apart⟩ := List.any_eq_true.mp differ
        rw [le_min_iff, least]
        refine and_congr_right fun _ => (or_iff_left fun same => ?_).symm
        exact of_decide_eq_true apart
          (same other (List.mem_cons_of_mem first mem) first List.mem_cons_self)
      · rename_i alike
        have same : ∀ a ∈ first :: rest, a.1.sampleMimeType = first.1.sampleMimeType := by
          intro a mem
          rcases List.mem_cons.mp mem with rfl | later
          · rfl
          · apply Decidable.byContradiction
            intro apart
            exact alike (List.any_eq_true.mpr ⟨a, later, decide_eq_true apart⟩)
        rw [least, and_iff_left]
        exact .inr fun a ha b hb => (same a ha).trans (same b hb).symm

end AdaptiveSupport

/-! ## Tracks of a group -/

/-- Tracks of a group have a level, and it is at least `required` exactly if playback moves as well
as that to each of them, and between MIME types too unless they have the same. -/
theorem MappedGroup.exists_adaptiveSupportOf? {mapped : MappedGroup} {tracks : List Nat}
    (inside : ∀ track ∈ tracks, track < mapped.group.size) (nonempty : tracks ≠ [])
    (mixed : AdaptiveSupport) :
    ∃ level, mapped.adaptiveSupportOf? mixed tracks = some level ∧
      ∀ required : AdaptiveSupport, required ≤ level ↔
        (∀ track ∈ tracks, ∃ capabilities, mapped.capabilities[track]? = some capabilities ∧
          required ≤ capabilities.adaptive) ∧
        (required ≤ mixed ∨ VideoTrack.OneMimeType mapped.group tracks) := by
  let entry (track : Nat) : Format × Capabilities := (mapped.tracks[track]?).getD ({}, {})
  have known : ∀ track ∈ tracks, mapped.tracks[track]? = some (entry track) := by
    intro track mem
    obtain ⟨format, capabilities, here⟩ := exists_tracks_of_lt (inside track mem)
    simp only [entry, here, Option.getD_some]
  have found : mapped.adaptiveSupportOf? mixed tracks =
      some (.ofTracks mixed (tracks.map entry)) := by
    rw [adaptiveSupportOf?, mapM_eq_some_map known, Option.map_some]
  have both : ∀ track ∈ tracks, mapped.group.formats[track]? = some (entry track).1 ∧
      mapped.capabilities[track]? = some (entry track).2 := fun track mem =>
    getElem?_tracks.mp (known track mem)
  refine ⟨_, found, fun required => ?_⟩
  rw [AdaptiveSupport.le_ofTracks_iff (by simpa using nonempty)]
  simp only [List.forall_mem_map]
  refine and_congr (forall₂_congr fun track mem => ?_) (or_congr_right ?_)
  · simp [(both track mem).2]
  · refine forall₂_congr fun a ha => forall₂_congr fun b hb => ?_
    simp [VideoTrack.mimeTypeAt, (both a ha).1, (both b hb).1]

namespace VideoTrack

/-- Tracks of a group with MIME types that are moved between as well as required are found to be
moved between so, if the renderer moves as well as that between types when they may be mixed. -/
theorem exists_le_adaptiveSupportOf? {required mixed : AdaptiveSupport} {video : VideoParameters}
    {mix : Bool} {mapped : MappedGroup} (typed : HasMimeTypes mapped.group)
    (mixes : mix = true → required ≤ mixed)
    (nonempty : adaptiveTracks required video mix mapped ≠ []) :
    ∃ level, mapped.adaptiveSupportOf? mixed (adaptiveTracks required video mix mapped) =
        some level ∧ required ≤ level := by
  have qualified : ∀ track ∈ adaptiveTracks required video mix mapped,
      IsQualifying required video mapped track := fun track mem =>
    isQualifying_iff.mp (qualifiesAt_of_mem_adaptiveTracks mem)
  have inside : ∀ track ∈ adaptiveTracks required video mix mapped, track < mapped.group.size :=
    fun track mem => (Viewport.mem_worthShowing.mp (qualified track mem).1).1
  obtain ⟨level, found, exactly⟩ :=
    MappedGroup.exists_adaptiveSupportOf? inside nonempty mixed
  refine ⟨level, found, (exactly required).mpr ⟨?_, ?_⟩⟩
  · intro track mem
    obtain ⟨_, _, capabilities, _, reported, _, _, enough, _⟩ := qualified track mem
    exact ⟨capabilities, reported, enough⟩
  · cases mix with
    | true => exact .inl (mixes rfl)
    | false =>
        -- without mixing, all tracks are of the most common type
        obtain ⟨type, _, tracks⟩ := exists_isMostCommon required video typed
        have same : ∀ track ∈ adaptiveTracks required video false mapped,
            mimeTypeAt mapped.group track = some type := by
          intro track mem
          rw [tracks] at mem
          exact (mem_qualifyingOf.mp ((atLeastTwo_sublist _).subset mem)).2.2
        exact .inr fun a ha b hb => (same a ha).trans (same b hb).symm

end VideoTrack

/-! ## Selections of a pass -/

theorem Mapping.adaptiveSupportOf?_eq {mapping : Mapping} {i groupIndex : Nat}
    {renderer : MappedRenderer} {mapped : MappedGroup} {tracks : List Nat}
    (here : mapping.renderers[i]? = some renderer)
    (there : renderer.groups[groupIndex]? = some mapped) (nonempty : tracks ≠ []) :
    mapping.adaptiveSupportOf? i groupIndex tracks =
      mapped.adaptiveSupportOf? renderer.mixedMimeTypes tracks := by
  have some : ¬ tracks.isEmpty = true := by simpa using nonempty
  rw [adaptiveSupportOf?, if_neg some, here]
  simp [there]

namespace Pass

/-- Where a video renderer is given several tracks of a group with MIME types, the mapping finds
that the renderer moves between them at least as well as the parameters require. -/
theorem required_le_adaptiveSupportOf? {mapping : Mapping} {parameters : Parameters}
    {systemLanguages : List String} {i : Nat} {selection : Selection}
    (given : Given mapping parameters systemLanguages .video i selection)
    (several : 1 < selection.tracks.length)
    (typed : VideoTrack.HasMimeTypes selection.group) :
    ∃ level, mapping.adaptiveSupportOf? i selection.groupIndex selection.tracks = some level ∧
      (if parameters.video.mayBeNonSeamless then .notSeamless else .seamless) ≤ level := by
  obtain ⟨⟨renderer, here, video⟩, found⟩ := given
  have own := ownChoice_of_computed here found
  rw [ownChoice_of_video video] at own
  rcases VideoTrack.select?_cases own with ⟨_, _, adaptive⟩ | fixed
  · obtain ⟨mapped, there, chosen⟩ := VideoTrack.exists_of_selectAdaptive?_eq_some adaptive
    obtain ⟨nonempty, same⟩ := VideoTrack.adaptiveSelection?_eq_some_iff.mp chosen
    rw [same] at there typed ⊢
    rw [Mapping.adaptiveSupportOf?_eq here there nonempty]
    refine VideoTrack.exists_le_adaptiveSupportOf? typed (fun mix => ?_) nonempty
    exact of_decide_eq_true ((Bool.and_eq_true _ _).mp mix).2
  · obtain ⟨candidate, _, _, rfl⟩ := VideoTrack.exists_of_selectFixed?_eq_some fixed
    exact absurd several (Nat.lt_irrefl 1)

namespace Sample

/-- A video in two codecs, one track of which cannot be moved to without a break. -/
def recoded : MappedGroup where
  group := {
    id := ⟨0⟩
    formats := ["video/avc", "video/hevc", "video/avc"].map fun type =>
      { sampleMimeType := some type }
    nonempty := List.cons_ne_nil _ _ }
  capabilities := [.notSeamless, .seamless, .seamless].map fun adaptive =>
    { format := .handled, adaptive := adaptive }
  covers := rfl

/-- A renderer that was given this video, and moves between codecs with a break. -/
def changeover : Mapping where
  renderers := [
    { name := "changeover", trackType := .video, mixedMimeTypes := .notSeamless,
      groups := [recoded] }]
  unmapped := []

def mixing : Parameters where
  video := { mayMixMimeTypes := true }

def ofRecoded (tracks : List Nat) : Selection where
  groupIndex := 0
  group := recoded.group
  tracks := tracks

end Sample

/-- All tracks are given, and a break between them is allowed. -/
theorem required_le_adaptiveSupportOf?_changeover :
    Given Sample.changeover Sample.mixing [] .video 0 (Sample.ofRecoded [0, 1, 2]) ∧
      VideoTrack.HasMimeTypes Sample.recoded.group ∧
      ∃ level, Sample.changeover.adaptiveSupportOf? 0 0 [0, 1, 2] = some level ∧
        .notSeamless ≤ level := by
  have given : Given Sample.changeover Sample.mixing [] .video 0 (Sample.ofRecoded [0, 1, 2]) :=
    ⟨⟨_, rfl, rfl⟩, by decide⟩
  have typed : VideoTrack.HasMimeTypes Sample.recoded.group := by
    unfold VideoTrack.HasMimeTypes
    decide
  exact ⟨given, typed, required_le_adaptiveSupportOf? given (by decide) typed⟩

end Pass

end TrackSelection
