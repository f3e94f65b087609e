import Mathlib.Data.List.MinMax
import TrackSelection.Proofs.PlayableTracks

/-!
# The audio configuration with most tracks

Every format of a group may serve as a reference: a track matches it if the renderer handles the
track, its bitrate is within the limit, and it has the reference's channel count, MIME type and
sample rate where these may not be mixed. An unknown value matches nothing, not even itself. What a
reference matches depends on its configuration only, so a configuration that was tried need not be
tried again. The main statement is that the tracks to move between are found as if every format
were tried: they match the first reference with most tracks, if that has at least two. A track that
is alone in matching a reference is not taken, so that a reference may match more than is found.
-/

namespace TrackSelection

/-! ## Searches by number -/

section Searches

variable {α : Type}

/-- A search for the highest number finds the first element that has it. -/
theorem best?_eq_argmax (number : α → Nat) (items : List α) :
    best? (fun a b => number b < number a) items = items.argmax number := by
  have step : (keepBetter fun a b => decide (number b < number a)) =
      List.argAux fun a b => number b < number a := by
    funext holder challenger
    cases holder with
    | none => rfl
    | some best => simp only [keepBetter, List.argAux, decide_eq_true_eq]
  rw [best?, step, List.argmax]

/-- Keeping elements with their positions is keeping positions. -/
theorem map_snd_filter_zipIdx (items : List α) (p : α → Bool) :
    (items.zipIdx.filter fun entry => p entry.1).map Prod.snd =
      (List.range items.length).filter fun i => items[i]?.any p := by
  have positions : List.range items.length = items.zipIdx.map Prod.snd := by
    rw [List.zipIdx_map_snd, List.range_eq_range']
  rw [positions, List.filter_map]
  refine congrArg (List.map Prod.snd) (List.filter_congr ?_)
  intro entry mem
  rw [Function.comp_apply, List.mem_zipIdx_iff_getElem?.mp mem, Option.any_some]

end Searches

/-! ## What a reference matches -/

namespace AudioTrack

def KnownAlike {α : Type} (a b : Option α) : Prop :=
  ∃ value, a = some value ∧ b = some value

/-- A renderer handles a track within the limit on its bitrate, and what may not be mixed is known
and as in the reference. -/
structure Matches (audio : AudioParameters) (reference format : Format)
    (capabilities : Capabilities) : Prop where
  handled : capabilities.format = .handled
  bitrate : ∀ bitrate ∈ format.bitrate, bitrate ≤ audio.maxBitrate
  channelCount : audio.mayMixChannelCounts = false →
    KnownAlike format.channelCount reference.channelCount
  mimeType : audio.mayMixMimeTypes = false →
    KnownAlike format.sampleMimeType reference.sampleMimeType
  sampleRate : audio.mayMixSampleRates = false →
    KnownAlike format.sampleRate reference.sampleRate

def MatchesAt (audio : AudioParameters) (mapped : MappedGroup) (reference : Format)
    (track : Nat) : Prop :=
  ∃ format capabilities, mapped.group.formats[track]? = some format ∧
    mapped.capabilities[track]? = some capabilities ∧ Matches audio reference format capabilities

variable {audio : AudioParameters} {mapped : MappedGroup} {reference : Format} {track : Nat}

theorem agrees_iff_knownAlike {α : Type} [DecidableEq α] {a b : Option α} :
    agrees a b = true ↔ KnownAlike a b := by
  rw [agrees, Bool.and_eq_true, decide_eq_true_eq, Option.isSome_iff_exists]
  constructor
  · rintro ⟨⟨value, known⟩, same⟩
    exact ⟨value, known, same ▸ known⟩
  · rintro ⟨value, known, knownToo⟩
    exact ⟨⟨value, known⟩, known.trans knownToo.symm⟩

/-- A value may differ if it may be mixed, and else has to be known and the same. -/
theorem or_agrees_iff {α : Type} [DecidableEq α] {mayMix : Bool} {a b : Option α} :
    (mayMix || agrees a b) = true ↔ (mayMix = false → KnownAlike a b) := by
  cases mayMix with
  | true => simp
  | false => simp [agrees_iff_knownAlike]

theorem sharesConfiguration_iff_matches {format : Format} {capabilities : Capabilities} :
    sharesConfiguration audio reference (format, capabilities) = true ↔
      Matches audio reference format capabilities := by
  simp only [sharesConfiguration, Bool.and_eq_true, or_agrees_iff, VideoTrack.isWithin_iff,
    Capabilities.isHandled, decide_eq_true_eq]
  constructor
  · rintro ⟨⟨⟨⟨handled, bitrate⟩, channelCount⟩, mimeType⟩, sampleRate⟩
    exact ⟨handled, bitrate, channelCount, mimeType, sampleRate⟩
  · rintro ⟨handled, bitrate, channelCount, mimeType, sampleRate⟩
    exact ⟨⟨⟨⟨handled, bitrate⟩, channelCount⟩, mimeType⟩, sampleRate⟩

theorem any_sharesConfiguration_iff_matchesAt :
    mapped.tracks[track]?.any (sharesConfiguration audio reference) = true ↔
      MatchesAt audio mapped reference track := by
  rw [Option.any_eq_true]
  constructor
  · rintro ⟨⟨format, capabilities⟩, here, shares⟩
    obtain ⟨known, reported⟩ := MappedGroup.getElem?_tracks.mp here
    exact ⟨format, capabilities, known, reported, sharesConfiguration_iff_matches.mp shares⟩
  · rintro ⟨format, capabilities, known, reported, matched⟩
    exact ⟨(format, capabilities), MappedGroup.getElem?_tracks.mpr ⟨known, reported⟩,
      sharesConfiguration_iff_matches.mpr matched⟩

instance (audio : AudioParameters) (mapped : MappedGroup) (reference : Format) (track : Nat) :
    Decidable (MatchesAt audio mapped reference track) :=
  decidable_of_iff _ any_sharesConfiguration_iff_matchesAt

def matching (audio : AudioParameters) (mapped : MappedGroup) (reference : Format) : List Nat :=
  (List.range mapped.group.size).filter fun track => MatchesAt audio mapped reference track

/-- Try every format of a group as a reference, and take what the first one with most matching
tracks matches, if there are at least two. -/
def largestMatching (audio : AudioParameters) (mapped : MappedGroup) : List Nat :=
  (mapped.group.formats.argmax fun reference => (matching audio mapped reference).length).elim []
    fun reference =>
      if 2 ≤ (matching audio mapped reference).length then matching audio mapped reference else []

theorem matching_eq_map_snd (audio : AudioParameters) (mapped : MappedGroup) (reference : Format) :
    matching audio mapped reference =
      (mapped.tracks.zipIdx.filter fun entry =>
        sharesConfiguration audio reference entry.1).map Prod.snd := by
  rw [map_snd_filter_zipIdx, MappedGroup.length_tracks, matching]
  refine List.filter_congr fun track _ => ?_
  rw [Bool.eq_iff_iff, decide_eq_true_eq, any_sharesConfiguration_iff_matchesAt]

theorem length_matching (audio : AudioParameters) (mapped : MappedGroup) (reference : Format) :
    (matching audio mapped reference).length = sharers audio mapped reference := by
  rw [matching_eq_map_snd, List.length_map]
  exact length_filter_zipIdx mapped.tracks (sharesConfiguration audio reference)

/-! ## The reference with most tracks -/

/-- References of the same configuration match the same tracks. -/
theorem sharers_eq_of_sameConfiguration {other : Format}
    (same : sameConfiguration reference other = true) :
    sharers audio mapped reference = sharers audio mapped other := by
  simp only [sameConfiguration, Bool.and_eq_true, decide_eq_true_eq] at same
  obtain ⟨⟨channelCount, sampleRate⟩, mimeType⟩ := same
  have alike : sharesConfiguration audio reference = sharesConfiguration audio other := by
    funext entry
    simp only [sharesConfiguration, channelCount, sampleRate, mimeType]
  rw [sharers, sharers, alike]

/-- The most common format is the one that is found if every format is tried. -/
theorem commonFormat?_eq_argmax (audio : AudioParameters) (mapped : MappedGroup) :
    commonFormat? audio mapped =
      mapped.group.formats.argmax fun reference => (matching audio mapped reference).length := by
  have counts : (fun reference => (matching audio mapped reference).length) =
      sharers audio mapped := funext (length_matching audio mapped)
  rw [counts, ← best?_eq_argmax, commonFormat?]
  exact best?_eraseDupsBy (sharers audio mapped) (fun _ _ => sharers_eq_of_sameConfiguration)
    mapped.group.formats

theorem adaptiveTracks_eq_elim (audio : AudioParameters) (mapped : MappedGroup) :
    adaptiveTracks audio mapped =
      (commonFormat? audio mapped).elim [] fun reference =>
        if 2 ≤ (matching audio mapped reference).length
        then matching audio mapped reference else [] := by
  unfold adaptiveTracks
  cases commonFormat? audio mapped with
  | none => rfl
  | some reference =>
      rw [Option.elim_some, length_matching, matching_eq_map_snd]
      dsimp only
      by_cases few : sharers audio mapped reference < 2
      · rw [if_pos few, if_neg (Nat.not_le_of_lt few)]
      · rw [if_neg few, if_pos (Nat.le_of_not_lt few)]

/-- No reference matches more than the tracks to move between; only where there are none it may
match one track alone. -/
theorem length_matching_le (mem : reference ∈ mapped.group.formats) :
    (matching audio mapped reference).length ≤ (adaptiveTracks audio mapped).length ∨
      (matching audio mapped reference).length = 1 ∧ adaptiveTracks audio mapped = [] := by
  cases found : mapped.group.formats.argmax fun reference =>
      (matching audio mapped reference).length with
  | none =>
      rw [List.argmax_eq_none.mp found] at mem
      cases mem
  | some best =>
      have most := List.le_of_mem_argmax mem found
      rw [adaptiveTracks_eq_elim, commonFormat?_eq_argmax, found, Option.elim_some]
      split
      · exact .inl most
      · rename_i few
        by_cases nothing : (matching audio mapped reference).length = 0
        · exact .inl (Nat.le_of_eq nothing)
        · exact .inr ⟨by omega, rfl⟩

/-- Two tracks of a group have the same known value. -/
def AgreeOn {α : Type} (value : Format → Option α) (group : TrackGroup) (a b : Nat) : Prop :=
  KnownAlike (group.formats[a]?.bind value) (group.formats[b]?.bind value)

theorem KnownAlike.of_common {α : Type} {a b common : Option α} (first : KnownAlike a common)
    (second : KnownAlike b common) : KnownAlike a b := by
  obtain ⟨value, known, same⟩ := first
  obtain ⟨_, knownToo, sameToo⟩ := second
  obtain rfl := Option.some.inj (same.symm.trans sameToo)
  exact ⟨value, known, knownToo⟩

/-- The tracks to move between are those that are found if every format is tried as a reference. No
reference matches more, but for single tracks where there is nothing to move between. Any two of
the tracks have the same known value of whatever may not be mixed. -/
theorem adaptiveTracks_eq_largestMatching (audio : AudioParameters) (mapped : MappedGroup) :
    adaptiveTracks audio mapped = largestMatching audio mapped ∧
      (∀ reference ∈ mapped.group.formats,
        (matching audio mapped reference).length ≤ (adaptiveTracks audio mapped).length ∨
          (matching audio mapped reference).length = 1 ∧ adaptiveTracks audio mapped = []) ∧
      ∀ a ∈ adaptiveTracks audio mapped, ∀ b ∈ adaptiveTracks audio mapped,
        (audio.mayMixChannelCounts = false → AgreeOn Format.channelCount mapped.group a b) ∧
        (audio.mayMixMimeTypes = false → AgreeOn Format.sampleMimeType mapped.group a b) ∧
        (audio.mayMixSampleRates = false → AgreeOn Format.sampleRate mapped.group a b) := by
  refine ⟨?_, fun reference mem => length_matching_le mem, ?_⟩
  · rw [adaptiveTracks_eq_elim, commonFormat?_eq_argmax]
    rfl
  · intro a selected b selectedToo
    obtain ⟨reference, common, _, ⟨first, _⟩, here, shares⟩ := mem_adaptiveTracks.mp selected
    obtain ⟨_, commonToo, _, ⟨second, _⟩, there, sharesToo⟩ := mem_adaptiveTracks.mp selectedToo
    obtain rfl := Option.some.inj (common.symm.trans commonToo)
    have left := sharesConfiguration_iff_matches.mp shares
    have right := sharesConfiguration_iff_matches.mp sharesToo
    simp only [AgreeOn, (MappedGroup.getElem?_tracks.mp here).1,
      (MappedGroup.getElem?_tracks.mp there).1, Option.bind_some]
    exact ⟨fun apart => (left.channelCount apart).of_common (right.channelCount apart),
      fun apart => (left.mimeType apart).of_common (right.mimeType apart),
      fun apart => (left.sampleRate apart).of_common (right.sampleRate apart)⟩

namespace Sample

/-- Two tracks in stereo around one of unknown channel count, and two more in surround sound. -/
def broadcast : MappedGroup where
  group := {
    id := ⟨0⟩
    formats := [some 2, none, some 2, some 6, some 6].map fun channels =>
      { channelCount := channels, sampleRate := some 48000, sampleMimeType := some "audio/ac3" }
    nonempty := List.cons_ne_nil _ _ }
  capabilities := List.replicate 5 { format := .handled }
  covers := rfl

end Sample

/-- Two configurations have two tracks each: the first one is selected, and the unknown channel
count is left out. -/
theorem adaptiveTracks_eq_largestMatching_broadcast :
    adaptiveTracks {} Sample.broadcast = [0, 2] ∧ largestMatching {} Sample.broadcast = [0, 2] ∧
      ({} : AudioParameters).mayMixChannelCounts = false ∧
      AgreeOn Format.channelCount Sample.broadcast.group 0 2 := by
  have selected : adaptiveTracks {} Sample.broadcast = [0, 2] := by decide
  obtain ⟨same, _, alike⟩ := adaptiveTracks_eq_largestMatching {} Sample.broadcast
  rw [selected] at same alike
  exact ⟨selected, same.symm, rfl, (alike 0 (by decide) 2 (by decide)).1 rfl⟩

namespace Sample

/-- A track in stereo and a default track of unknown channel count. -/
def unpaired : MappedGroup where
  group := {
    id := ⟨0⟩
    formats := [
      { id := some "a0", sampleMimeType := some "audio/ac3", sampleRate := some 48000,
        channelCount := some 2 },
      { id := some "a1", sampleMimeType := some "audio/ac3", sampleRate := some 48000,
        selectionFlags := { bits := 1 } }]
    nonempty := List.cons_ne_nil _ _ }
  capabilities := List.replicate 2 { format := .handled }
  covers := by decide

end Sample

/-- The track in stereo matches its own format, but there is nothing to move between, and the best
track is selected alone. -/
theorem not_length_matching_le_unpaired :
    adaptiveTracks {} Sample.unpaired = [] ∧
      (select? {} [] true [Sample.unpaired]).map (·.1.tracks) = some [1] ∧
      ¬ ∀ reference ∈ Sample.unpaired.group.formats,
        (matching {} Sample.unpaired reference).length ≤
          (adaptiveTracks {} Sample.unpaired).length := by
  decide +kernel

end AudioTrack

end TrackSelection
