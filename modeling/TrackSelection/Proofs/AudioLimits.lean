import TrackSelection.Proofs.Tracks

/-!
# Limits on audio

Unless the limits may be exceeded, no single track beyond them is selected. When the group of the
best track is made adaptive the tracks are looked for anew, and of the two limits only that on the
bitrate is asked for again. The channel counts are then those of the most common configuration,
which need not be the configuration of the track that passed. The main statement says exactly when
they are within the limit.
-/

namespace TrackSelection.AudioTrack

/-- All tracks are tracks of the group with a value that is unknown or within the limit. -/
def AllWithin (value : Format → Option UInt32) (limit : UInt32) (group : TrackGroup)
    (tracks : List Nat) : Prop :=
  ∀ track ∈ tracks, group.formats[track]?.any fun format => isWithin (value format) limit

instance (value : Format → Option UInt32) (limit : UInt32) (group : TrackGroup)
    (tracks : List Nat) : Decidable (AllWithin value limit group tracks) :=
  inferInstanceAs (Decidable (∀ track ∈ tracks, _ = true))

/-- What it takes to move between the tracks of a group within the channel limit: the most common
configuration has to be within it, or, if channel counts may be mixed, all tracks that share that
configuration otherwise. Nothing, if there are not two tracks to move between. -/
def ExpandsWithin (audio : AudioParameters) (mapped : MappedGroup) : Prop :=
  ∀ reference, commonFormat? audio mapped = some reference → 2 ≤ sharers audio mapped reference →
    if audio.mayMixChannelCounts then
      ∀ entry ∈ mapped.tracks, sharesConfiguration audio reference entry = true →
        isWithin entry.1.channelCount audio.maxChannelCount = true
    else isWithin reference.channelCount audio.maxChannelCount = true

variable {audio : AudioParameters} {mapped : MappedGroup} {reference : Format}
variable {value : Format → Option UInt32} {limit : UInt32}

theorem isWithin_bitrate_of_sharesConfiguration {entry : Format × Capabilities}
    (shares : sharesConfiguration audio reference entry = true) :
    isWithin entry.1.bitrate audio.maxBitrate = true := by
  simp only [sharesConfiguration, Bool.and_eq_true] at shares
  exact shares.1.1.1.2

theorem channelCount_eq_of_sharesConfiguration {entry : Format × Capabilities}
    (apart : audio.mayMixChannelCounts = false)
    (shares : sharesConfiguration audio reference entry = true) :
    entry.1.channelCount = reference.channelCount := by
  simp only [sharesConfiguration, agrees, apart, Bool.false_or, Bool.and_eq_true,
    decide_eq_true_eq] at shares
  exact shares.1.1.2.2

/-- A single track that may be selected although no limit may be exceeded is within both. -/
theorem allWithin_selection {parameters : Parameters} {systemLanguages : List String}
    {groups : List MappedGroup} {scored : Scored} (hard : parameters.audio.mayExceedLimits = false)
    (mem : scored ∈ eligible parameters systemLanguages groups) :
    AllWithin Format.bitrate parameters.audio.maxBitrate scored.1.mapped.group [scored.1.track] ∧
      AllWithin Format.channelCount parameters.audio.maxChannelCount scored.1.mapped.group
        [scored.1.track] := by
  obtain ⟨listed, may, score⟩ := mem_eligible.mp mem
  have here := (MappedGroup.getElem?_tracks.mp (Candidate.mem_all.mp listed).2).1
  have within : scored.2.withinLimits = true := by
    simp only [isEligible, hard, Bool.or_false, Bool.and_eq_true] at may
    exact may.2
  rw [score] at within
  simp only [AudioScore.ofTrack, Bool.and_eq_true] at within
  simp only [AllWithin, List.mem_singleton, forall_eq, here, Option.any_some]
  exact within

/-- The values of the tracks to move between are within a limit if those of all tracks that share
the most common configuration are. -/
theorem allWithin_adaptiveTracks_iff (common : commonFormat? audio mapped = some reference)
    (enough : 2 ≤ sharers audio mapped reference) :
    AllWithin value limit mapped.group (adaptiveTracks audio mapped) ↔
      ∀ entry ∈ mapped.tracks, sharesConfiguration audio reference entry = true →
        isWithin (value entry.1) limit = true := by
  constructor
  · intro all entry mem shares
    obtain ⟨track, here⟩ := List.getElem?_of_mem mem
    have moved : track ∈ adaptiveTracks audio mapped :=
      mem_adaptiveTracks.mpr ⟨reference, common, enough, entry, here, shares⟩
    have within := all track moved
    rwa [(MappedGroup.getElem?_tracks.mp here).1, Option.any_some] at within
  · intro all track mem
    obtain ⟨_, same, _, entry, here, shares⟩ := mem_adaptiveTracks.mp mem
    obtain rfl := Option.some.inj (common.symm.trans same)
    rw [(MappedGroup.getElem?_tracks.mp here).1, Option.any_some]
    exact all entry (List.mem_of_getElem? here) shares

theorem exists_of_one_lt_length (several : 1 < (adaptiveTracks audio mapped).length) :
    ∃ reference, commonFormat? audio mapped = some reference ∧
      2 ≤ sharers audio mapped reference := by
  obtain ⟨track, mem⟩ := List.exists_mem_of_length_pos (Nat.lt_trans Nat.zero_lt_one several)
  obtain ⟨reference, common, enough, _⟩ := mem_adaptiveTracks.mp mem
  exact ⟨reference, common, enough⟩

/-- Moving between tracks always keeps to the limit on the bitrate. -/
theorem allWithin_bitrate_adaptiveTracks (several : 1 < (adaptiveTracks audio mapped).length) :
    AllWithin Format.bitrate audio.maxBitrate mapped.group (adaptiveTracks audio mapped) := by
  obtain ⟨reference, common, enough⟩ := exists_of_one_lt_length several
  rw [allWithin_adaptiveTracks_iff common enough]
  intro entry _ shares
  exact isWithin_bitrate_of_sharesConfiguration shares

theorem allWithin_channelCount_adaptiveTracks_iff
    (several : 1 < (adaptiveTracks audio mapped).length) :
    AllWithin Format.channelCount audio.maxChannelCount mapped.group (adaptiveTracks audio mapped) ↔
      ExpandsWithin audio mapped := by
  obtain ⟨reference, common, enough⟩ := exists_of_one_lt_length several
  rw [allWithin_adaptiveTracks_iff common enough]
  simp only [ExpandsWithin, common, Option.some.injEq, forall_eq', enough, true_implies]
  cases mixing : audio.mayMixChannelCounts with
  | true => rfl
  | false =>
      -- all tracks that share the configuration have its channel count, and there are some
      simp only [Bool.false_eq_true, if_false]
      constructor
      · intro all
        have some : 0 < sharers audio mapped reference := by omega
        obtain ⟨entry, mem, shares⟩ := List.countP_pos_iff.mp some
        rw [← channelCount_eq_of_sharesConfiguration mixing shares]
        exact all entry mem shares
      · intro within entry _ shares
        rwa [channelCount_eq_of_sharesConfiguration mixing shares]

/-- A group that is not made adaptive has nothing to exceed the limit with, unless it is the caller
that does not allow it. -/
theorem expandsWithin_of_not_expands {parameters : Parameters} {allowAdaptive : Bool}
    (single : ¬ Expands parameters allowAdaptive mapped) :
    parameters.forcesBitrate = true ∨ allowAdaptive = false ∨
      ExpandsWithin parameters.audio mapped := by
  cases forced : parameters.forcesBitrate with
  | true => exact .inl rfl
  | false =>
      cases allowAdaptive with
      | false => exact .inr (.inl rfl)
      | true =>
          refine .inr (.inr fun reference common enough => ?_)
          have length := length_adaptiveTracks common enough
          exact absurd ⟨forced, rfl, by omega⟩ single

/-- Unless limits may be exceeded, all selected tracks are within the limit on the bitrate. They are
within the limit on channel counts exactly if the selection may not be adaptive or the group moves
between tracks within that limit. -/
theorem allWithin_iff_of_selectFrom? {parameters : Parameters} {systemLanguages : List String}
    {allowAdaptive : Bool} {groups : List TrackGroup} {matrix : CapabilityMatrix}
    {selection : Selection} {score : AudioScore}
    (hard : parameters.audio.mayExceedLimits = false)
    (found : selectFrom? parameters systemLanguages allowAdaptive groups matrix =
      some (some (selection, score))) :
    groups[selection.groupIndex]? = some selection.group ∧
      ∃ row, matrix[selection.groupIndex]? = some row ∧
        AllWithin Format.bitrate parameters.audio.maxBitrate selection.group selection.tracks ∧
        (AllWithin Format.channelCount parameters.audio.maxChannelCount selection.group
            selection.tracks ↔
          parameters.forcesBitrate = true ∨ allowAdaptive = false ∨
            ExpandsWithin parameters.audio (.padded selection.group row)) := by
  obtain ⟨listed, complete, chosen⟩ := Option.map_eq_some_iff.mp found
  obtain ⟨candidate, best, cases⟩ := select?_cases chosen
  have mem := bestTrack?_mem best
  have here := (Candidate.mem_all.mp (mem_eligible.mp mem).1).1
  obtain ⟨row, group, there, padded⟩ := MappedGroup.exists_row_of_ofMatrix? complete here
  rcases cases with ⟨single, rfl⟩ | ⟨expands, rfl⟩
  · have within := allWithin_selection hard mem
    refine ⟨group, row, there, within.1, iff_of_true within.2 ?_⟩
    show _ ∨ _ ∨ ExpandsWithin parameters.audio (.padded candidate.mapped.group row)
    rw [← padded]
    exact expandsWithin_of_not_expands single
  · obtain ⟨free, allowed, several⟩ := expands
    refine ⟨group, row, there, allWithin_bitrate_adaptiveTracks several, ?_⟩
    show AllWithin _ _ candidate.mapped.group _ ↔
      _ ∨ _ ∨ ExpandsWithin parameters.audio (.padded candidate.mapped.group row)
    rw [← padded, allWithin_channelCount_adaptiveTracks_iff several]
    simp [free, allowed]

namespace Sample

/-- Tracks with these MIME types and channel counts, in the order of falling bitrates. -/
def group (tracks : List (String × UInt32)) (nonempty : tracks ≠ []) : TrackGroup where
  id := ⟨0⟩
  formats := tracks.zipIdx.map fun ((type, channels), i) =>
    { sampleMimeType := some type, channelCount := some channels, sampleRate := some 48000,
      bitrate := some (384000 - 128000 * i.toUInt32) }
  nonempty := by simpa using nonempty

def stereo : TrackGroup :=
  group [("audio/ac3", 6), ("audio/mp4a-latm", 2), ("audio/mp4a-latm", 2)] (by decide)

def surround : TrackGroup :=
  group [("audio/ac3", 6), ("audio/ac3", 6), ("audio/mp4a-latm", 2)] (by decide)

def twoChannels : Parameters where
  audio := { maxChannelCount := 2, mayExceedLimits := false }

def handled : CapabilityMatrix :=
  [List.replicate 3 { format := .handled }]

end Sample

theorem allWithin_iff_of_selectFrom?_stereo :
    ∃ score row,
      selectFrom? Sample.twoChannels [] true [Sample.stereo] Sample.handled =
        some (some ({ groupIndex := 0, group := Sample.stereo, tracks := [1, 2] }, score)) ∧
      Sample.handled[0]? = some row ∧
      AllWithin Format.bitrate Sample.twoChannels.audio.maxBitrate Sample.stereo [1, 2] ∧
      AllWithin Format.channelCount Sample.twoChannels.audio.maxChannelCount Sample.stereo [1, 2] ∧
      ExpandsWithin Sample.twoChannels.audio (.padded Sample.stereo row) := by
  have found : ∃ score, selectFrom? Sample.twoChannels [] true [Sample.stereo] Sample.handled =
      some (some ({ groupIndex := 0, group := Sample.stereo, tracks := [1, 2] }, score)) :=
    ⟨_, rfl⟩
  obtain ⟨score, found⟩ := found
  obtain ⟨_, row, there, bitrates, channels⟩ := allWithin_iff_of_selectFrom? rfl found
  have within : AllWithin Format.channelCount Sample.twoChannels.audio.maxChannelCount
      Sample.stereo [1, 2] := by decide
  have expands := (channels.mp within).resolve_left (by decide)
  exact ⟨score, row, found, there, bitrates, within, expands.resolve_left (by decide)⟩

/-- A track with two channels passes, and two tracks with six are selected. -/
theorem selectFrom?_surround :
    Sample.twoChannels.audio.mayExceedLimits = false ∧
      (selectFrom? Sample.twoChannels [] true [Sample.surround] Sample.handled).map
          (Option.map Prod.fst) =
        some (some { groupIndex := 0, group := Sample.surround, tracks := [0, 1] }) ∧
      ¬ AllWithin Format.channelCount Sample.twoChannels.audio.maxChannelCount
        Sample.surround [0, 1] := by
  decide

end TrackSelection.AudioTrack
