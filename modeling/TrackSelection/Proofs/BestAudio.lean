import TrackSelection.Proofs.AudioOptimum

/-!
# The audio that a renderer selects

Groups and capabilities come apart here, as a list and a matrix, and tracks are named by position.
If the matrix has an entry for every track, the choice is made: there is a selection as soon as any
track may be selected. Its score is that of a track of the selected group which no other track
beats. That track is the whole selection, unless several tracks are selected to move between. Scores
need not be comparable in classes for this; it is enough that being better is transitive.
-/

namespace TrackSelection

/-! ## Tracks by position -/

/-- The matrix has an entry for every track of the groups. -/
def CapabilityMatrix.Covers (matrix : CapabilityMatrix) (groups : List TrackGroup) : Prop :=
  ∀ (i : Nat) (group : TrackGroup), groups[i]? = some group →
    ∃ row, matrix[i]? = some row ∧ group.size ≤ row.length

/-- A group at a position has a track of this format, and the matrix these capabilities for it. -/
def TrackAt (groups : List TrackGroup) (matrix : CapabilityMatrix) (groupIndex track : Nat)
    (format : Format) (capabilities : Capabilities) : Prop :=
  ∃ group row, groups[groupIndex]? = some group ∧ matrix[groupIndex]? = some row ∧
    group.formats[track]? = some format ∧ row[track]? = some capabilities

variable {groups : List TrackGroup} {matrix : CapabilityMatrix} {listed : List MappedGroup}
variable {groupIndex track : Nat} {format : Format} {capabilities : Capabilities}

namespace MappedGroup

theorem exists_ofMatrix?_of_covers (covers : matrix.Covers groups) :
    ∃ listed, ofMatrix? groups matrix = some listed := by
  fun_induction ofMatrix? groups matrix with
  | case1 => exact ⟨[], rfl⟩
  | case2 group groups =>
      obtain ⟨_, there, _⟩ := covers 0 group rfl
      cases there
  | case3 group groups row rows enough ih =>
      obtain ⟨listed, complete⟩ := ih fun i other here => covers (i + 1) other here
      exact ⟨padded group row :: listed, by rw [complete, Option.map_some]⟩
  | case4 group groups row rows few =>
      obtain ⟨_, there, enough⟩ := covers 0 group rfl
      obtain rfl := Option.some.inj there
      exact absurd enough few

theorem map_group_of_ofMatrix? (complete : ofMatrix? groups matrix = some listed) :
    listed.map group = groups := by
  fun_induction ofMatrix? groups matrix generalizing listed with
  | case1 =>
      obtain rfl := Option.some.inj complete
      rfl
  | case2 => cases complete
  | case3 first groups row rows enough ih =>
      obtain ⟨rest, there, rfl⟩ := Option.map_eq_some_iff.mp complete
      rw [List.map_cons, ih there]
      rfl
  | case4 => cases complete

theorem getElem?_capabilities_padded {group : TrackGroup} {row : List Capabilities}
    (enough : group.size ≤ row.length) (inside : track < group.size) :
    (padded group row).capabilities[track]? = row[track]? := by
  simp only [padded, List.getElem?_take, inside, if_true]
  exact List.getElem?_append_left (Nat.lt_of_lt_of_le inside enough)

end MappedGroup

/-- The tracks of the groups with their rows are those at the positions. -/
theorem Candidate.exists_mem_all_iff_trackAt (covers : matrix.Covers groups)
    (complete : MappedGroup.ofMatrix? groups matrix = some listed) :
    (∃ mapped, ⟨groupIndex, mapped, track, format, capabilities⟩ ∈ all listed) ↔
      TrackAt groups matrix groupIndex track format capabilities := by
  have groupsToo := MappedGroup.map_group_of_ofMatrix? complete
  -- a listed group has the entries of its row
  have entries {mapped : MappedGroup} (here : listed[groupIndex]? = some mapped) :
      ∃ row, groups[groupIndex]? = some mapped.group ∧ matrix[groupIndex]? = some row ∧
        (track < mapped.group.size → mapped.capabilities[track]? = row[track]?) := by
    obtain ⟨row, group, there, padded⟩ := MappedGroup.exists_row_of_ofMatrix? complete here
    obtain ⟨_, thereToo, enough⟩ := covers groupIndex mapped.group group
    obtain rfl := Option.some.inj (there.symm.trans thereToo)
    refine ⟨row, group, there, fun inside => ?_⟩
    rw [padded]
    exact MappedGroup.getElem?_capabilities_padded enough inside
  constructor
  · rintro ⟨mapped, mem⟩
    obtain ⟨here, entry⟩ := mem_all.mp mem
    obtain ⟨known, reported⟩ := MappedGroup.getElem?_tracks.mp entry
    obtain ⟨row, group, there, same⟩ := entries here
    refine ⟨mapped.group, row, group, there, known, ?_⟩
    rw [← same (track_lt_of_mem_all mem)]
    exact reported
  · rintro ⟨group, row, here, there, known, reported⟩
    rw [← groupsToo, List.getElem?_map] at here
    obtain ⟨mapped, placed, rfl⟩ := Option.map_eq_some_iff.mp here
    obtain ⟨_, _, thereToo, same⟩ := entries placed
    obtain rfl := Option.some.inj (there.symm.trans thereToo)
    obtain ⟨inside, _⟩ := List.getElem?_eq_some_iff.mp known
    refine ⟨mapped, mem_all.mpr ⟨placed, MappedGroup.getElem?_tracks.mpr ⟨known, ?_⟩⟩⟩
    rw [same inside]
    exact reported

/-! ## The selection -/

namespace AudioTrack

/-- The track at a position may be selected, and has this score. -/
def EligibleAt (parameters : Parameters) (systemLanguages : List String) (groups : List TrackGroup)
    (matrix : CapabilityMatrix) (groupIndex track : Nat) (score : AudioScore) : Prop :=
  ∃ format capabilities, TrackAt groups matrix groupIndex track format capabilities ∧
    capabilities.isSupported parameters.playback.mayExceedCapabilities = true ∧
    score = AudioScore.ofTrack parameters systemLanguages format capabilities ∧
    (score.withinLimits = true ∨ parameters.audio.mayExceedLimits = true)

variable {parameters : Parameters} {systemLanguages : List String} {score : AudioScore}

theorem exists_mem_eligible_iff_eligibleAt (covers : matrix.Covers groups)
    (complete : MappedGroup.ofMatrix? groups matrix = some listed) :
    (∃ candidate : Candidate, candidate.groupIndex = groupIndex ∧ candidate.track = track ∧
        (candidate, score) ∈ eligible parameters systemLanguages listed) ↔
      EligibleAt parameters systemLanguages groups matrix groupIndex track score := by
  constructor
  · rintro ⟨⟨_, mapped, _, format, capabilities⟩, rfl, rfl, mem⟩
    obtain ⟨offered, may, same⟩ := mem_eligible.mp mem
    obtain ⟨supported, within⟩ := Bool.and_eq_true_iff.mp may
    exact ⟨format, capabilities,
      (Candidate.exists_mem_all_iff_trackAt covers complete).mp ⟨mapped, offered⟩, supported, same,
      Bool.or_eq_true_iff.mp within⟩
  · rintro ⟨format, capabilities, placed, supported, same, within⟩
    obtain ⟨mapped, offered⟩ := (Candidate.exists_mem_all_iff_trackAt covers complete).mpr placed
    refine ⟨⟨groupIndex, mapped, track, format, capabilities⟩, rfl, rfl, mem_eligible.mpr ?_⟩
    exact ⟨offered, Bool.and_eq_true_iff.mpr ⟨supported, Bool.or_eq_true_iff.mpr within⟩, same⟩

theorem select?_eq_none_iff_eligibleAt {allowAdaptive : Bool} (covers : matrix.Covers groups)
    (complete : MappedGroup.ofMatrix? groups matrix = some listed) :
    select? parameters systemLanguages allowAdaptive listed = none ↔ ∀ groupIndex track score,
      ¬ EligibleAt parameters systemLanguages groups matrix groupIndex track score := by
  rw [select?, Option.map_eq_none_iff, bestTrack?, best?_eq_none_iff,
    List.eq_nil_iff_forall_not_mem]
  constructor
  · intro nothing groupIndex track score eligibleAt
    obtain ⟨candidate, _, _, mem⟩ :=
      (exists_mem_eligible_iff_eligibleAt covers complete).mpr eligibleAt
    exact nothing _ mem
  · rintro nothing ⟨candidate, score⟩ mem
    exact nothing _ _ _
      ((exists_mem_eligible_iff_eligibleAt covers complete).mp ⟨candidate, rfl, rfl, mem⟩)

/-- No track beats the best one. -/
theorem order_ne_gt_of_eligibleAt {best : Candidate} {score' : AudioScore}
    (covers : matrix.Covers groups) (complete : MappedGroup.ofMatrix? groups matrix = some listed)
    (chosen : bestTrack? parameters systemLanguages listed = some (best, score))
    (eligibleAt : EligibleAt parameters systemLanguages groups matrix groupIndex track score') :
    score'.order score ≠ .gt := by
  obtain ⟨candidate, _, _, mem⟩ :=
    (exists_mem_eligible_iff_eligibleAt covers complete).mpr eligibleAt
  exact order_ne_gt_of_bestTrack? chosen mem

/-- If the matrix covers the groups a choice is made. Nothing is selected exactly if no track may be
selected. The score of a selection is that of a track of its group, which no track beats, and which
is the selected track if only one is selected. -/
theorem selectFrom?_unbeaten (covers : matrix.Covers groups) (parameters : Parameters)
    (systemLanguages : List String) (allowAdaptive : Bool) :
    ∃ answer, selectFrom? parameters systemLanguages allowAdaptive groups matrix = some answer ∧
      (answer = none ↔ ∀ groupIndex track score,
        ¬ EligibleAt parameters systemLanguages groups matrix groupIndex track score) ∧
      ∀ selection score, answer = some (selection, score) →
        groups[selection.groupIndex]? = some selection.group ∧
        ∃ track,
          EligibleAt parameters systemLanguages groups matrix selection.groupIndex track score ∧
          (∀ groupIndex other score',
            EligibleAt parameters systemLanguages groups matrix groupIndex other score' →
              score'.order score ≠ .gt) ∧
          (selection.tracks.length = 1 → selection.tracks = [track]) := by
  obtain ⟨listed, complete⟩ := MappedGroup.exists_ofMatrix?_of_covers covers
  refine ⟨select? parameters systemLanguages allowAdaptive listed, ?_,
    select?_eq_none_iff_eligibleAt covers complete, ?_⟩
  · rw [selectFrom?, complete, Option.map_some]
  · intro selection score found
    have group := (select?_drawnFrom found).group
    rw [MappedGroup.map_group_of_ofMatrix? complete] at group
    obtain ⟨best, chosen, cases⟩ := select?_cases found
    have index : best.groupIndex = selection.groupIndex := by
      obtain ⟨_, rfl⟩ | ⟨_, rfl⟩ := cases <;> rfl
    refine ⟨group, best.track, ?_, ?_, ?_⟩
    · exact (exists_mem_eligible_iff_eligibleAt covers complete).mp
        ⟨best, index, rfl, bestTrack?_mem chosen⟩
    · intro groupIndex other score' eligibleAt
      exact order_ne_gt_of_eligibleAt covers complete chosen eligibleAt
    · intro single
      obtain ⟨_, rfl⟩ | ⟨⟨_, _, several⟩, rfl⟩ := cases
      · rfl
      · exact absurd several (Nat.not_lt_of_le (Nat.le_of_eq single))

namespace Sample

/-- Surround sound and stereo in one group, and a third track in another. -/
def recordings : List TrackGroup :=
  [⟨⟨0⟩, [{ channelCount := some 6, bitrate := some 384000 },
      { channelCount := some 2, bitrate := some 128000 }], List.cons_ne_nil _ _⟩,
    ⟨⟨1⟩, [{ channelCount := some 1, bitrate := some 64000 }], List.cons_ne_nil _ _⟩]

/-- The third track is beyond what the renderer promises. -/
def promises : CapabilityMatrix :=
  [[{ format := .handled }, { format := .handled }], [{ format := .exceedsCapabilities }]]

def preferringStereo : Parameters where
  audio := { maxChannelCount := 2 }

theorem covers_recordings : promises.Covers recordings
  | 0, _, here => ⟨_, rfl, by obtain rfl := Option.some.inj here; decide⟩
  | 1, _, here => ⟨_, rfl, by obtain rfl := Option.some.inj here; decide⟩

end Sample

theorem selectFrom?_unbeaten_recordings :
    Sample.promises.Covers Sample.recordings ∧
      ∃ selection score,
        selectFrom? Sample.preferringStereo [] true Sample.recordings Sample.promises =
          some (some (selection, score)) ∧
        Sample.recordings[0]? = some selection.group ∧ selection.tracks = [1] ∧
        EligibleAt Sample.preferringStereo [] Sample.recordings Sample.promises 0 1 score ∧
        ∀ groupIndex other score',
          EligibleAt Sample.preferringStereo [] Sample.recordings Sample.promises groupIndex other
            score' → score'.order score ≠ .gt := by
  obtain ⟨answer, made, _, chosen⟩ :=
    selectFrom?_unbeaten Sample.covers_recordings Sample.preferringStereo [] true
  obtain ⟨selection, score, found, index, tracks⟩ : ∃ selection score,
      selectFrom? Sample.preferringStereo [] true Sample.recordings Sample.promises =
        some (some (selection, score)) ∧ selection.groupIndex = 0 ∧ selection.tracks = [1] :=
    ⟨_, _, rfl, rfl, rfl⟩
  obtain rfl := Option.some.inj (made.symm.trans found)
  obtain ⟨group, track, eligibleAt, unbeaten, single⟩ := chosen selection score rfl
  obtain rfl : 1 = track := by simpa [tracks] using single
  rw [index] at group eligibleAt
  exact ⟨Sample.covers_recordings, selection, score, found, group, tracks, eligibleAt, unbeaten⟩

end AudioTrack

end TrackSelection
