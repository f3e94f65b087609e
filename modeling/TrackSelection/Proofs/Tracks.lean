import TrackSelection.Choice.Matrix
import TrackSelection.Proofs.BestOf

/-!
# The tracks that choices are made of

Every choice names tracks of one of the groups that were offered, in ascending order and at least
one. The lemmas on single choices say in addition how the tracks were found, so that later proofs
need not look into a search again.
-/

namespace TrackSelection

theorem pairwise_zipIdx (items : List α) : items.zipIdx.Pairwise fun a b => a.2 < b.2 := by
  apply List.pairwise_map.mp
  rw [List.zipIdx_map_snd]
  exact List.pairwise_lt_range'

/-- Elements that are kept with their positions are as many as are kept. -/
theorem length_filter_zipIdx (items : List α) (p : α → Bool) :
    (items.zipIdx.filter fun entry => p entry.1).length = items.countP p := by
  calc (items.zipIdx.filter fun entry => p entry.1).length
      = items.zipIdx.countP (p ∘ Prod.fst) := List.countP_eq_length_filter.symm
    _ = (items.zipIdx.map Prod.fst).countP p := List.countP_map.symm
    _ = items.countP p := by rw [List.zipIdx_map_fst]

namespace MappedGroup

theorem getElem?_tracks {mapped : MappedGroup} {track : Nat} {format : Format}
    {capabilities : Capabilities} :
    mapped.tracks[track]? = some (format, capabilities) ↔
      mapped.group.formats[track]? = some format ∧
        mapped.capabilities[track]? = some capabilities := by
  simp only [tracks, List.getElem?_zip_eq_some]

theorem exists_tracks_of_lt {mapped : MappedGroup} {track : Nat} (h : track < mapped.group.size) :
    ∃ format capabilities, mapped.tracks[track]? = some (format, capabilities) := by
  have bound : track < mapped.tracks.length := by
    rw [length_tracks]
    exact h
  exact ⟨_, _, List.getElem?_eq_getElem bound⟩

/-- The groups of a matrix are the given ones, each with its row. -/
theorem exists_row_of_ofMatrix? {groups : List TrackGroup} {matrix : CapabilityMatrix}
    {listed : List MappedGroup} {mapped : MappedGroup} {i : Nat}
    (complete : ofMatrix? groups matrix = some listed) (here : listed[i]? = some mapped) :
    ∃ row, groups[i]? = some mapped.group ∧ matrix[i]? = some row ∧
      mapped = padded mapped.group row := by
  fun_induction ofMatrix? groups matrix generalizing listed i with
  | case1 =>
      obtain rfl := Option.some.inj complete
      simp at here
  | case2 => simp at complete
  | case3 group groups row rows enough ih =>
      obtain ⟨rest, there, rfl⟩ := Option.map_eq_some_iff.mp complete
      cases i with
      | zero =>
          obtain rfl := Option.some.inj here
          exact ⟨row, rfl, rfl, rfl⟩
      | succ i => exact ih there here
  | case4 => simp at complete

end MappedGroup

namespace Candidate

theorem mem_all {groups : List MappedGroup} {candidate : Candidate} :
    candidate ∈ all groups ↔
      groups[candidate.groupIndex]? = some candidate.mapped ∧
        candidate.mapped.tracks[candidate.track]? =
          some (candidate.format, candidate.capabilities) := by
  obtain ⟨groupIndex, mapped, track, format, capabilities⟩ := candidate
  simp only [all, List.mem_flatMap, List.mem_map, Prod.exists, mk.injEq,
    List.mem_zipIdx_iff_getElem?]
  constructor
  · rintro ⟨_, _, found, _, _, _, here, rfl, rfl, rfl, rfl, rfl⟩
    exact ⟨found, here⟩
  · rintro ⟨found, here⟩
    exact ⟨mapped, groupIndex, found, format, capabilities, track, here, rfl, rfl, rfl, rfl, rfl⟩

theorem track_lt_of_mem_all {groups : List MappedGroup} {candidate : Candidate}
    (mem : candidate ∈ all groups) : candidate.track < candidate.mapped.group.size := by
  obtain ⟨bound, _⟩ := List.getElem?_eq_some_iff.mp (mem_all.mp mem).2
  rwa [MappedGroup.length_tracks] at bound

end Candidate

/-- A selection of some tracks of one of the groups, at least one and in ascending order. -/
structure Selection.DrawnFrom (selection : Selection) (groups : List TrackGroup) : Prop where
  group : groups[selection.groupIndex]? = some selection.group
  nonempty : selection.tracks ≠ []
  ascending : selection.tracks.Sublist (List.range selection.group.size)

theorem Candidate.selection_drawnFrom {groups : List MappedGroup} {candidate : Candidate}
    (mem : candidate ∈ all groups) :
    candidate.selection.DrawnFrom (groups.map MappedGroup.group) where
  group := by simp [selection, (mem_all.mp mem).1]
  nonempty := by simp [selection]
  ascending := by
    have inRange := List.mem_range.mpr (track_lt_of_mem_all mem)
    exact List.singleton_sublist.mpr inRange

theorem Size.fitOn?_eq_none_iff {video surface : Size} :
    video.fitOn? surface = none ↔ video.width = 0 ∨ video.height = 0 := by
  unfold fitOn?
  split
  · rename_i flat
    exact ⟨fun _ => flat, fun _ => rfl⟩
  · rename_i area
    refine ⟨?_, fun flat => absurd flat area⟩
    split <;> nofun

theorem Viewport.worthShowing_sublist (viewport : Viewport) (group : TrackGroup) :
    (viewport.worthShowing group).Sublist (List.range group.size) := by
  unfold worthShowing
  dsimp only
  split
  · exact List.Sublist.refl _
  · split
    · exact List.Sublist.refl _
    · exact List.filter_sublist

/-! ## Video -/

namespace VideoTrack

variable {parameters : Parameters} {required mixed : AdaptiveSupport} {allowAdaptive mix : Bool}
variable {groups : List MappedGroup} {selection : Selection}

theorem atLeastTwo_eq_self {tracks : List Nat} (h : atLeastTwo tracks ≠ []) :
    atLeastTwo tracks = tracks ∧ 2 ≤ tracks.length := by
  unfold atLeastTwo at h ⊢
  split
  · rename_i few
    simp [few] at h
  · rename_i enough
    exact ⟨rfl, Nat.le_of_not_lt enough⟩

theorem atLeastTwo_sublist (tracks : List Nat) : (atLeastTwo tracks).Sublist tracks := by
  unfold atLeastTwo
  split
  · exact List.nil_sublist _
  · exact List.Sublist.refl _

theorem adaptiveTracks_sublist (required : AdaptiveSupport) (video : VideoParameters) (mix : Bool)
    (mapped : MappedGroup) :
    (adaptiveTracks required video mix mapped).Sublist (List.range mapped.group.size) := by
  unfold adaptiveTracks
  dsimp only
  refine (atLeastTwo_sublist _).trans (List.filter_sublist.trans ?_)
  exact (atLeastTwo_sublist _).trans (video.viewport.worthShowing_sublist mapped.group)

theorem adaptiveSelection?_eq_some_iff {video : VideoParameters} {groupIndex : Nat}
    {mapped : MappedGroup} :
    adaptiveSelection? required video mix groupIndex mapped = some selection ↔
      adaptiveTracks required video mix mapped ≠ [] ∧
        selection = { groupIndex, group := mapped.group,
                      tracks := adaptiveTracks required video mix mapped } := by
  unfold adaptiveSelection?
  by_cases empty : adaptiveTracks required video mix mapped = []
  · simp [empty]
  · rw [if_neg (by simpa using empty), Option.some.injEq]
    exact ⟨fun same => ⟨empty, same.symm⟩, fun same => same.2.symm⟩

theorem exists_of_selectAdaptive?_eq_some
    (found : selectAdaptive? parameters mixed groups = some selection) :
    ∃ mapped, groups[selection.groupIndex]? = some mapped ∧
      adaptiveSelection? (requiredSupport parameters.video) parameters.video
        (mayMix parameters.video mixed) selection.groupIndex mapped = some selection := by
  obtain ⟨⟨mapped, i⟩, mem, chosen⟩ := List.exists_of_findSome?_eq_some found
  obtain ⟨_, rfl⟩ := adaptiveSelection?_eq_some_iff.mp chosen
  exact ⟨mapped, List.mem_zipIdx_iff_getElem?.mp mem, chosen⟩

theorem drawnFrom_of_adaptiveSelection? {video : VideoParameters} {mapped : MappedGroup}
    (here : groups[selection.groupIndex]? = some mapped)
    (chosen : adaptiveSelection? required video mix selection.groupIndex mapped = some selection) :
    selection.DrawnFrom (groups.map MappedGroup.group) := by
  obtain ⟨nonempty, eq⟩ := adaptiveSelection?_eq_some_iff.mp chosen
  refine ⟨?_, ?_, ?_⟩
  · rw [List.getElem?_map, here, eq]
    rfl
  · rw [eq]
    dsimp only
    exact nonempty
  · rw [eq]
    dsimp only
    exact adaptiveTracks_sublist required video mix mapped

theorem exists_of_selectFixed?_eq_some (found : selectFixed? parameters groups = some selection) :
    ∃ candidate ∈ Candidate.all groups,
      isEligible parameters candidate ∧ selection = candidate.selection := by
  obtain ⟨candidate, best, rfl⟩ := Option.map_eq_some_iff.mp found
  obtain ⟨mem, eligible⟩ := List.mem_filter.mp (mem_of_best?_eq_some best)
  exact ⟨candidate, mem, eligible, rfl⟩

/-- A selection is adaptive, from the first group that allows it, or it is the best single track. -/
theorem select?_cases
    (found : select? parameters mixed allowAdaptive groups = some selection) :
    (parameters.forcesBitrate = false ∧ allowAdaptive = true ∧
        selectAdaptive? parameters mixed groups = some selection) ∨
      selectFixed? parameters groups = some selection := by
  simp only [select?, Option.orElse_eq_orElse, Option.orElse_eq_or, Option.or_eq_some_iff] at found
  rcases found with adaptive | ⟨_, fixed⟩
  · split at adaptive
    · rename_i allowed
      simp only [Bool.and_eq_true, Bool.not_eq_true'] at allowed
      exact .inl ⟨allowed.1, allowed.2, adaptive⟩
    · simp at adaptive
  · exact .inr fixed

theorem select?_drawnFrom (found : select? parameters mixed allowAdaptive groups = some selection) :
    selection.DrawnFrom (groups.map MappedGroup.group) := by
  rcases select?_cases found with ⟨_, _, adaptive⟩ | fixed
  · obtain ⟨mapped, here, chosen⟩ := exists_of_selectAdaptive?_eq_some adaptive
    exact drawnFrom_of_adaptiveSelection? here chosen
  · obtain ⟨candidate, mem, _, rfl⟩ := exists_of_selectFixed?_eq_some fixed
    exact Candidate.selection_drawnFrom mem

/-! ### From a matrix -/

variable {offered : List TrackGroup} {matrix : CapabilityMatrix}

/-- An adaptive selection is that of one of the groups, with the row of the group. -/
theorem exists_of_selectAdaptiveFrom?_eq_some {video : VideoParameters} {start : Nat}
    (found : selectAdaptiveFrom? required video mix start offered matrix =
      some (some selection)) :
    ∃ i row, selection.groupIndex = start + i ∧ offered[i]? = some selection.group ∧
      matrix[i]? = some row ∧ selection.tracks ≠ [] ∧
      selection.tracks = adaptiveTracks required video mix (.padded selection.group row) := by
  fun_induction selectAdaptiveFrom? required video mix start offered matrix with
  | case1 => simp at found
  | case2 => simp at found
  | case3 start group groups row rows needed enough chosen here =>
      obtain rfl : chosen = selection := by simpa using found
      obtain ⟨nonempty, rfl⟩ := adaptiveSelection?_eq_some_iff.mp here
      refine ⟨0, row, rfl, rfl, rfl, ?_⟩
      dsimp only
      exact ⟨nonempty, rfl⟩
  | case4 start group groups row rows needed enough none ih =>
      obtain ⟨i, row, index, here, there, rest⟩ := ih found
      refine ⟨i + 1, row, ?_, here, there, rest⟩
      omega
  | case5 => simp at found

/-- A selection of several tracks is an adaptive one. -/
theorem selectAdaptiveFrom?_of_selectFrom?
    (found : selectFrom? parameters mixed allowAdaptive offered matrix = some (some selection))
    (several : 1 < selection.tracks.length) :
    selectAdaptiveFrom? (requiredSupport parameters.video) parameters.video
        (mayMix parameters.video mixed) 0 offered matrix =
      some (some selection) := by
  have single (mapped : List MappedGroup) : selectFixed? parameters mapped ≠ some selection := by
    intro fixed
    obtain ⟨candidate, _, _, rfl⟩ := exists_of_selectFixed?_eq_some fixed
    simp [Candidate.selection] at several
  simp only [selectFrom?, Option.bind_eq_bind] at found
  split at found
  · cases looked : selectAdaptiveFrom? (requiredSupport parameters.video) parameters.video
        (mayMix parameters.video mixed) 0 offered matrix with
    | none => simp [looked] at found
    | some adaptive =>
        rw [looked, Option.bind_some] at found
        cases adaptive with
        | none => simp [Option.bind_eq_some_iff, single] at found
        | some adaptive =>
            simp only [Option.pure_def, Option.some.injEq] at found
            rw [found]
  · simp [Option.bind_eq_some_iff, single] at found

end VideoTrack

/-! ## Audio -/

namespace AudioTrack

variable {parameters : Parameters} {systemLanguages : List String} {allowAdaptive : Bool}
variable {groups : List MappedGroup} {selection : Selection} {score : AudioScore}

theorem mem_eligible {scored : Scored} :
    scored ∈ eligible parameters systemLanguages groups ↔
      scored.1 ∈ Candidate.all groups ∧ isEligible parameters scored = true ∧
        scored.2 = AudioScore.ofTrack parameters systemLanguages scored.1.format
          scored.1.capabilities := by
  obtain ⟨candidate, score⟩ := scored
  simp only [eligible, List.mem_filter, List.mem_map, Prod.mk.injEq]
  constructor
  · rintro ⟨⟨_, mem, rfl, rfl⟩, may⟩
    exact ⟨mem, may, rfl⟩
  · rintro ⟨mem, may, rfl⟩
    exact ⟨⟨candidate, mem, rfl, rfl⟩, may⟩

theorem bestTrack?_mem {scored : Scored}
    (best : bestTrack? parameters systemLanguages groups = some scored) :
    scored ∈ eligible parameters systemLanguages groups :=
  mem_of_best?_eq_some best

/-- The tracks to move between share the configuration of the most common format. -/
theorem mem_adaptiveTracks {audio : AudioParameters} {mapped : MappedGroup} {track : Nat} :
    track ∈ adaptiveTracks audio mapped ↔
      ∃ reference, commonFormat? audio mapped = some reference ∧
        2 ≤ sharers audio mapped reference ∧
        ∃ entry, mapped.tracks[track]? = some entry ∧
          sharesConfiguration audio reference entry = true := by
  unfold adaptiveTracks
  cases common : commonFormat? audio mapped with
  | none => simp
  | some reference =>
      by_cases few : sharers audio mapped reference < 2
      · simp only [few, if_true, List.not_mem_nil, Option.some.injEq, false_iff]
        rintro ⟨_, rfl, enough, _⟩
        omega
      · simp only [few, if_false, List.mem_map, List.mem_filter, List.mem_zipIdx_iff_getElem?,
          Option.some.injEq]
        constructor
        · rintro ⟨⟨entry, _⟩, ⟨here, shares⟩, rfl⟩
          exact ⟨reference, rfl, Nat.le_of_not_lt few, entry, here, shares⟩
        · rintro ⟨_, rfl, _, entry, here, shares⟩
          exact ⟨(entry, track), ⟨here, shares⟩, rfl⟩

theorem adaptiveTracks_sublist (audio : AudioParameters) (mapped : MappedGroup) :
    (adaptiveTracks audio mapped).Sublist (List.range mapped.group.size) := by
  unfold adaptiveTracks
  split
  · exact List.nil_sublist _
  · split
    · exact List.nil_sublist _
    · rw [← MappedGroup.length_tracks, List.range_eq_range', ← List.zipIdx_map_snd]
      exact List.filter_sublist.map _

theorem length_adaptiveTracks {audio : AudioParameters} {mapped : MappedGroup} {reference : Format}
    (common : commonFormat? audio mapped = some reference)
    (enough : 2 ≤ sharers audio mapped reference) :
    (adaptiveTracks audio mapped).length = sharers audio mapped reference := by
  simp only [adaptiveTracks, common, Nat.not_lt_of_le enough, if_false, List.length_map]
  exact length_filter_zipIdx mapped.tracks (sharesConfiguration audio reference)

/-- Whether audio from a group becomes adaptive. -/
def Expands (parameters : Parameters) (allowAdaptive : Bool) (mapped : MappedGroup) : Prop :=
  parameters.forcesBitrate = false ∧ allowAdaptive = true ∧
    1 < (adaptiveTracks parameters.audio mapped).length

/-- The best track decides the group and the score. The selection is all tracks of its group that
share the most common configuration if the group expands, and else that track alone. -/
theorem select?_cases
    (found : select? parameters systemLanguages allowAdaptive groups = some (selection, score)) :
    ∃ candidate, bestTrack? parameters systemLanguages groups = some (candidate, score) ∧
      (¬ Expands parameters allowAdaptive candidate.mapped ∧ selection = candidate.selection ∨
        Expands parameters allowAdaptive candidate.mapped ∧
          selection = { candidate.selection with
            tracks := adaptiveTracks parameters.audio candidate.mapped }) := by
  obtain ⟨⟨candidate, best⟩, chosen, eq⟩ := Option.map_eq_some_iff.mp found
  refine ⟨candidate, ?_⟩
  by_cases allowed : !parameters.forcesBitrate && allowAdaptive
  · by_cases several : 1 < (adaptiveTracks parameters.audio candidate.mapped).length
    · simp only [allowed, if_true, several, Prod.mk.injEq] at eq
      obtain ⟨rfl, rfl⟩ := eq
      simp only [Bool.and_eq_true, Bool.not_eq_true'] at allowed
      exact ⟨chosen, .inr ⟨⟨allowed.1, allowed.2, several⟩, rfl⟩⟩
    · simp only [allowed, if_true, several, if_false, Prod.mk.injEq] at eq
      obtain ⟨rfl, rfl⟩ := eq
      exact ⟨chosen, .inl ⟨fun expands => several expands.2.2, rfl⟩⟩
  · simp only [allowed, Bool.false_eq_true, if_false, List.length_nil, Nat.not_lt_zero,
      Prod.mk.injEq] at eq
    obtain ⟨rfl, rfl⟩ := eq
    refine ⟨chosen, .inl ⟨fun expands => allowed ?_, rfl⟩⟩
    simp [expands.1, expands.2.1]

theorem select?_drawnFrom
    (found : select? parameters systemLanguages allowAdaptive groups = some (selection, score)) :
    selection.DrawnFrom (groups.map MappedGroup.group) := by
  obtain ⟨candidate, best, ⟨_, rfl⟩ | ⟨expands, rfl⟩⟩ := select?_cases found
  · exact Candidate.selection_drawnFrom (mem_eligible.mp (bestTrack?_mem best)).1
  · have single := Candidate.selection_drawnFrom (mem_eligible.mp (bestTrack?_mem best)).1
    refine ⟨single.group, ?_, adaptiveTracks_sublist parameters.audio candidate.mapped⟩
    exact List.ne_nil_of_length_pos (Nat.lt_trans Nat.zero_lt_one expands.2.2)

end AudioTrack

/-! ## Text and other tracks -/

theorem TextTrack.candidate_mem_of_mem_eligible {parameters : Parameters}
    {audioLanguage : Option String} {groups : List MappedGroup} {scored : Scored}
    (mem : scored ∈ eligible parameters audioLanguage groups) :
    scored.1 ∈ Candidate.all groups := by
  obtain ⟨listed, _⟩ := List.mem_filter.mp mem
  obtain ⟨candidate, here, rfl⟩ := List.mem_map.mp listed
  exact here

theorem TextTrack.select?_drawnFrom {parameters : Parameters} {audioLanguage : Option String}
    {groups : List MappedGroup} {selection : Selection} {score : TextScore}
    (found : select? parameters audioLanguage groups = some (selection, score)) :
    selection.DrawnFrom (groups.map MappedGroup.group) := by
  obtain ⟨⟨candidate, _⟩, best, eq⟩ := Option.map_eq_some_iff.mp found
  obtain ⟨rfl, _⟩ := Prod.mk.inj eq
  exact Candidate.selection_drawnFrom (candidate_mem_of_mem_eligible (mem_of_best?_eq_some best))

theorem OtherTrack.select?_drawnFrom {parameters : Parameters} {groups : List MappedGroup}
    {selection : Selection} (found : select? parameters groups = some selection) :
    selection.DrawnFrom (groups.map MappedGroup.group) := by
  obtain ⟨candidate, best, rfl⟩ := Option.map_eq_some_iff.mp found
  exact Candidate.selection_drawnFrom (List.mem_filter.mp (mem_of_best?_eq_some best)).1

end TrackSelection
