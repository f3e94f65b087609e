import TrackSelection.Proofs.Tracks

/-!
# MIME types of adaptive video

Where MIME types may not be mixed, the type with most qualifying tracks is looked for and tracks of
other types are dropped. A track without a MIME type stands for no type, and no type drops nothing.
So one such track among those worth showing undoes the restriction, as soon as the qualifying tracks
are of different types: none of these types has as many tracks as no type has. The main statement is
that this is the only way for an adaptive selection to mix MIME types.
-/

namespace TrackSelection.VideoTrack

def mimeTypeAt (group : TrackGroup) (track : Nat) : Option String :=
  group.formats[track]?.bind Format.sampleMimeType

/-- All tracks have the same MIME type, or none of them has one. -/
def OneMimeType (group : TrackGroup) (tracks : List Nat) : Prop :=
  ∀ a ∈ tracks, ∀ b ∈ tracks, mimeTypeAt group a = mimeTypeAt group b

instance (group : TrackGroup) (tracks : List Nat) : Decidable (OneMimeType group tracks) :=
  inferInstanceAs (Decidable (∀ a ∈ tracks, ∀ b ∈ tracks, _ = _))

/-- The tracks of a group that would be moved between if MIME types did not matter. -/
def qualifyingTracks (video : VideoParameters) (mapped : MappedGroup) : List Nat :=
  (video.viewport.worthShowing mapped.group).filter
    (qualifiesAt (requiredSupport video) video mapped none)

variable {required : AdaptiveSupport} {video : VideoParameters} {mapped : MappedGroup}
variable {tracks : List Nat}

theorem OneMimeType.mono {group : TrackGroup} {fewer : List Nat} (one : OneMimeType group tracks)
    (sub : ∀ track ∈ fewer, track ∈ tracks) : OneMimeType group fewer := by
  intro a ha b hb
  exact one a (sub a ha) b (sub b hb)

/-- To qualify for a MIME type is to qualify at all and to have that type. -/
theorem qualifiesAt_some {type : String} {track : Nat} :
    qualifiesAt required video mapped (some type) track = true ↔
      qualifiesAt required video mapped none track = true ∧
        mimeTypeAt mapped.group track = some type := by
  unfold qualifiesAt mimeTypeAt
  cases here : mapped.tracks[track]? with
  | none => simp
  | some entry =>
      obtain ⟨format, capabilities⟩ := entry
      rw [(MappedGroup.getElem?_tracks.mp here).1]
      simp only [Option.any_some, qualifies, Option.all_none, Option.all_some, Bool.and_true,
        Bool.and_eq_true, decide_eq_true_eq, Option.bind_some]
      exact and_right_comm

/-- A track that qualifies for a type, or for no type in particular, qualifies. -/
theorem qualifiesAt_none_of_qualifiesAt {type : Option String} {track : Nat}
    (qualified : qualifiesAt required video mapped type track = true) :
    qualifiesAt required video mapped none track = true := by
  cases type with
  | none => exact qualified
  | some type => exact (qualifiesAt_some.mp qualified).1

/-! ## The MIME type with most tracks -/

/-- The MIME types of some tracks, each with the number of tracks that qualify for it, for those
that have any. -/
def counts (required : AdaptiveSupport) (video : VideoParameters) (mapped : MappedGroup)
    (tracks : List Nat) : List (Option String × Nat) :=
  ((tracks.map (mimeTypeAt mapped.group)).eraseDups.map fun type =>
    (type, tracks.countP (qualifiesAt required video mapped type))).filter fun entry => 0 < entry.2

theorem commonMimeType_eq (required : AdaptiveSupport) (video : VideoParameters)
    (mapped : MappedGroup) (tracks : List Nat) :
    commonMimeType required video mapped tracks =
      ((best? (fun a b => b.2 < a.2) (counts required video mapped tracks)).map
        Prod.fst).join := rfl

theorem mem_counts {type : Option String} {count : Nat} :
    (type, count) ∈ counts required video mapped tracks ↔
      (∃ track ∈ tracks, mimeTypeAt mapped.group track = type) ∧
        count = tracks.countP (qualifiesAt required video mapped type) ∧ 0 < count := by
  simp only [counts, List.mem_filter, List.mem_map, List.mem_eraseDups, Prod.mk.injEq,
    decide_eq_true_eq]
  constructor
  · rintro ⟨⟨_, has, rfl, rfl⟩, positive⟩
    exact ⟨has, rfl, positive⟩
  · rintro ⟨has, rfl, positive⟩
    exact ⟨⟨type, has, rfl, rfl⟩, positive⟩

/-- If all tracks have MIME types and one of them qualifies, there is a most common type. -/
theorem exists_commonMimeType (declared : ∀ track ∈ tracks, (mimeTypeAt mapped.group track).isSome)
    {track : Nat} (mem : track ∈ tracks)
    (qualified : qualifiesAt required video mapped none track = true) :
    ∃ type, commonMimeType required video mapped tracks = some type := by
  obtain ⟨type, has⟩ := Option.isSome_iff_exists.mp (declared track mem)
  have counted : (some type, tracks.countP (qualifiesAt required video mapped (some type))) ∈
      counts required video mapped tracks := by
    refine mem_counts.mpr ⟨⟨track, mem, has⟩, rfl, ?_⟩
    exact List.countP_pos_iff.mpr ⟨track, mem, qualifiesAt_some.mpr ⟨qualified, has⟩⟩
  cases found : best? (fun a b => b.2 < a.2) (counts required video mapped tracks) with
  | none =>
      rw [best?_eq_none_iff.mp found] at counted
      simp at counted
  | some best =>
      obtain ⟨⟨other, there, same⟩, _⟩ := mem_counts.mp (mem_of_best?_eq_some found)
      obtain ⟨common, known⟩ := Option.isSome_iff_exists.mp (declared other there)
      refine ⟨common, ?_⟩
      rw [commonMimeType_eq, found, Option.map_some, ← same, known]
      rfl

/-- A type with as many tracks as qualify at all is the type of all of these. -/
theorem mimeTypeAt_eq_of_countP_le {type : String}
    (most : tracks.countP (qualifiesAt required video mapped none) ≤
      tracks.countP (qualifiesAt required video mapped (some type))) :
    ∀ track ∈ tracks.filter (qualifiesAt required video mapped none),
      mimeTypeAt mapped.group track = some type := by
  have both : tracks.countP (qualifiesAt required video mapped (some type)) =
      (tracks.filter (qualifiesAt required video mapped none)).countP
        (qualifiesAt required video mapped (some type)) := by
    rw [List.countP_filter]
    refine List.countP_congr fun track _ => ?_
    rw [Bool.and_eq_true]
    exact ⟨fun qualified => ⟨qualified, qualifiesAt_none_of_qualifiesAt qualified⟩, And.left⟩
  rw [both, List.countP_eq_length_filter (p := qualifiesAt required video mapped none)] at most
  have all := List.countP_eq_length.mp (Nat.le_antisymm List.countP_le_length most)
  intro track mem
  exact (qualifiesAt_some.mp (all track mem)).2

/-- A most common type beside a track without a type is the only type that qualifies. -/
theorem mimeTypeAt_eq_of_commonMimeType {type : String} {track : Nat} (mem : track ∈ tracks)
    (undeclared : mimeTypeAt mapped.group track = none)
    (common : commonMimeType required video mapped tracks = some type) :
    ∀ track ∈ tracks.filter (qualifiesAt required video mapped none),
      mimeTypeAt mapped.group track = some type := by
  rw [commonMimeType_eq, Option.join_eq_some_iff, Option.map_eq_some_iff] at common
  obtain ⟨⟨_, count⟩, found, rfl⟩ := common
  obtain ⟨_, same, positive⟩ := mem_counts.mp (mem_of_best?_eq_some found)
  have fewer : tracks.countP (qualifiesAt required video mapped (some type)) ≤
      tracks.countP (qualifiesAt required video mapped none) :=
    List.countP_mono_left fun _ _ => qualifiesAt_none_of_qualifiesAt
  -- no type is counted too, with every track that qualifies, and does not beat the type
  have counted : (none, tracks.countP (qualifiesAt required video mapped none)) ∈
      counts required video mapped tracks :=
    mem_counts.mpr ⟨⟨track, mem, undeclared⟩, rfl, by omega⟩
  have most := le_of_best?_eq_some Prod.snd found _ counted
  apply mimeTypeAt_eq_of_countP_le
  rw [← same]
  exact most

/-! ## One MIME type at a time -/

theorem atLeastTwo_filter_eq_nil {p : Nat → Bool} (few : tracks.length < 2) :
    atLeastTwo (tracks.filter p) = [] := by
  have fewer : (tracks.filter p).length < 2 :=
    Nat.lt_of_le_of_lt (List.length_filter_le p tracks) few
  rw [atLeastTwo, if_pos fewer]

/-- The tracks to move between are those worth showing that qualify, for the most common type unless
types may be mixed. -/
theorem adaptiveTracks_eq (required : AdaptiveSupport) (video : VideoParameters) (mix : Bool)
    (mapped : MappedGroup) :
    adaptiveTracks required video mix mapped =
      atLeastTwo ((video.viewport.worthShowing mapped.group).filter
        (qualifiesAt required video mapped (if mix then none
          else commonMimeType required video mapped
            (video.viewport.worthShowing mapped.group)))) := by
  unfold adaptiveTracks
  dsimp only
  by_cases few : (video.viewport.worthShowing mapped.group).length < 2
  · have nothing : atLeastTwo (video.viewport.worthShowing mapped.group) = [] := if_pos few
    rw [nothing, atLeastTwo_filter_eq_nil few]
    rfl
  · have all : atLeastTwo (video.viewport.worthShowing mapped.group) =
        video.viewport.worthShowing mapped.group := if_neg few
    rw [all]

/-- The tracks to move between are those worth showing that qualify for the most common type. -/
theorem adaptiveTracks_eq_filter (several : adaptiveTracks required video false mapped ≠ []) :
    adaptiveTracks required video false mapped =
      (video.viewport.worthShowing mapped.group).filter (qualifiesAt required video mapped
        (commonMimeType required video mapped (video.viewport.worthShowing mapped.group))) := by
  rw [adaptiveTracks_eq, if_neg Bool.false_ne_true] at several ⊢
  exact (atLeastTwo_eq_self several).1

/-- Moving between tracks of one MIME type works out if all tracks worth showing have a type, and
otherwise if the qualifying ones have the same type anyway. -/
theorem oneMimeType_adaptiveTracks_iff
    (several : adaptiveTracks (requiredSupport video) video false mapped ≠ []) :
    OneMimeType mapped.group (adaptiveTracks (requiredSupport video) video false mapped) ↔
      (∀ track ∈ video.viewport.worthShowing mapped.group,
          (mimeTypeAt mapped.group track).isSome) ∨
        OneMimeType mapped.group (qualifyingTracks video mapped) := by
  have selected := adaptiveTracks_eq_filter several
  constructor
  · intro one
    by_cases declared : ∀ track ∈ video.viewport.worthShowing mapped.group,
        (mimeTypeAt mapped.group track).isSome
    · exact .inl declared
    · right
      cases common : commonMimeType (requiredSupport video) video mapped
          (video.viewport.worthShowing mapped.group) with
      | none =>
          rw [selected, common] at one
          exact one
      | some type =>
          simp only [Classical.not_forall, Option.not_isSome_iff_eq_none] at declared
          obtain ⟨track, mem, undeclared⟩ := declared
          have same := mimeTypeAt_eq_of_commonMimeType mem undeclared common
          intro a ha b hb
          rw [same a ha, same b hb]
  · rintro (declared | one)
    · obtain ⟨track, mem⟩ := List.exists_mem_of_ne_nil _ several
      rw [selected, List.mem_filter] at mem
      obtain ⟨type, common⟩ := exists_commonMimeType declared mem.1
        (qualifiesAt_none_of_qualifiesAt mem.2)
      intro a ha b hb
      rw [selected, common, List.mem_filter] at ha hb
      rw [(qualifiesAt_some.mp ha.2).2, (qualifiesAt_some.mp hb.2).2]
    · refine one.mono fun track mem => ?_
      rw [selected, List.mem_filter] at mem
      exact List.mem_filter.mpr ⟨mem.1, qualifiesAt_none_of_qualifiesAt mem.2⟩

/-! ## Selections from a matrix -/

section Matrix

variable {allowAdaptive : Bool} {parameters : Parameters} {mixed : AdaptiveSupport}
variable {groups : List TrackGroup} {matrix : CapabilityMatrix} {selection : Selection}

/-- Where MIME types may not be mixed, an adaptive selection keeps to one type exactly if all tracks
of its group worth showing have a type, or those that qualify are of one type anyway. -/
theorem oneMimeType_iff_of_selectFrom?
    (forbidden : parameters.video.mayMixMimeTypes = false ∨
      mixed < requiredSupport parameters.video)
    (found : selectFrom? parameters mixed allowAdaptive groups matrix = some (some selection))
    (several : 1 < selection.tracks.length) :
    groups[selection.groupIndex]? = some selection.group ∧
      ∃ row, matrix[selection.groupIndex]? = some row ∧
        (OneMimeType selection.group selection.tracks ↔
          (∀ track ∈ parameters.video.viewport.worthShowing selection.group,
              (mimeTypeAt selection.group track).isSome) ∨
            OneMimeType selection.group
              (qualifyingTracks parameters.video (.padded selection.group row))) := by
  have apart : mayMix parameters.video mixed = false := by
    rw [mayMix, Bool.and_eq_false_iff, decide_eq_false_iff_not]
    exact forbidden.imp_right Nat.not_le_of_lt
  have adaptive := selectAdaptiveFrom?_of_selectFrom? found several
  rw [apart] at adaptive
  obtain ⟨i, row, index, here, there, nonempty, tracks⟩ :=
    exists_of_selectAdaptiveFrom?_eq_some adaptive
  rw [Nat.zero_add] at index
  rw [index]
  rw [tracks] at nonempty ⊢
  exact ⟨here, row, there, oneMimeType_adaptiveTracks_iff nonempty⟩

namespace Sample

def twoCodecs : TrackGroup where
  id := ⟨0⟩
  formats := ["video/avc", "video/hevc", "video/avc"].map fun type =>
    { sampleMimeType := some type }
  nonempty := by decide

def unknownCodec : TrackGroup where
  id := ⟨0⟩
  formats := {} :: ["video/avc", "video/avc", "video/hevc"].map fun type =>
    { sampleMimeType := some type }
  nonempty := by decide

/-- What a renderer can do that plays anything and moves between all of it. -/
def anything : Capabilities where
  format := .handled
  adaptive := .seamless

end Sample

theorem oneMimeType_iff_of_selectFrom?_twoCodecs :
    selectFrom? {} .notSupported true [Sample.twoCodecs]
        [List.replicate 3 Sample.anything] =
      some (some { groupIndex := 0, group := Sample.twoCodecs, tracks := [0, 2] }) ∧
    ∃ row, [List.replicate 3 Sample.anything][0]? = some row ∧
      (OneMimeType Sample.twoCodecs [0, 2] ↔
        (∀ track ∈ ({} : Parameters).video.viewport.worthShowing Sample.twoCodecs,
            (mimeTypeAt Sample.twoCodecs track).isSome) ∨
          OneMimeType Sample.twoCodecs
            (qualifyingTracks ({} : Parameters).video (.padded Sample.twoCodecs row))) := by
  have found : selectFrom? {} .notSupported true [Sample.twoCodecs]
      [List.replicate 3 Sample.anything] =
        some (some { groupIndex := 0, group := Sample.twoCodecs, tracks := [0, 2] }) := by
    decide
  exact ⟨found, (oneMimeType_iff_of_selectFrom? (.inl rfl) found (by decide)).2⟩

/-- A track of unknown type lets both known types in. -/
theorem selectFrom?_unknownCodec :
    ({} : Parameters).video.mayMixMimeTypes = false ∧
      selectFrom? {} .notSupported true [Sample.unknownCodec]
          [List.replicate 4 Sample.anything] =
        some (some { groupIndex := 0, group := Sample.unknownCodec, tracks := [0, 1, 2, 3] }) ∧
      ¬ OneMimeType Sample.unknownCodec [0, 1, 2, 3] := by
  decide

end Matrix

end TrackSelection.VideoTrack
