import TrackSelection.Proofs.LargerViewports
import TrackSelection.Proofs.PlayableTracks

/-!
# The video tracks that playback moves between

A track qualifies if it is worth showing, handled, can be moved to as well as required, and within
all limits. If types may be mixed, playback moves between all tracks that qualify. If not, it moves
between those of the type with most of them; of types with equally many, the one that is seen first
among the tracks worth showing. In either case there have to be two tracks. A type is counted once,
and only if it has any tracks; that finds the same type as counting again at every track. Groups are
taken in order, and the first one with anything to move between is selected from. All this is stated
for groups whose formats have MIME types.
-/

namespace TrackSelection

/-! ## Tracks worth showing -/

namespace Viewport

variable {viewport : Viewport} {group : TrackGroup}

theorem pixelCount_of_filling? {format : Format} {pixels : Nat}
    (filling : format.size?.bind viewport.filling? = some pixels) :
    format.pixelCount = some pixels := by
  obtain ⟨video, size, fills⟩ := Option.bind_eq_some_iff.mp filling
  obtain ⟨_, _, _, rfl⟩ := filling?_eq_some_iff.mp fills
  obtain ⟨width, height⟩ := Format.size?_eq_some_iff.mp size
  rw [Format.pixelCount, width, height]
  rfl

/-- Some track is always worth showing: the one that sets the budget, if there is a budget. -/
theorem worthShowing_ne_nil (viewport : Viewport) (group : TrackGroup) :
    viewport.worthShowing group ≠ [] := by
  suffices shown : ∃ track, track ∈ viewport.worthShowing group by
    obtain ⟨track, mem⟩ := shown
    exact List.ne_nil_of_mem mem
  cases known : viewport.budget? group.formats with
  | none =>
      refine ⟨0, mem_worthShowing.mpr ⟨group.size_pos, fun budget _ other => ?_⟩⟩
      rw [known] at other
      cases other
  | some budget =>
      obtain ⟨⟨format, mem, filling⟩, _⟩ := budget?_eq_some_iff.mp known
      obtain ⟨track, here⟩ := List.getElem?_of_mem mem
      have inside : track < group.size := (List.getElem?_eq_some_iff.mp here).1
      refine ⟨track, mem_worthShowing.mpr ⟨inside, fun other _ same => ?_⟩⟩
      obtain rfl := Option.some.inj (known.symm.trans same)
      simp [here, pixelCount_of_filling? filling]

theorem pairwise_worthShowing (viewport : Viewport) (group : TrackGroup) :
    (viewport.worthShowing group).Pairwise (· < ·) :=
  List.pairwise_lt_range.sublist (viewport.worthShowing_sublist group)

theorem filter_mem_worthShowing (viewport : Viewport) (group : TrackGroup) :
    ((List.range group.size).filter fun track => track ∈ viewport.worthShowing group) =
      viewport.worthShowing group := by
  unfold worthShowing
  dsimp only
  split
  · exact List.filter_eq_self.mpr fun track mem => decide_eq_true mem
  · split
    · exact List.filter_eq_self.mpr fun track mem => decide_eq_true mem
    · refine List.filter_congr fun track mem => ?_
      rw [Bool.eq_iff_iff, decide_eq_true_eq, List.mem_filter, and_iff_right mem]

end Viewport

namespace VideoTrack

/-! ## Tracks that qualify -/

/-- A track is worth showing, handled, can be moved to as well as `required`, and is within all
limits. -/
def IsQualifying (required : AdaptiveSupport) (video : VideoParameters) (mapped : MappedGroup)
    (track : Nat) : Prop :=
  track ∈ video.viewport.worthShowing mapped.group ∧
    ∃ format capabilities, mapped.group.formats[track]? = some format ∧
      mapped.capabilities[track]? = some capabilities ∧ capabilities.format = .handled ∧
      capabilities.adaptive ≠ .notSupported ∧ required ≤ capabilities.adaptive ∧
      WithinLimits video format

variable {required : AdaptiveSupport} {video : VideoParameters} {mapped : MappedGroup}
variable {type : String} {track : Nat}

theorem isQualifying_iff :
    track ∈ video.viewport.worthShowing mapped.group ∧
        qualifiesAt required video mapped none track = true ↔
      IsQualifying required video mapped track := by
  refine and_congr_right fun _ => ?_
  rw [qualifiesAt, Option.any_eq_true]
  constructor
  · rintro ⟨⟨format, capabilities⟩, here, qualified⟩
    obtain ⟨known, reported⟩ := MappedGroup.getElem?_tracks.mp here
    simp only [qualifies, Bool.and_eq_true, decide_eq_true_eq] at qualified
    obtain ⟨⟨⟨⟨handled, moves⟩, enough⟩, _⟩, within⟩ := qualified
    exact ⟨format, capabilities, known, reported, of_decide_eq_true handled, moves, enough,
      isWithinLimits_iff.mp within⟩
  · rintro ⟨format, capabilities, known, reported, handled, moves, enough, within⟩
    refine ⟨(format, capabilities), MappedGroup.getElem?_tracks.mpr ⟨known, reported⟩, ?_⟩
    simp only [qualifies, Bool.and_eq_true, decide_eq_true_eq, Option.all_none]
    exact ⟨⟨⟨⟨decide_eq_true handled, moves⟩, enough⟩, trivial⟩, isWithinLimits_iff.mpr within⟩

instance (required : AdaptiveSupport) (video : VideoParameters) (mapped : MappedGroup)
    (track : Nat) : Decidable (IsQualifying required video mapped track) :=
  decidable_of_iff _ isQualifying_iff

def qualifying (required : AdaptiveSupport) (video : VideoParameters) (mapped : MappedGroup) :
    List Nat :=
  (List.range mapped.group.size).filter fun track => IsQualifying required video mapped track

def qualifyingOf (required : AdaptiveSupport) (video : VideoParameters) (mapped : MappedGroup)
    (type : String) : List Nat :=
  (qualifying required video mapped).filter fun track => mimeTypeAt mapped.group track = some type

theorem qualifying_eq (required : AdaptiveSupport) (video : VideoParameters)
    (mapped : MappedGroup) :
    qualifying required video mapped = (video.viewport.worthShowing mapped.group).filter
      (qualifiesAt required video mapped none) := by
  rw [← Viewport.filter_mem_worthShowing, List.filter_filter, qualifying]
  refine List.filter_congr fun track _ => ?_
  rw [Bool.eq_iff_iff, decide_eq_true_eq, Bool.and_eq_true, decide_eq_true_eq, and_comm]
  exact isQualifying_iff.symm

theorem qualifyingOf_eq (required : AdaptiveSupport) (video : VideoParameters)
    (mapped : MappedGroup) (type : String) :
    qualifyingOf required video mapped type = (video.viewport.worthShowing mapped.group).filter
      (qualifiesAt required video mapped (some type)) := by
  rw [qualifyingOf, qualifying_eq, List.filter_filter]
  refine List.filter_congr fun track _ => ?_
  rw [Bool.eq_iff_iff, Bool.and_eq_true, decide_eq_true_eq, qualifiesAt_some, and_comm]

theorem mem_qualifyingOf :
    track ∈ qualifyingOf required video mapped type ↔
      track ∈ video.viewport.worthShowing mapped.group ∧
        qualifiesAt required video mapped none track = true ∧
        mimeTypeAt mapped.group track = some type := by
  rw [qualifyingOf_eq, List.mem_filter, qualifiesAt_some]

theorem atLeastTwo_eq_ite (tracks : List Nat) :
    atLeastTwo tracks = if 2 ≤ tracks.length then tracks else [] := by
  unfold atLeastTwo
  by_cases few : tracks.length < 2
  · rw [if_pos few, if_neg (Nat.not_le_of_lt few)]
  · rw [if_neg few, if_pos (Nat.le_of_not_lt few)]

/-! ## The most common type -/

/-- No type has more tracks that qualify, and every type that is seen before it, among the tracks
worth showing, has fewer. -/
def IsMostCommon (required : AdaptiveSupport) (video : VideoParameters) (mapped : MappedGroup)
    (type : String) : Prop :=
  (∀ other, (qualifyingOf required video mapped other).length ≤
    (qualifyingOf required video mapped type).length) ∧
  ∃ track ∈ video.viewport.worthShowing mapped.group, mimeTypeAt mapped.group track = some type ∧
    ∀ earlier ∈ video.viewport.worthShowing mapped.group, earlier < track →
      ∀ other, mimeTypeAt mapped.group earlier = some other →
        (qualifyingOf required video mapped other).length <
          (qualifyingOf required video mapped type).length

/-- There is at most one most common type. -/
theorem IsMostCommon.unique {other : String} (common : IsMostCommon required video mapped type)
    (commonToo : IsMostCommon required video mapped other) : type = other := by
  obtain ⟨most, track, shown, has, first⟩ := common
  obtain ⟨mostToo, trackToo, shownToo, hasToo, firstToo⟩ := commonToo
  rcases Nat.lt_trichotomy track trackToo with before | rfl | after
  · exact absurd (firstToo track shown before type has) (Nat.not_lt_of_le (most other))
  · exact Option.some.inj (has.symm.trans hasToo)
  · exact absurd (first trackToo shownToo after other hasToo) (Nat.not_lt_of_le (mostToo type))

def typeCount (required : AdaptiveSupport) (video : VideoParameters) (mapped : MappedGroup)
    (type : Option String) : Nat :=
  (video.viewport.worthShowing mapped.group).countP (qualifiesAt required video mapped type)

theorem length_qualifyingOf (required : AdaptiveSupport) (video : VideoParameters)
    (mapped : MappedGroup) (type : String) :
    (qualifyingOf required video mapped type).length =
      typeCount required video mapped (some type) := by
  rw [qualifyingOf_eq, typeCount, List.countP_eq_length_filter]

/-- The first track worth showing whose MIME type has most tracks. -/
def leader? (required : AdaptiveSupport) (video : VideoParameters) (mapped : MappedGroup) :
    Option Nat :=
  best? (fun a b => typeCount required video mapped (mimeTypeAt mapped.group b) <
      typeCount required video mapped (mimeTypeAt mapped.group a))
    (video.viewport.worthShowing mapped.group)

/-- Counting types once, and only those that have tracks, finds the type of the leader. -/
theorem commonMimeType_eq_leader? (required : AdaptiveSupport) (video : VideoParameters)
    (mapped : MappedGroup) :
    commonMimeType required video mapped (video.viewport.worthShowing mapped.group) =
      (((leader? required video mapped).map (mimeTypeAt mapped.group)).filter
        fun type => 0 < typeCount required video mapped type).join := by
  let number := typeCount required video mapped
  let types := (video.viewport.worthShowing mapped.group).map (mimeTypeAt mapped.group)
  have once : types.eraseDups = types.eraseDupsBy (· == ·) := rfl
  have everyTrack : best? (fun a b => number b < number a) types =
      (leader? required video mapped).map (mimeTypeAt mapped.group) := best?_map (fun _ _ => rfl) _
  have counted :
      best? (fun a b => b.2 < a.2)
          (counts required video mapped (video.viewport.worthShowing mapped.group)) =
        ((best? (fun a b => number b < number a) types).filter fun type => 0 < number type).map
          fun type => (type, number type) := by
    calc best? (fun a b => b.2 < a.2)
          (counts required video mapped (video.viewport.worthShowing mapped.group))
        = best? (fun a b => b.2 < a.2) ((types.eraseDups.filter fun type => 0 < number type).map
            fun type => (type, number type)) := by
          rw [counts, List.filter_map]
          rfl
      _ = (best? (fun a b => number b < number a)
            (types.eraseDups.filter fun type => 0 < number type)).map
              fun type => (type, number type) := best?_map (fun _ _ => rfl) _
      _ = ((best? (fun a b => number b < number a) types).filter fun type => 0 < number type).map
            fun type => (type, number type) := by
          rw [best?_filter_pos, once, best?_eraseDupsBy number fun a b same => by
            rw [eq_of_beq same]]
  rw [commonMimeType_eq, counted, Option.map_map, everyTrack]
  exact congrArg Option.join (congrFun Option.map_id _)

def HasMimeTypes (group : TrackGroup) : Prop :=
  ∀ format ∈ group.formats, format.sampleMimeType.isSome = true

theorem HasMimeTypes.exists_mimeTypeAt (typed : HasMimeTypes mapped.group)
    (shown : track ∈ video.viewport.worthShowing mapped.group) :
    ∃ type, mimeTypeAt mapped.group track = some type := by
  have inside := List.mem_range.mp ((video.viewport.worthShowing_sublist _).subset shown)
  have here := List.getElem?_eq_getElem (l := mapped.group.formats) inside
  rw [mimeTypeAt, here, Option.bind_some]
  exact Option.isSome_iff_exists.mp (typed _ (List.getElem_mem inside))

/-- The leader is of the most common type. -/
theorem isMostCommon_of_leader? (found : leader? required video mapped = some track)
    (has : mimeTypeAt mapped.group track = some type) :
    IsMostCommon required video mapped type := by
  let number := fun track => typeCount required video mapped (mimeTypeAt mapped.group track)
  have shown := mem_of_best?_eq_some found
  refine ⟨?_, track, shown, has, ?_⟩
  · intro other
    rw [length_qualifyingOf, length_qualifyingOf]
    -- a type with tracks is the type of one of them, and that track does not beat the leader
    by_cases counts : 0 < typeCount required video mapped (some other)
    · obtain ⟨another, shownToo, qualified⟩ := List.countP_pos_iff.mp counts
      rw [← has, ← (qualifiesAt_some.mp qualified).2]
      exact le_of_best?_eq_some number found another shownToo
    · omega
  · intro earlier shownToo before other hasToo
    rw [length_qualifyingOf, length_qualifyingOf, ← has, ← hasToo]
    have firstOf := first_of_best?_eq_some (weakOrder_of_number number)
      (fun _ => decide_eq_false (Nat.lt_irrefl _))
      (video.viewport.pairwise_worthShowing mapped.group) (fun _ _ => Nat.lt_asymm) found shownToo
    apply Nat.lt_of_not_le
    intro atLeast
    exact firstOf.2 (decide_eq_false (Nat.not_lt_of_le atLeast)) before

/-- The tracks worth showing that qualify for the most common type are those of the leader's type,
also where no track qualifies and no type is found to be the most common. -/
theorem filter_commonMimeType (typed : HasMimeTypes mapped.group)
    (found : leader? required video mapped = some track)
    (has : mimeTypeAt mapped.group track = some type) :
    (video.viewport.worthShowing mapped.group).filter (qualifiesAt required video mapped
        (commonMimeType required video mapped (video.viewport.worthShowing mapped.group))) =
      qualifyingOf required video mapped type := by
  rw [commonMimeType_eq_leader?, found, Option.map_some, has, Option.filter_some, qualifyingOf_eq]
  by_cases counts : 0 < typeCount required video mapped (some type)
  · rw [if_pos (decide_eq_true counts), Option.join_some]
  · rw [if_neg (by simpa using counts), Option.join_none]
    have nothing (sought : Option String) : (video.viewport.worthShowing mapped.group).filter
        (qualifiesAt required video mapped sought) = [] := by
      refine List.filter_eq_nil_iff.mpr fun other shown qualified => ?_
      obtain ⟨another, hasToo⟩ := typed.exists_mimeTypeAt shown
      have listed := mem_qualifyingOf.mpr
        ⟨shown, qualifiesAt_none_of_qualifiesAt qualified, hasToo⟩
      -- the leader's type would have a track too
      have fewer := Nat.lt_of_lt_of_le (List.length_pos_of_mem listed)
        ((isMostCommon_of_leader? found has).1 another)
      rw [length_qualifyingOf] at fewer
      exact counts fewer
    rw [nothing, nothing]

/-- Of a group with MIME types, playback moves between the tracks of the most common type. -/
theorem exists_isMostCommon (required : AdaptiveSupport) (video : VideoParameters)
    (typed : HasMimeTypes mapped.group) :
    ∃ type, IsMostCommon required video mapped type ∧
      adaptiveTracks required video false mapped =
        atLeastTwo (qualifyingOf required video mapped type) := by
  cases found : leader? required video mapped with
  | none =>
      exact absurd (best?_eq_none_iff.mp found) (video.viewport.worthShowing_ne_nil mapped.group)
  | some track =>
      obtain ⟨type, has⟩ := typed.exists_mimeTypeAt (mem_of_best?_eq_some found)
      refine ⟨type, isMostCommon_of_leader? found has, ?_⟩
      rw [adaptiveTracks_eq, if_neg Bool.false_ne_true, filter_commonMimeType typed found has]

/-! ## The first group -/

/-- The tracks of a group that playback moves between, as well as the parameters require it. -/
def groupTracks (parameters : Parameters) (mixed : AdaptiveSupport) (mapped : MappedGroup) :
    List Nat :=
  adaptiveTracks (requiredSupport parameters.video) parameters.video
    (mayMix parameters.video mixed) mapped

/-- A selection is that of the first group with tracks to move between, and of all these tracks. -/
def IsFirstAdaptive (parameters : Parameters) (mixed : AdaptiveSupport) (groups : List MappedGroup)
    (selection : Selection) : Prop :=
  ∃ i mapped, groups[i]? = some mapped ∧ groupTracks parameters mixed mapped ≠ [] ∧
    (∀ j < i, ∀ earlier, groups[j]? = some earlier → groupTracks parameters mixed earlier = []) ∧
    selection = { groupIndex := i, group := mapped.group,
                  tracks := groupTracks parameters mixed mapped }

variable {parameters : Parameters} {mixed : AdaptiveSupport} {groups : List MappedGroup}
variable {selection : Selection}

theorem IsFirstAdaptive.unique {other : Selection}
    (first : IsFirstAdaptive parameters mixed groups selection)
    (firstToo : IsFirstAdaptive parameters mixed groups other) : selection = other := by
  obtain ⟨i, mapped, here, some, before, rfl⟩ := first
  obtain ⟨j, another, there, someToo, beforeToo, rfl⟩ := firstToo
  rcases Nat.lt_trichotomy i j with less | rfl | more
  · exact absurd (beforeToo i less mapped here) some
  · obtain rfl := Option.some.inj (here.symm.trans there)
    rfl
  · exact absurd (before j more another there) someToo

theorem adaptiveSelection?_eq_none_iff {mix : Bool} {groupIndex : Nat} :
    adaptiveSelection? required video mix groupIndex mapped = none ↔
      adaptiveTracks required video mix mapped = [] := by
  simp [adaptiveSelection?]

theorem isFirstAdaptive_of_selectAdaptive?
    (found : selectAdaptive? parameters mixed groups = some selection) :
    IsFirstAdaptive parameters mixed groups selection := by
  obtain ⟨front, ⟨mapped, i⟩, back, split, chosen, nothing⟩ := List.findSome?_eq_some_iff.mp found
  obtain ⟨some, rfl⟩ := adaptiveSelection?_eq_some_iff.mp chosen
  have inOrder := pairwise_zipIdx groups
  have listed : (mapped, i) ∈ groups.zipIdx := by
    rw [split]
    exact List.mem_append_right _ List.mem_cons_self
  refine ⟨i, mapped, List.mem_zipIdx_iff_getElem?.mp listed, some, ?_, rfl⟩
  intro j before earlier there
  have listedToo : (earlier, j) ∈ groups.zipIdx := List.mem_zipIdx_iff_getElem?.mpr there
  rw [split] at inOrder listedToo
  -- a group at an earlier position stands in front
  rcases List.mem_append.mp listedToo with inFront | later
  · have without : adaptiveSelection? (requiredSupport parameters.video) parameters.video
        (mayMix parameters.video mixed) j earlier = none := nothing (earlier, j) inFront
    exact adaptiveSelection?_eq_none_iff.mp without
  · rcases List.mem_cons.mp later with same | inBack
    · obtain ⟨_, rfl⟩ := Prod.mk.inj same
      exact absurd before (Nat.lt_irrefl _)
    · have after := (List.pairwise_cons.mp (List.pairwise_append.mp inOrder).2.1).1 _ inBack
      exact absurd before (Nat.lt_asymm after)

/-- The first group with tracks to move between is selected from. -/
theorem selectAdaptive?_eq_some_iff :
    selectAdaptive? parameters mixed groups = some selection ↔
      IsFirstAdaptive parameters mixed groups selection := by
  refine ⟨isFirstAdaptive_of_selectAdaptive?, fun first => ?_⟩
  cases found : selectAdaptive? parameters mixed groups with
  | none =>
      obtain ⟨i, mapped, here, some, _⟩ := first
      have nothing : adaptiveSelection? (requiredSupport parameters.video) parameters.video
          (mayMix parameters.video mixed) i mapped = none :=
        List.findSome?_eq_none_iff.mp found (mapped, i) (List.mem_zipIdx_iff_getElem?.mpr here)
      exact absurd (adaptiveSelection?_eq_none_iff.mp nothing) some
  | some other => rw [(isFirstAdaptive_of_selectAdaptive? found).unique first]

/-- Of a group with MIME types, playback moves between all tracks that qualify if types may be
mixed, and else between those of the most common type, of which there is one; in either case only
if there are two of them. An adaptive selection is made from the first group where there are. -/
theorem adaptiveTracks_exact (required : AdaptiveSupport) (parameters : Parameters)
    (mapped : MappedGroup) (typed : HasMimeTypes mapped.group) :
    (adaptiveTracks required parameters.video true mapped =
        if 2 ≤ (qualifying required parameters.video mapped).length
        then qualifying required parameters.video mapped else []) ∧
      (∃ type, IsMostCommon required parameters.video mapped type) ∧
      (∀ type, IsMostCommon required parameters.video mapped type →
        adaptiveTracks required parameters.video false mapped =
          if 2 ≤ (qualifyingOf required parameters.video mapped type).length
          then qualifyingOf required parameters.video mapped type else []) ∧
      ∀ (mixed : AdaptiveSupport) (groups : List MappedGroup) (selection : Selection),
        selectAdaptive? parameters mixed groups = some selection ↔
          IsFirstAdaptive parameters mixed groups selection := by
  obtain ⟨type, common, tracks⟩ := exists_isMostCommon required parameters.video typed
  refine ⟨?_, ⟨type, common⟩, ?_, fun _ _ _ => selectAdaptive?_eq_some_iff⟩
  · rw [adaptiveTracks_eq, if_pos rfl, ← qualifying_eq, atLeastTwo_eq_ite]
  · intro other commonToo
    rw [← common.unique commonToo, tracks, atLeastTwo_eq_ite]

namespace Sample

/-- Two codecs with two tracks each, one after the other. -/
def rivalCodecs : MappedGroup where
  group := {
    id := ⟨0⟩
    formats := ["video/hevc", "video/avc", "video/avc", "video/hevc"].map fun type =>
      { sampleMimeType := some type }
    nonempty := List.cons_ne_nil _ _ }
  capabilities := List.replicate 4 anything
  covers := rfl

theorem hasMimeTypes_rivalCodecs : HasMimeTypes rivalCodecs.group := by
  unfold HasMimeTypes
  decide

end Sample

/-- Of two types with equally many tracks the one seen first is selected. -/
theorem adaptiveTracks_exact_rivalCodecs :
    HasMimeTypes Sample.rivalCodecs.group ∧
      adaptiveTracks .seamless {} true Sample.rivalCodecs = [0, 1, 2, 3] ∧
      (∃ type, IsMostCommon .seamless {} Sample.rivalCodecs type ∧
        qualifyingOf .seamless {} Sample.rivalCodecs type = [0, 3]) ∧
      IsFirstAdaptive {} .notSupported [Sample.rivalCodecs]
        { groupIndex := 0, group := Sample.rivalCodecs.group, tracks := [0, 3] } := by
  obtain ⟨mixed, ⟨type, common⟩, unmixed, first⟩ :=
    adaptiveTracks_exact .seamless {} Sample.rivalCodecs Sample.hasMimeTypes_rivalCodecs
  have several : adaptiveTracks .seamless {} false Sample.rivalCodecs = [0, 3] := by decide
  refine ⟨Sample.hasMimeTypes_rivalCodecs, ?_, ⟨type, common, ?_⟩, ?_⟩
  · rw [mixed]
    decide
  · have same := unmixed type common
    rw [several] at same
    split at same
    · exact same.symm
    · cases same
  · exact (first .notSupported _ _).mp (by decide)

end VideoTrack

end TrackSelection
