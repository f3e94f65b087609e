import TrackSelection.Proofs.MimeTypes
import TrackSelection.Proofs.Winners

/-!
# Tracks that can be played

Every kind of choice has its own rule for the tracks that it considers. What the rules have in
common is that a renderer is never given a track that it does not support, and never one of several
that it does not handle. Video is in addition kept to what is worth showing and within the limits,
and a track beyond that is only ever selected alone. The statements on single choices go through the
candidates that the selected tracks come from.
-/

namespace TrackSelection

theorem Capabilities.isSupported_iff {capabilities : Capabilities} {allowExceeding : Bool} :
    capabilities.isSupported allowExceeding = true ↔
      capabilities.format = .handled ∨
        allowExceeding = true ∧ capabilities.format = .exceedsCapabilities := by
  simp [isSupported, isHandled]

theorem Capabilities.isSupported_of_isHandled {capabilities : Capabilities}
    (handled : capabilities.isHandled = true) (allowExceeding : Bool) :
    capabilities.isSupported allowExceeding = true := by
  rw [isSupported, handled, Bool.true_or]

/-! ## Selected tracks as candidates -/

/-- Every track of a selection is a candidate, from the group of the selection, with a property. -/
def Selection.EachTrack (selection : Selection) (groups : List MappedGroup)
    (p : Candidate → Prop) : Prop :=
  ∀ track ∈ selection.tracks, ∃ candidate ∈ Candidate.all groups,
    candidate.groupIndex = selection.groupIndex ∧ candidate.mapped.group = selection.group ∧
      candidate.track = track ∧ p candidate

/-- A renderer that was given some groups can play a selection: it supports every track, and handles
each of several. -/
structure Selection.PlayableFrom (selection : Selection) (groups : List MappedGroup)
    (mayExceed : Bool) : Prop where
  supported : selection.EachTrack groups fun candidate =>
    candidate.capabilities.isSupported mayExceed = true
  handled : selection.isAdaptive = true → selection.EachTrack groups fun candidate =>
    candidate.capabilities.isHandled = true

namespace Selection

variable {selection : Selection} {groups : List MappedGroup} {p q : Candidate → Prop}

theorem EachTrack.imp (each : selection.EachTrack groups p)
    (weaker : ∀ candidate, p candidate → q candidate) : selection.EachTrack groups q := by
  intro track selected
  obtain ⟨candidate, mem, index, group, position, has⟩ := each track selected
  exact ⟨candidate, mem, index, group, position, weaker candidate has⟩

theorem PlayableFrom.of_handled
    (each : selection.EachTrack groups fun candidate => candidate.capabilities.isHandled = true)
    (mayExceed : Bool) : selection.PlayableFrom groups mayExceed where
  supported := each.imp fun _ handled => Capabilities.isSupported_of_isHandled handled mayExceed
  handled _ := each

end Selection

namespace Candidate

variable {groups : List MappedGroup} {candidate : Candidate} {p : Candidate → Prop}

theorem eachTrack_selection (mem : candidate ∈ all groups) (has : p candidate) :
    candidate.selection.EachTrack groups p := by
  intro track selected
  obtain rfl := List.mem_singleton.mp selected
  exact ⟨candidate, mem, rfl, rfl, rfl, has⟩

theorem selection_playableFrom {mayExceed : Bool} (mem : candidate ∈ all groups)
    (supported : candidate.capabilities.isSupported mayExceed = true) :
    candidate.selection.PlayableFrom groups mayExceed where
  supported := eachTrack_selection mem supported
  -- one track is not several
  handled adaptive := by cases adaptive

end Candidate

/-! ## Video -/

namespace VideoTrack

structure WithinLimits (video : VideoParameters) (format : Format) : Prop where
  width : ∀ width ∈ format.width, width ≤ video.maxWidth
  height : ∀ height ∈ format.height, height ≤ video.maxHeight
  frameRate : ∀ rate ∈ format.frameRate, rate.atMost video.maxFrameRate = true
  bitrate : ∀ bitrate ∈ format.bitrate, bitrate ≤ video.maxBitrate

theorem isWithin_iff {value : Option UInt32} {limit : UInt32} :
    isWithin value limit = true ↔ ∀ known ∈ value, known ≤ limit := by
  cases value with
  | none => simp [isWithin]
  | some known => simp [isWithin]

theorem isWithinLimits_iff {video : VideoParameters} {format : Format} :
    isWithinLimits video format = true ↔ WithinLimits video format := by
  have rates : (format.frameRate.all fun rate => rate.atMost video.maxFrameRate) = true ↔
      ∀ rate ∈ format.frameRate, rate.atMost video.maxFrameRate = true := by
    cases format.frameRate with
    | none => simp
    | some rate => simp
  simp only [isWithinLimits, Bool.and_eq_true, isWithin_iff, rates]
  constructor
  · rintro ⟨⟨⟨width, height⟩, frameRate⟩, bitrate⟩
    exact ⟨width, height, frameRate, bitrate⟩
  · rintro ⟨width, height, frameRate, bitrate⟩
    exact ⟨⟨⟨width, height⟩, frameRate⟩, bitrate⟩

variable {parameters : Parameters} {required mixed : AdaptiveSupport} {allowAdaptive mix : Bool}
variable {groups : List MappedGroup} {selection : Selection}

/-- The tracks to move between are worth showing and qualify for some MIME type. -/
theorem qualifiesAt_of_mem_adaptiveTracks {video : VideoParameters} {mapped : MappedGroup}
    {track : Nat} (mem : track ∈ adaptiveTracks required video mix mapped) :
    track ∈ video.viewport.worthShowing mapped.group ∧
      qualifiesAt required video mapped none track = true := by
  have kept := (atLeastTwo_sublist _).subset mem
  obtain ⟨visible, qualified⟩ := List.mem_filter.mp kept
  exact ⟨(atLeastTwo_sublist _).subset visible, qualifiesAt_none_of_qualifiesAt qualified⟩

theorem isHandled_and_isWithinLimits_of_qualifies {video : VideoParameters}
    {track : Format × Capabilities} (qualified : qualifies required video none track = true) :
    track.2.isHandled = true ∧ isWithinLimits video track.1 = true := by
  simp only [qualifies, Bool.and_eq_true] at qualified
  exact ⟨qualified.1.1.1.1, qualified.2⟩

/-- Each of several tracks is handled, worth showing and within the limits. -/
theorem eachTrack_of_selectAdaptive?
    (found : selectAdaptive? parameters mixed groups = some selection) :
    selection.EachTrack groups fun candidate => candidate.capabilities.isHandled = true ∧
      isWithinConstraints parameters.video candidate = true := by
  obtain ⟨mapped, here, chosen⟩ := exists_of_selectAdaptive?_eq_some found
  obtain ⟨_, same⟩ := adaptiveSelection?_eq_some_iff.mp chosen
  intro track selected
  have group : mapped.group = selection.group := by rw [same]
  have tracks : selection.tracks = adaptiveTracks (requiredSupport parameters.video)
      parameters.video (mayMix parameters.video mixed) mapped := by rw [same]
  rw [tracks] at selected
  obtain ⟨visible, qualifiedAt⟩ := qualifiesAt_of_mem_adaptiveTracks selected
  obtain ⟨⟨format, capabilities⟩, there, qualified⟩ := (Option.any_eq_true ..).mp qualifiedAt
  obtain ⟨handled, within⟩ := isHandled_and_isWithinLimits_of_qualifies qualified
  refine ⟨⟨selection.groupIndex, mapped, track, format, capabilities⟩,
    Candidate.mem_all.mpr ⟨here, there⟩, rfl, group, rfl, handled, ?_⟩
  rw [isWithinConstraints, within, Bool.and_true]
  exact List.contains_iff_mem.mpr visible

theorem select?_playableFrom
    (found : select? parameters mixed allowAdaptive groups = some selection) :
    selection.PlayableFrom groups parameters.playback.mayExceedCapabilities := by
  rcases select?_cases found with ⟨_, _, adaptive⟩ | fixed
  · exact .of_handled ((eachTrack_of_selectAdaptive? adaptive).imp fun _ => And.left) _
  · obtain ⟨candidate, mem, eligible, rfl⟩ := exists_of_selectFixed?_eq_some fixed
    rw [isEligible, Bool.and_eq_true] at eligible
    exact Candidate.selection_playableFrom mem eligible.1

/-- Video is worth showing and within the limits, but for a single track that may exceed them. -/
theorem select?_withinConstraints
    (found : select? parameters mixed allowAdaptive groups = some selection) :
    (selection.EachTrack groups fun candidate =>
        isWithinConstraints parameters.video candidate = true) ∨
      parameters.video.mayExceedLimits = true ∧ selection.tracks.length = 1 := by
  rcases select?_cases found with ⟨_, _, adaptive⟩ | fixed
  · exact .inl ((eachTrack_of_selectAdaptive? adaptive).imp fun _ => And.right)
  · obtain ⟨candidate, mem, eligible, rfl⟩ := exists_of_selectFixed?_eq_some fixed
    rw [isEligible, Bool.and_eq_true, Bool.or_eq_true] at eligible
    rcases eligible.2 with within | may
    · exact .inl (Candidate.eachTrack_selection mem within)
    · exact .inr ⟨may, rfl⟩

end VideoTrack

/-! ## Audio, text and other tracks -/

namespace AudioTrack

variable {parameters : Parameters} {systemLanguages : List String} {allowAdaptive : Bool}
variable {groups : List MappedGroup} {selection : Selection} {score : AudioScore}

theorem isSupported_of_mem_eligible {scored : Scored}
    (mem : scored ∈ eligible parameters systemLanguages groups) :
    scored.1.capabilities.isSupported parameters.playback.mayExceedCapabilities = true := by
  have may := (mem_eligible.mp mem).2.1
  rw [isEligible, Bool.and_eq_true] at may
  exact may.1

theorem isHandled_of_sharesConfiguration {audio : AudioParameters} {reference : Format}
    {entry : Format × Capabilities} (shares : sharesConfiguration audio reference entry = true) :
    entry.2.isHandled = true := by
  simp only [sharesConfiguration, Bool.and_eq_true] at shares
  exact shares.1.1.1.1

theorem select?_playableFrom
    (found : select? parameters systemLanguages allowAdaptive groups = some (selection, score)) :
    selection.PlayableFrom groups parameters.playback.mayExceedCapabilities := by
  obtain ⟨candidate, best, cases⟩ := select?_cases found
  have eligible := bestTrack?_mem best
  have mem := (mem_eligible.mp eligible).1
  rcases cases with ⟨_, rfl⟩ | ⟨_, rfl⟩
  · exact Candidate.selection_playableFrom mem (isSupported_of_mem_eligible eligible)
  · refine .of_handled ?_ _
    intro track selected
    obtain ⟨_, _, _, ⟨format, capabilities⟩, there, shares⟩ := mem_adaptiveTracks.mp selected
    exact ⟨⟨candidate.groupIndex, candidate.mapped, track, format, capabilities⟩,
      Candidate.mem_all.mpr ⟨(Candidate.mem_all.mp mem).1, there⟩, rfl, rfl, rfl,
      isHandled_of_sharesConfiguration shares⟩

end AudioTrack

theorem TextTrack.select?_playableFrom {parameters : Parameters} {audioLanguage : Option String}
    {groups : List MappedGroup} {selection : Selection} {score : TextScore}
    (found : select? parameters audioLanguage groups = some (selection, score)) :
    selection.PlayableFrom groups parameters.playback.mayExceedCapabilities := by
  obtain ⟨⟨candidate, _⟩, best, same⟩ := Option.map_eq_some_iff.mp found
  obtain ⟨rfl, _⟩ := Prod.mk.inj same
  have eligible := mem_of_best?_eq_some best
  have may := (List.mem_filter.mp eligible).2
  rw [isEligible, Bool.and_eq_true] at may
  exact Candidate.selection_playableFrom (candidate_mem_of_mem_eligible eligible) may.1

theorem OtherTrack.select?_playableFrom {parameters : Parameters} {groups : List MappedGroup}
    {selection : Selection} (found : select? parameters groups = some selection) :
    selection.PlayableFrom groups parameters.playback.mayExceedCapabilities := by
  obtain ⟨candidate, best, rfl⟩ := Option.map_eq_some_iff.mp found
  obtain ⟨mem, may⟩ := List.mem_filter.mp (mem_of_best?_eq_some best)
  exact Candidate.selection_playableFrom mem may

/-! ## The selections of a pass -/

namespace Pass

variable {mapping : Mapping} {parameters : Parameters} {systemLanguages : List String}
variable {i : Nat} {renderer : MappedRenderer} {selection : Selection}

/-- Whatever its type, a renderer would only select what it can play. -/
theorem ownChoice_playableFrom
    (own : ownChoice mapping parameters systemLanguages renderer = some selection) :
    selection.PlayableFrom renderer.groups parameters.playback.mayExceedCapabilities := by
  rcases ownChoice_cases own with ⟨_, video⟩ | ⟨_, _, audio⟩ | ⟨_, _, text⟩ | other
  · exact VideoTrack.select?_playableFrom video
  · exact AudioTrack.select?_playableFrom audio
  · exact TextTrack.select?_playableFrom text
  · exact OtherTrack.select?_playableFrom other

theorem capabilities?_of_mem_all {candidate : Candidate}
    (here : mapping.renderers[i]? = some renderer)
    (mem : candidate ∈ Candidate.all renderer.groups) :
    mapping.capabilities? i candidate.groupIndex candidate.track = some candidate.capabilities := by
  obtain ⟨there, entry⟩ := Candidate.mem_all.mp mem
  rw [Mapping.capabilities?, Mapping.group?, here, Option.bind_some, there, Option.bind_some]
  exact (MappedGroup.getElem?_tracks.mp entry).2

theorem exists_capabilities?_of_eachTrack (p : Capabilities → Prop)
    (here : mapping.renderers[i]? = some renderer)
    (each : selection.EachTrack renderer.groups fun candidate => p candidate.capabilities)
    {track : Nat} (selected : track ∈ selection.tracks) :
    ∃ capabilities, mapping.capabilities? i selection.groupIndex track = some capabilities ∧
      p capabilities := by
  obtain ⟨candidate, mem, index, _, rfl, has⟩ := each track selected
  rw [← index]
  exact ⟨candidate.capabilities, capabilities?_of_mem_all here mem, has⟩

theorem exists_format_of_isWithinConstraints {candidate : Candidate} {groups : List MappedGroup}
    (mem : candidate ∈ Candidate.all groups)
    (within : VideoTrack.isWithinConstraints parameters.video candidate = true) :
    candidate.track ∈ parameters.video.viewport.worthShowing candidate.mapped.group ∧
      ∃ format, candidate.mapped.group.formats[candidate.track]? = some format ∧
        VideoTrack.WithinLimits parameters.video format := by
  rw [VideoTrack.isWithinConstraints, Bool.and_eq_true, List.contains_iff_mem] at within
  have entry := (Candidate.mem_all.mp mem).2
  exact ⟨within.1, candidate.format, (MappedGroup.getElem?_tracks.mp entry).1,
    VideoTrack.isWithinLimits_iff.mp within.2⟩

/-- A renderer supports every track that it is given, and handles each of several. Every video track
is worth showing and within all limits, unless it is selected alone and may exceed them. -/
theorem computed_playable (here : mapping.renderers[i]? = some renderer)
    (found : (computed mapping parameters systemLanguages)[i]? = some (some selection)) :
    renderer.trackGroups[selection.groupIndex]? = some selection.group ∧
      (∀ track ∈ selection.tracks, ∃ capabilities,
        mapping.capabilities? i selection.groupIndex track = some capabilities ∧
          (capabilities.format = .handled ∨
            parameters.playback.mayExceedCapabilities = true ∧
              capabilities.format = .exceedsCapabilities) ∧
          (1 < selection.tracks.length → capabilities.format = .handled)) ∧
      (renderer.trackType = .video →
        (∀ track ∈ selection.tracks,
          track ∈ parameters.video.viewport.worthShowing selection.group ∧
            ∃ format, selection.group.formats[track]? = some format ∧
              VideoTrack.WithinLimits parameters.video format) ∨
        parameters.video.mayExceedLimits = true ∧ selection.tracks.length = 1) := by
  have own := ownChoice_of_computed here found
  have playable := ownChoice_playableFrom own
  refine ⟨(computed_drawnFrom here found).group, ?_, ?_⟩
  · intro track selected
    obtain ⟨capabilities, asked, supported⟩ := exists_capabilities?_of_eachTrack
      (·.isSupported parameters.playback.mayExceedCapabilities = true) here playable.supported
      selected
    refine ⟨capabilities, asked, Capabilities.isSupported_iff.mp supported, ?_⟩
    intro several
    obtain ⟨_, askedToo, handled⟩ := exists_capabilities?_of_eachTrack (·.isHandled = true) here
      (playable.handled (decide_eq_true several)) selected
    obtain rfl := Option.some.inj (asked.symm.trans askedToo)
    exact of_decide_eq_true handled
  · intro video
    rw [ownChoice_of_video video] at own
    rcases VideoTrack.select?_withinConstraints own with each | alone
    · refine .inl fun track selected => ?_
      obtain ⟨candidate, mem, _, group, rfl, within⟩ := each track selected
      rw [← group]
      exact exists_format_of_isWithinConstraints mem within
    · exact .inr alone

namespace Sample

def sizes : TrackGroup where
  id := ⟨0⟩
  formats := [640, 1280, 3840].map fun width => { width := some width }
  nonempty := by decide

/-- A renderer that was given this video, and handles all sizes but the largest. -/
def cinema : Mapping where
  renderers := [
    { name := "cinema", trackType := .video, mixedMimeTypes := .notSupported,
      groups := [⟨sizes, [.handled, .handled, .exceedsCapabilities].map fun support =>
        { format := support, adaptive := .seamless }, rfl⟩] }]
  unmapped := []

/-- Parameters that let nothing beyond a width pass. -/
def atMost (width : UInt32) : Parameters where
  video := { maxWidth := width, mayExceedLimits := false }

end Sample

theorem computed_playable_cinema :
    computed Sample.cinema (Sample.atMost 1920) [] =
        [some { groupIndex := 0, group := Sample.sizes, tracks := [0, 1] }] ∧
      (∀ track ∈ [0, 1], ∃ capabilities,
        Sample.cinema.capabilities? 0 0 track = some capabilities ∧
          capabilities.format = .handled) ∧
      ∀ track ∈ [0, 1], ∃ format, Sample.sizes.formats[track]? = some format ∧
        VideoTrack.WithinLimits (Sample.atMost 1920).video format := by
  have all : computed Sample.cinema (Sample.atMost 1920) [] =
      [some { groupIndex := 0, group := Sample.sizes, tracks := [0, 1] }] := by decide
  have found : (computed Sample.cinema (Sample.atMost 1920) [])[0]? =
      some (some { groupIndex := 0, group := Sample.sizes, tracks := [0, 1] }) := by
    rw [all]
    rfl
  obtain ⟨_, supported, limited⟩ :=
    @computed_playable Sample.cinema (Sample.atMost 1920) [] 0 _ _ rfl found
  refine ⟨all, ?_, ?_⟩
  · intro track selected
    obtain ⟨capabilities, asked, _, handled⟩ := supported track selected
    exact ⟨capabilities, asked, handled (by decide)⟩
  · intro track selected
    obtain within | ⟨may, _⟩ := limited rfl
    · exact (within track selected).2
    · cases may

end Pass

end TrackSelection
