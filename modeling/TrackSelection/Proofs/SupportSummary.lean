import TrackSelection.Mapping.Support
import TrackSelection.Proofs.PlayableTracks

/-!
# The summary of support predicts the selections

How well a renderer supports what it was given is summed up in one level, from the best of its
tracks, and the renderers of a type in the best of their levels. A pass looks at the tracks one by
one. The main statement is that the two agree: where tracks beyond the limits are better than none,
a type is given a selection exactly if its level is high enough, and a renderer without rivals
exactly if its own level is.
-/

namespace TrackSelection

/-! ## The highest of some levels -/

theorem rank_le_ite_iff {α : Type} (rank : α → Nat) (a b c : α) :
    rank c ≤ rank (if rank a ≤ rank b then b else a) ↔ rank c ≤ rank a ∨ rank c ≤ rank b := by
  split <;> omega

theorem FormatSupport.le_max_iff (a b c : FormatSupport) : c ≤ max a b ↔ c ≤ a ∨ c ≤ b :=
  rank_le_ite_iff rank a b c

theorem RendererSupport.le_max_iff (a b c : RendererSupport) : c ≤ max a b ↔ c ≤ a ∨ c ≤ b :=
  rank_le_ite_iff rank a b c

/-- The highest of some levels reaches a level if one of them does. -/
theorem le_foldl_max_iff {α : Type} [LE α] [Max α]
    (le_max_iff : ∀ a b c : α, c ≤ max a b ↔ c ≤ a ∨ c ≤ b) {levels : List α} {start c : α} :
    c ≤ levels.foldl max start ↔ ∃ level ∈ start :: levels, c ≤ level := by
  induction levels generalizing start with
  | nil => simp
  | cons level rest ih =>
      rw [List.foldl_cons, ih]
      simp only [List.mem_cons, exists_eq_or_imp, le_max_iff, or_assoc]

/-! ## The level that a selection needs -/

/-- The least support of a track that may be selected. -/
def FormatSupport.needed (mayExceed : Bool) : FormatSupport :=
  if mayExceed then .exceedsCapabilities else .handled

/-- The least support of a renderer that can select something. -/
def RendererSupport.needed (mayExceed : Bool) : RendererSupport :=
  if mayExceed then .exceedsCapabilitiesTracks else .playableTracks

variable {mayExceed : Bool}

theorem Capabilities.needed_le_format_iff {capabilities : Capabilities} :
    FormatSupport.needed mayExceed ≤ capabilities.format ↔
      capabilities.isSupported mayExceed = true := by
  rw [isSupported_iff]
  generalize capabilities.format = level
  cases mayExceed <;> cases level <;> decide

theorem RendererSupport.needed_le_ofFormatSupport_iff {level : FormatSupport} :
    needed mayExceed ≤ ofFormatSupport level ↔ FormatSupport.needed mayExceed ≤ level := by
  cases mayExceed <;> cases level <;> decide

theorem RendererSupport.not_needed_le_noTracks : ¬ needed mayExceed ≤ noTracks := by
  cases mayExceed <;> decide

/-! ## The levels of renderers and types -/

theorem Candidate.exists_mem_all_iff {groups : List MappedGroup} {p : Capabilities → Prop} :
    (∃ candidate ∈ all groups, p candidate.capabilities) ↔
      ∃ mapped ∈ groups, ∃ capabilities ∈ mapped.capabilities, p capabilities := by
  constructor
  · rintro ⟨candidate, mem, has⟩
    obtain ⟨there, entry⟩ := mem_all.mp mem
    have listed := (MappedGroup.getElem?_tracks.mp entry).2
    exact ⟨_, List.mem_of_getElem? there, _, List.mem_of_getElem? listed, has⟩
  · rintro ⟨mapped, mem, capabilities, reported, has⟩
    obtain ⟨i, there⟩ := List.getElem?_of_mem mem
    obtain ⟨track, listed⟩ := List.getElem?_of_mem reported
    have inside : track < mapped.group.size := by
      rw [← mapped.covers]
      exact (List.getElem?_eq_some_iff.mp listed).1
    obtain ⟨format, same, entry⟩ := MappedGroup.exists_tracks_of_lt inside
    obtain rfl := Option.some.inj (listed.symm.trans (MappedGroup.getElem?_tracks.mp entry).2)
    exact ⟨⟨i, mapped, track, format, capabilities⟩, mem_all.mpr ⟨there, entry⟩, has⟩

/-- The level of a renderer is high enough exactly if it supports one of its tracks. -/
theorem MappedRenderer.needed_le_support_iff {renderer : MappedRenderer} :
    RendererSupport.needed mayExceed ≤ renderer.support ↔
      ∃ candidate ∈ Candidate.all renderer.groups,
        candidate.capabilities.isSupported mayExceed = true := by
  have reaches : RendererSupport.needed mayExceed ≤ renderer.support ↔
      ∃ level ∈ renderer.groups.flatMap fun mapped => mapped.capabilities.map Capabilities.format,
        FormatSupport.needed mayExceed ≤ level := by
    unfold support
    dsimp only
    split
    · rename_i none
      simp [none, RendererSupport.not_needed_le_noTracks]
    · rename_i first rest levels
      rw [RendererSupport.needed_le_ofFormatSupport_iff, levels]
      exact le_foldl_max_iff FormatSupport.le_max_iff
  rw [reaches, Candidate.exists_mem_all_iff (p := fun c => c.isSupported mayExceed = true)]
  simp only [List.mem_flatMap, List.mem_map, ← Capabilities.needed_le_format_iff]
  constructor
  · rintro ⟨_, ⟨mapped, mem, capabilities, reported, rfl⟩, enough⟩
    exact ⟨mapped, mem, capabilities, reported, enough⟩
  · rintro ⟨mapped, mem, capabilities, reported, enough⟩
    exact ⟨_, ⟨mapped, mem, capabilities, reported, rfl⟩, enough⟩

/-- The level of a type is high enough exactly if that of one of its renderers is. -/
theorem Mapping.needed_le_typeSupport_iff {mapping : Mapping} {type : TrackType} :
    RendererSupport.needed mayExceed ≤ mapping.typeSupport type ↔
      ∃ renderer ∈ mapping.renderers, renderer.trackType = type ∧
        RendererSupport.needed mayExceed ≤ renderer.support := by
  rw [typeSupport, le_foldl_max_iff RendererSupport.le_max_iff]
  constructor
  · rintro ⟨level, mem, enough⟩
    rcases List.mem_cons.mp mem with rfl | mem
    · exact absurd enough RendererSupport.not_needed_le_noTracks
    · obtain ⟨renderer, listed, rfl⟩ := List.mem_map.mp mem
      obtain ⟨listed, same⟩ := List.mem_filter.mp listed
      exact ⟨renderer, listed, of_decide_eq_true same, enough⟩
  · rintro ⟨renderer, listed, same, enough⟩
    refine ⟨renderer.support, List.mem_cons_of_mem _ ?_, enough⟩
    exact List.mem_map_of_mem (List.mem_filter.mpr ⟨listed, decide_eq_true same⟩)

/-! ## Choices that are made as soon as a track is supported -/

theorem isSome_best?_of_mem {α : Type} {better : α → α → Bool} {items : List α} {a : α}
    (mem : a ∈ items) : (best? better items).isSome = true := by
  rw [Option.isSome_iff_ne_none]
  intro none
  rw [best?_eq_none_iff.mp none] at mem
  cases mem

variable {parameters : Parameters} {systemLanguages : List String} {groups : List MappedGroup}
variable {candidate : Candidate}

theorem VideoTrack.isSome_select?_of_isSupported (may : parameters.video.mayExceedLimits = true)
    (mem : candidate ∈ Candidate.all groups)
    (supported :
      candidate.capabilities.isSupported parameters.playback.mayExceedCapabilities = true)
    (mixed : AdaptiveSupport) (allowAdaptive : Bool) :
    (select? parameters mixed allowAdaptive groups).isSome = true := by
  have eligible : isEligible parameters candidate = true := by
    rw [isEligible, supported, may, Bool.or_true, Bool.and_true]
  have fixed : (selectFixed? parameters groups).isSome = true := by
    rw [selectFixed?, Option.isSome_map]
    exact isSome_best?_of_mem (List.mem_filter.mpr ⟨mem, eligible⟩)
  simp [select?, fixed]

theorem AudioTrack.isSome_select?_of_isSupported (may : parameters.audio.mayExceedLimits = true)
    (mem : candidate ∈ Candidate.all groups)
    (supported :
      candidate.capabilities.isSupported parameters.playback.mayExceedCapabilities = true)
    (systemLanguages : List String) (allowAdaptive : Bool) :
    (select? parameters systemLanguages allowAdaptive groups).isSome = true := by
  let score := AudioScore.ofTrack parameters systemLanguages candidate.format candidate.capabilities
  have eligible : isEligible parameters (candidate, score) = true := by
    rw [isEligible, supported, may, Bool.or_true, Bool.and_true]
  rw [select?, Option.isSome_map]
  exact isSome_best?_of_mem (mem_eligible.mpr ⟨mem, eligible, rfl⟩)

theorem OtherTrack.isSome_select?_of_isSupported (mem : candidate ∈ Candidate.all groups)
    (supported :
      candidate.capabilities.isSupported parameters.playback.mayExceedCapabilities = true) :
    (select? parameters groups).isSome = true := by
  rw [select?, Option.isSome_map]
  exact isSome_best?_of_mem (List.mem_filter.mpr ⟨mem, supported⟩)

namespace Pass

variable {mapping : Mapping} {type : TrackType} {i : Nat} {renderer : MappedRenderer}

/-- Nothing but its support decides whether a track of a type may be selected. -/
def OnlySupportCounts (parameters : Parameters) : TrackType → Prop
  | .video => parameters.video.mayExceedLimits = true
  | .audio => parameters.audio.mayExceedLimits = true
  | .text => False
  | _ => True

theorem isSome_ownChoice_of_isSupported
    (free : OnlySupportCounts parameters renderer.trackType)
    (mem : candidate ∈ Candidate.all renderer.groups)
    (supported :
      candidate.capabilities.isSupported parameters.playback.mayExceedCapabilities = true) :
    (ownChoice mapping parameters systemLanguages renderer).isSome = true := by
  unfold ownChoice
  split
  · rename_i video
    rw [video] at free
    exact VideoTrack.isSome_select?_of_isSupported free mem supported _ _
  · rename_i audio
    rw [audio] at free
    rw [Option.isSome_map]
    exact AudioTrack.isSome_select?_of_isSupported free mem supported _ _
  · rename_i text
    rw [text] at free
    cases free
  · exact OtherTrack.isSome_select?_of_isSupported mem supported

/-- A renderer can select something exactly if its level is high enough. -/
theorem isSome_ownChoice_iff (free : OnlySupportCounts parameters renderer.trackType) :
    (ownChoice mapping parameters systemLanguages renderer).isSome = true ↔
      RendererSupport.needed parameters.playback.mayExceedCapabilities ≤ renderer.support := by
  rw [MappedRenderer.needed_le_support_iff]
  constructor
  · intro selects
    obtain ⟨selection, own⟩ := Option.isSome_iff_exists.mp selects
    -- any selected track shows the level, since no choice takes a track that is not supported
    obtain ⟨track, selected⟩ := List.exists_mem_of_ne_nil _ (ownChoice_drawnFrom own).nonempty
    obtain ⟨candidate, mem, _, _, _, supported⟩ :=
      (ownChoice_playableFrom own).supported track selected
    exact ⟨candidate, mem, supported⟩
  · rintro ⟨candidate, mem, supported⟩
    exact isSome_ownChoice_of_isSupported free mem supported

theorem exists_given_iff_needed_le (rivals : HasRivals type)
    (free : OnlySupportCounts parameters type) :
    (∃ i selection, Given mapping parameters systemLanguages type i selection) ↔
      RendererSupport.needed parameters.playback.mayExceedCapabilities ≤
        mapping.typeSupport type := by
  rw [exists_given_iff rivals, Mapping.needed_le_typeSupport_iff]
  refine exists_congr fun renderer => and_congr_right fun _ => and_congr_right fun same => ?_
  subst same
  exact isSome_ownChoice_iff free

theorem exists_computed_iff_needed_le (here : mapping.renderers[i]? = some renderer)
    (alone : ¬ HasRivals renderer.trackType)
    (free : OnlySupportCounts parameters renderer.trackType) :
    (∃ selection, (computed mapping parameters systemLanguages)[i]? = some (some selection)) ↔
      RendererSupport.needed parameters.playback.mayExceedCapabilities ≤ renderer.support := by
  rw [computed_eq_ownChoice here alone]
  simp only [Option.some.injEq]
  rw [← Option.isSome_iff_exists]
  exact isSome_ownChoice_iff free

/-- Where tracks beyond the limits may be selected, video or audio is given a selection exactly if
the summary of the type is high enough. A renderer of another type than video, audio and text is
given one exactly if its own summary is. -/
theorem computed_iff_needed_le_support (mapping : Mapping) (parameters : Parameters)
    (systemLanguages : List String) :
    (parameters.video.mayExceedLimits = true →
      ((∃ i selection, Given mapping parameters systemLanguages .video i selection) ↔
        RendererSupport.needed parameters.playback.mayExceedCapabilities ≤
          mapping.typeSupport .video)) ∧
    (parameters.audio.mayExceedLimits = true →
      ((∃ i selection, Given mapping parameters systemLanguages .audio i selection) ↔
        RendererSupport.needed parameters.playback.mayExceedCapabilities ≤
          mapping.typeSupport .audio)) ∧
    ∀ (i : Nat) (renderer : MappedRenderer), mapping.renderers[i]? = some renderer →
      renderer.trackType ≠ .video → renderer.trackType ≠ .audio → renderer.trackType ≠ .text →
        ((∃ selection,
            (computed mapping parameters systemLanguages)[i]? = some (some selection)) ↔
          RendererSupport.needed parameters.playback.mayExceedCapabilities ≤
            renderer.support) := by
  refine ⟨exists_given_iff_needed_le (.inl rfl), exists_given_iff_needed_le (.inr (.inl rfl)), ?_⟩
  intro i renderer here notVideo notAudio notText
  apply exists_computed_iff_needed_le here
  · rintro (video | audio | text)
    · exact notVideo video
    · exact notAudio audio
    · exact notText text
  · cases same : renderer.trackType with
    | video => exact absurd same notVideo
    | audio => exact absurd same notAudio
    | text => exact absurd same notText
    | none | unknown | metadata | cameraMotion => trivial

namespace Sample

/-- A renderer of a type that supports the tracks it was given, if any, as well as these levels. -/
def supporting (type : TrackType) (levels : List FormatSupport) : MappedRenderer where
  name := "renderer"
  trackType := type
  mixedMimeTypes := .notSupported
  groups := levels.map fun level =>
    ⟨⟨⟨0⟩, [{}], List.cons_ne_nil _ _⟩, [{ format := level }], rfl⟩

/-- Video beyond what is promised, audio that is protected, metadata that is handled, and a renderer
without tracks. -/
def programme : Mapping where
  renderers := [supporting .video [.unsupportedDrm, .exceedsCapabilities],
    supporting .audio [.unsupportedDrm], supporting .metadata [.handled],
    supporting .cameraMotion []]
  unmapped := []

end Sample

theorem computed_iff_needed_le_support_programme :
    (∃ i selection, Given Sample.programme {} [] .video i selection) ∧
      (¬ ∃ i selection, Given Sample.programme {} [] .audio i selection) ∧
      (∃ selection, (computed Sample.programme {} [])[2]? = some (some selection)) ∧
      ¬ ∃ selection, (computed Sample.programme {} [])[3]? = some (some selection) := by
  obtain ⟨video, audio, others⟩ := computed_iff_needed_le_support Sample.programme {} []
  refine ⟨(video rfl).mpr (by decide), ?_, ?_, ?_⟩
  · rw [audio rfl]
    decide
  · rw [others 2 _ rfl (by decide) (by decide) (by decide)]
    decide
  · rw [others 3 _ rfl (by decide) (by decide) (by decide)]
    decide

end Pass

end TrackSelection
