import TrackSelection.Proofs.PassResults

/-!
# Who is given a selection

Renderers of video, audio and text are rivals: of each type at most one is given a selection, and
one is as soon as any of them could select something. What it is given is what it would select
without rivals. Video goes to the first renderer in line. Playback moves between tracks of video, or
of audio where no video was given to a renderer, so that two selections are adaptive only if that is
asked for.
-/

namespace TrackSelection.Pass

/-- Only one renderer of such a type is given a selection. -/
def HasRivals (type : TrackType) : Prop :=
  type = .video ∨ type = .audio ∨ type = .text

/-- What a renderer would select without rivals. -/
def ownChoice (mapping : Mapping) (parameters : Parameters) (systemLanguages : List String)
    (renderer : MappedRenderer) : Option Selection :=
  match renderer.trackType with
  | .video => VideoTrack.select? parameters renderer.mixedMimeTypes true renderer.groups
  | .audio =>
    (AudioTrack.select? parameters systemLanguages (allowsAdaptiveAudio mapping parameters)
      renderer.groups).map Prod.fst
  | .text =>
    (TextTrack.select? parameters (audioLanguage mapping parameters systemLanguages)
      renderer.groups).map Prod.fst
  | _ => OtherTrack.select? parameters renderer.groups

/-- The renderer that wins over its rivals, and its selection. -/
def winner? (mapping : Mapping) (parameters : Parameters) (systemLanguages : List String) :
    TrackType → Option (Nat × Selection)
  | .video => videoChoice? mapping parameters
  | .audio => (audioChoice? mapping parameters systemLanguages).map fun choice =>
    (choice.1, choice.2.1)
  | .text => (textChoice? mapping parameters
      (audioLanguage mapping parameters systemLanguages)).map fun choice => (choice.1, choice.2.1)
  | _ => none

/-- The renderer at a position is of a type and is given a selection. -/
def Given (mapping : Mapping) (parameters : Parameters) (systemLanguages : List String)
    (type : TrackType) (i : Nat) (selection : Selection) : Prop :=
  (∃ renderer, mapping.renderers[i]? = some renderer ∧ renderer.trackType = type) ∧
    (computed mapping parameters systemLanguages)[i]? = some (some selection)

/-- What the renderer at a position selects of video, if it is one for video. -/
def videoAt? (mapping : Mapping) (parameters : Parameters) (i : Nat) : Option Selection :=
  mapping.renderers[i]?.bind fun renderer =>
    if renderer.trackType = .video then
      VideoTrack.select? parameters renderer.mixedMimeTypes true renderer.groups
    else none

variable {mapping : Mapping} {parameters : Parameters} {systemLanguages : List String}
variable {type : TrackType} {i : Nat} {renderer : MappedRenderer} {selection : Selection}

/-! ## The choices of rivals -/

theorem ownChoice_of_video (video : renderer.trackType = .video) :
    ownChoice mapping parameters systemLanguages renderer =
      VideoTrack.select? parameters renderer.mixedMimeTypes true renderer.groups := by
  rw [ownChoice, video]

theorem ownChoice_of_audio (audio : renderer.trackType = .audio) :
    ownChoice mapping parameters systemLanguages renderer =
      (AudioTrack.select? parameters systemLanguages (allowsAdaptiveAudio mapping parameters)
        renderer.groups).map Prod.fst := by
  rw [ownChoice, audio]

theorem ownChoice_of_text (text : renderer.trackType = .text) :
    ownChoice mapping parameters systemLanguages renderer =
      (TextTrack.select? parameters (audioLanguage mapping parameters systemLanguages)
        renderer.groups).map Prod.fst := by
  rw [ownChoice, text]

theorem ownChoice_of_not_hasRivals (alone : ¬ HasRivals renderer.trackType) :
    ownChoice mapping parameters systemLanguages renderer =
      OtherTrack.select? parameters renderer.groups := by
  unfold ownChoice
  split
  · rename_i video
    exact absurd (.inl video) alone
  · rename_i audio
    exact absurd (.inr (.inl audio)) alone
  · rename_i text
    exact absurd (.inr (.inr text)) alone
  · rfl

/-- An own choice is the selection for the type of the renderer. -/
theorem ownChoice_cases
    (own : ownChoice mapping parameters systemLanguages renderer = some selection) :
    (renderer.trackType = .video ∧
        VideoTrack.select? parameters renderer.mixedMimeTypes true renderer.groups =
          some selection) ∨
      (renderer.trackType = .audio ∧
        ∃ score, AudioTrack.select? parameters systemLanguages
          (allowsAdaptiveAudio mapping parameters) renderer.groups = some (selection, score)) ∨
      (renderer.trackType = .text ∧
        ∃ score, TextTrack.select? parameters (audioLanguage mapping parameters systemLanguages)
          renderer.groups = some (selection, score)) ∨
      OtherTrack.select? parameters renderer.groups = some selection := by
  by_cases rivals : HasRivals renderer.trackType
  · rcases rivals with video | audio | text
    · rw [ownChoice_of_video video] at own
      exact .inl ⟨video, own⟩
    · rw [ownChoice_of_audio audio] at own
      obtain ⟨⟨_, score⟩, chosen, rfl⟩ := Option.map_eq_some_iff.mp own
      exact .inr (.inl ⟨audio, score, chosen⟩)
    · rw [ownChoice_of_text text] at own
      obtain ⟨⟨_, score⟩, chosen, rfl⟩ := Option.map_eq_some_iff.mp own
      exact .inr (.inr (.inl ⟨text, score, chosen⟩))
  · rw [ownChoice_of_not_hasRivals rivals] at own
    exact .inr (.inr (.inr own))

theorem ownChoice_drawnFrom
    (own : ownChoice mapping parameters systemLanguages renderer = some selection) :
    selection.DrawnFrom renderer.trackGroups := by
  rcases ownChoice_cases own with ⟨_, video⟩ | ⟨_, _, audio⟩ | ⟨_, _, text⟩ | other
  · exact VideoTrack.select?_drawnFrom video
  · exact AudioTrack.select?_drawnFrom audio
  · exact TextTrack.select?_drawnFrom text
  · exact OtherTrack.select?_drawnFrom other

section Choices

variable {α : Type} {choose : MappedRenderer → Option α} {choice : α}

/-- Choices are listed in the order of their renderers. -/
theorem pairwise_choices (mapping : Mapping) (type : TrackType)
    (choose : MappedRenderer → Option α) :
    (choices mapping type choose).Pairwise fun a b => a.1 < b.1 := by
  refine (pairwise_zipIdx mapping.renderers).filterMap _ ?_
  rintro ⟨first, i⟩ ⟨second, j⟩ before a chosen b chosenToo
  have position {renderer : MappedRenderer} {k : Nat} {entry : Nat × α}
      (made : (if renderer.trackType = type then (choose renderer).map (k, ·) else none) =
        some entry) : entry.1 = k := by
    split at made
    · obtain ⟨_, _, rfl⟩ := Option.map_eq_some_iff.mp made
      rfl
    · cases made
  rw [position chosen, position chosenToo]
  exact before

/-- The first choice is that of the first renderer that makes one. -/
theorem head?_choices_eq_some_iff :
    (choices mapping type choose).head? = some (i, choice) ↔
      (i, choice) ∈ choices mapping type choose ∧
        ∀ other ∈ choices mapping type choose, i ≤ other.1 := by
  have inOrder := pairwise_choices mapping type choose
  constructor
  · intro first
    refine ⟨List.mem_of_head? first, ?_⟩
    obtain ⟨rest, same⟩ := List.head?_eq_some_iff.mp first
    rw [same] at inOrder ⊢
    intro other listed
    rcases List.mem_cons.mp listed with rfl | later
    · exact Nat.le_refl _
    · exact Nat.le_of_lt ((List.pairwise_cons.mp inOrder).1 other later)
  · rintro ⟨listed, lowest⟩
    cases same : choices mapping type choose with
    | nil =>
        rw [same] at listed
        cases listed
    | cons first rest =>
        rw [same] at listed lowest inOrder
        rcases List.mem_cons.mp listed with rfl | later
        · rfl
        · -- the first choice would come before one that nothing comes before
          have before := (List.pairwise_cons.mp inOrder).1 _ later
          exact absurd before (Nat.not_lt_of_le (lowest first List.mem_cons_self))

variable {view : α → Selection}

theorem exists_ownChoice_of_mem_choices
    (own : ∀ renderer, renderer.trackType = type →
      ownChoice mapping parameters systemLanguages renderer = (choose renderer).map view)
    (listed : (i, choice) ∈ choices mapping type choose) :
    ∃ renderer, mapping.renderers[i]? = some renderer ∧ renderer.trackType = type ∧
      ownChoice mapping parameters systemLanguages renderer = some (view choice) := by
  obtain ⟨renderer, here, same, chosen⟩ := mem_choices.mp listed
  refine ⟨renderer, here, same, ?_⟩
  rw [own renderer same, chosen, Option.map_some]

theorem choices_eq_nil_iff
    (own : ∀ renderer, renderer.trackType = type →
      ownChoice mapping parameters systemLanguages renderer = (choose renderer).map view) :
    choices mapping type choose = [] ↔
      ∀ renderer ∈ mapping.renderers, renderer.trackType = type →
        ownChoice mapping parameters systemLanguages renderer = none := by
  constructor
  · intro empty renderer mem same
    obtain ⟨i, here⟩ := List.getElem?_of_mem mem
    cases chosen : choose renderer with
    | none => rw [own renderer same, chosen, Option.map_none]
    | some choice =>
        have listed := mem_choices.mpr ⟨renderer, here, same, chosen⟩
        rw [empty] at listed
        cases listed
  · intro nothing
    apply List.eq_nil_iff_forall_not_mem.mpr
    rintro ⟨i, choice⟩ listed
    obtain ⟨renderer, here, same, chosen⟩ := exists_ownChoice_of_mem_choices own listed
    rw [nothing renderer (List.mem_of_getElem? here) same] at chosen
    cases chosen

end Choices

/-! ## The winners -/

/-- A winner is given what it would select without rivals. -/
theorem exists_ownChoice_of_winner?
    (won : winner? mapping parameters systemLanguages type = some (i, selection)) :
    ∃ renderer, mapping.renderers[i]? = some renderer ∧ renderer.trackType = type ∧
      ownChoice mapping parameters systemLanguages renderer = some selection := by
  cases type with
  | video =>
      obtain ⟨renderer, here, video, chosen⟩ := mem_choices.mp (List.mem_of_head? won)
      exact ⟨renderer, here, video, (ownChoice_of_video video).trans chosen⟩
  | audio =>
      obtain ⟨⟨_, _, score⟩, best, same⟩ := Option.map_eq_some_iff.mp won
      obtain ⟨rfl, rfl⟩ := Prod.mk.inj same
      exact exists_ownChoice_of_mem_choices (fun _ => ownChoice_of_audio)
        (mem_of_best?_eq_some best)
  | text =>
      obtain ⟨⟨_, _, score⟩, best, same⟩ := Option.map_eq_some_iff.mp won
      obtain ⟨rfl, rfl⟩ := Prod.mk.inj same
      exact exists_ownChoice_of_mem_choices (fun _ => ownChoice_of_text)
        (mem_of_best?_eq_some best)
  | none | unknown | metadata | cameraMotion => cases won

/-- There is no winner only if no renderer of the type could select anything. -/
theorem winner?_eq_none_iff (rivals : HasRivals type) :
    winner? mapping parameters systemLanguages type = none ↔
      ∀ renderer ∈ mapping.renderers, renderer.trackType = type →
        ownChoice mapping parameters systemLanguages renderer = none := by
  rcases rivals with rfl | rfl | rfl
  · rw [winner?, videoChoice?, List.head?_eq_none_iff]
    apply choices_eq_nil_iff
    intro renderer video
    rw [ownChoice_of_video video]
    exact Option.map_id'.symm
  · rw [winner?, Option.map_eq_none_iff, audioChoice?, best?_eq_none_iff]
    exact choices_eq_nil_iff fun _ => ownChoice_of_audio
  · rw [winner?, Option.map_eq_none_iff, textChoice?, best?_eq_none_iff]
    exact choices_eq_nil_iff fun _ => ownChoice_of_text

/-! ## The computed selections -/

theorem computed_eq_some_iff_winner? (here : mapping.renderers[i]? = some renderer)
    (rivals : HasRivals renderer.trackType) :
    (computed mapping parameters systemLanguages)[i]? = some (some selection) ↔
      winner? mapping parameters systemLanguages renderer.trackType = some (i, selection) := by
  simp only [computed, List.getElem?_map, List.getElem?_zipIdx, here, Option.map_some,
    Nat.zero_add, Option.some.injEq]
  rcases rivals with same | same | same
  all_goals
    rw [same]
    exact selectionAt_eq_some_iff

theorem computed_eq_ownChoice (here : mapping.renderers[i]? = some renderer)
    (alone : ¬ HasRivals renderer.trackType) :
    (computed mapping parameters systemLanguages)[i]? =
      some (ownChoice mapping parameters systemLanguages renderer) := by
  rw [ownChoice_of_not_hasRivals alone]
  simp only [computed, List.getElem?_map, List.getElem?_zipIdx, here, Option.map_some,
    Nat.zero_add]
  cases same : renderer.trackType with
  | video => exact absurd (.inl same) alone
  | audio => exact absurd (.inr (.inl same)) alone
  | text => exact absurd (.inr (.inr same)) alone
  | none | unknown | metadata | cameraMotion => rfl

/-- Whatever a renderer is given is what it would select without rivals. -/
theorem ownChoice_of_computed (here : mapping.renderers[i]? = some renderer)
    (found : (computed mapping parameters systemLanguages)[i]? = some (some selection)) :
    ownChoice mapping parameters systemLanguages renderer = some selection := by
  by_cases rivals : HasRivals renderer.trackType
  · have won := (computed_eq_some_iff_winner? here rivals).mp found
    obtain ⟨_, there, _, own⟩ := exists_ownChoice_of_winner? won
    obtain rfl := Option.some.inj (here.symm.trans there)
    exact own
  · rw [computed_eq_ownChoice here rivals] at found
    exact Option.some.inj found

theorem given_iff_winner? (rivals : HasRivals type) :
    Given mapping parameters systemLanguages type i selection ↔
      winner? mapping parameters systemLanguages type = some (i, selection) := by
  constructor
  · rintro ⟨⟨renderer, here, rfl⟩, found⟩
    exact (computed_eq_some_iff_winner? here rivals).mp found
  · intro won
    obtain ⟨renderer, here, rfl, _⟩ := exists_ownChoice_of_winner? won
    exact ⟨⟨renderer, here, rfl⟩, (computed_eq_some_iff_winner? here rivals).mpr won⟩

/-- A type is given a selection as soon as one of its renderers could select something. -/
theorem exists_given_iff (rivals : HasRivals type) :
    (∃ i selection, Given mapping parameters systemLanguages type i selection) ↔
      ∃ renderer ∈ mapping.renderers, renderer.trackType = type ∧
        (ownChoice mapping parameters systemLanguages renderer).isSome := by
  constructor
  · rintro ⟨i, selection, given⟩
    obtain ⟨renderer, here, same, own⟩ :=
      exists_ownChoice_of_winner? ((given_iff_winner? rivals).mp given)
    exact ⟨renderer, List.mem_of_getElem? here, same, Option.isSome_iff_exists.mpr ⟨_, own⟩⟩
  · rintro ⟨renderer, mem, same, some⟩
    cases won : winner? mapping parameters systemLanguages type with
    | none =>
        rw [(winner?_eq_none_iff rivals).mp won renderer mem same] at some
        cases some
    | some winner => exact ⟨winner.1, winner.2, (given_iff_winner? rivals).mpr won⟩

theorem eq_of_given {j : Nat} {other : Selection} (rivals : HasRivals type)
    (given : Given mapping parameters systemLanguages type i selection)
    (givenToo : Given mapping parameters systemLanguages type j other) :
    i = j := by
  rw [given_iff_winner? rivals] at given givenToo
  have same := Option.some.inj (given.symm.trans givenToo)
  exact congrArg Prod.fst same

/-! ## The first video renderer -/

theorem mem_choices_video :
    ((i, selection) ∈ choices mapping .video fun renderer =>
        VideoTrack.select? parameters renderer.mixedMimeTypes true renderer.groups) ↔
      videoAt? mapping parameters i = some selection := by
  rw [mem_choices, videoAt?, Option.bind_eq_some_iff]
  refine exists_congr fun renderer => and_congr_right fun _ => ?_
  by_cases video : renderer.trackType = .video
  · simp [video]
  · simp [video]

/-- Video is given to the first renderer for video that could select something. -/
theorem given_video_iff :
    Given mapping parameters systemLanguages .video i selection ↔
      videoAt? mapping parameters i = some selection ∧
        ∀ j < i, videoAt? mapping parameters j = none := by
  rw [given_iff_winner? (.inl rfl), winner?, videoChoice?, head?_choices_eq_some_iff,
    mem_choices_video]
  refine and_congr_right fun _ => ?_
  constructor
  · intro lowest j before
    cases chosen : videoAt? mapping parameters j with
    | none => rfl
    | some other =>
        have notBefore := lowest (j, other) (mem_choices_video.mpr chosen)
        exact absurd before (Nat.not_lt_of_le notBefore)
  · rintro nothing ⟨j, other⟩ listed
    apply Nat.le_of_not_lt
    intro before
    have chosen := mem_choices_video.mp listed
    rw [nothing j before] at chosen
    cases chosen

/-! ## Adaptive selections -/

/-- Only video and audio are adaptive, and audio only where that is allowed. -/
theorem video_or_audio_of_isAdaptive
    (own : ownChoice mapping parameters systemLanguages renderer = some selection)
    (adaptive : selection.isAdaptive = true) :
    renderer.trackType = .video ∨
      renderer.trackType = .audio ∧ allowsAdaptiveAudio mapping parameters = true := by
  rcases ownChoice_cases own with ⟨video, _⟩ | ⟨audio, _, chosen⟩ | ⟨_, _, chosen⟩ | chosen
  · exact .inl video
  · obtain ⟨candidate, _, ⟨_, rfl⟩ | ⟨expands, _⟩⟩ := AudioTrack.select?_cases chosen
    · cases adaptive
    · exact .inr ⟨audio, expands.2.1⟩
  · obtain ⟨⟨candidate, _⟩, _, same⟩ := Option.map_eq_some_iff.mp chosen
    obtain ⟨rfl, _⟩ := Prod.mk.inj same
    cases adaptive
  · obtain ⟨candidate, _, rfl⟩ := Option.map_eq_some_iff.mp chosen
    cases adaptive

theorem hasVideo_of_ownChoice (mem : renderer ∈ mapping.renderers)
    (video : renderer.trackType = .video)
    (own : ownChoice mapping parameters systemLanguages renderer = some selection) :
    hasVideo mapping = true := by
  have some : renderer.groups ≠ [] := by
    intro empty
    have group := (ownChoice_drawnFrom own).group
    rw [MappedRenderer.trackGroups, empty] at group
    cases group
  simp only [hasVideo, List.any_eq_true, Bool.and_eq_true, decide_eq_true_eq,
    Bool.not_eq_true', List.isEmpty_eq_false_iff]
  exact ⟨renderer, mem, video, some⟩

/-- An adaptive selection is of video, or of audio where there is no video. -/
theorem given_of_isAdaptive (single : parameters.playback.multipleAdaptive = false)
    (found : (computed mapping parameters systemLanguages)[i]? = some (some selection))
    (adaptive : selection.isAdaptive = true) :
    Given mapping parameters systemLanguages .video i selection ∧ hasVideo mapping = true ∨
      Given mapping parameters systemLanguages .audio i selection ∧ hasVideo mapping = false := by
  have bound : i < mapping.renderers.length := by
    obtain ⟨bound, _⟩ := List.getElem?_eq_some_iff.mp found
    simpa using bound
  have here := List.getElem?_eq_getElem bound
  have own := ownChoice_of_computed here found
  rcases video_or_audio_of_isAdaptive own adaptive with video | ⟨audio, allowed⟩
  · exact .inl ⟨⟨⟨_, here, video⟩, found⟩,
      hasVideo_of_ownChoice (List.mem_of_getElem? here) video own⟩
  · rw [allowsAdaptiveAudio, single, Bool.false_or, Bool.not_eq_true'] at allowed
    exact .inr ⟨⟨⟨_, here, audio⟩, found⟩, allowed⟩

theorem eq_of_isAdaptive {j : Nat} {other : Selection}
    (single : parameters.playback.multipleAdaptive = false)
    (found : (computed mapping parameters systemLanguages)[i]? = some (some selection))
    (foundToo : (computed mapping parameters systemLanguages)[j]? = some (some other))
    (adaptive : selection.isAdaptive = true) (adaptiveToo : other.isAdaptive = true) : i = j := by
  -- adaptive audio is not allowed beside video, so that both are of the same type
  rcases given_of_isAdaptive single found adaptive with ⟨video, shown⟩ | ⟨audio, hidden⟩
  · rcases given_of_isAdaptive single foundToo adaptiveToo with ⟨videoToo, _⟩ | ⟨_, hidden⟩
    · exact eq_of_given (.inl rfl) video videoToo
    · rw [shown] at hidden
      cases hidden
  · rcases given_of_isAdaptive single foundToo adaptiveToo with ⟨_, shown⟩ | ⟨audioToo, _⟩
    · rw [shown] at hidden
      cases hidden
    · exact eq_of_given (.inr (.inl rfl)) audio audioToo

/-- Each renderer has its place among the computed selections. At most one renderer each of video,
audio and text is given a selection, and one is if any of them could select something; for video it
is the first that could. Unless several adaptive selections are asked for there is at most one. -/
theorem computed_winners (mapping : Mapping) (parameters : Parameters)
    (systemLanguages : List String) :
    (computed mapping parameters systemLanguages).length = mapping.renderers.length ∧
      (∀ type, HasRivals type →
        (∀ i j a b, Given mapping parameters systemLanguages type i a →
          Given mapping parameters systemLanguages type j b → i = j) ∧
        ((∃ i selection, Given mapping parameters systemLanguages type i selection) ↔
          ∃ renderer ∈ mapping.renderers, renderer.trackType = type ∧
            (ownChoice mapping parameters systemLanguages renderer).isSome)) ∧
      (∀ i selection, Given mapping parameters systemLanguages .video i selection ↔
        videoAt? mapping parameters i = some selection ∧
          ∀ j < i, videoAt? mapping parameters j = none) ∧
      (parameters.playback.multipleAdaptive = false → ∀ (i j : Nat) (a b : Selection),
        (computed mapping parameters systemLanguages)[i]? = some (some a) →
          (computed mapping parameters systemLanguages)[j]? = some (some b) →
            a.isAdaptive = true → b.isAdaptive = true → i = j) := by
  refine ⟨length_computed, ?_, fun _ _ => given_video_iff, ?_⟩
  · intro type rivals
    exact ⟨fun _ _ _ _ => eq_of_given rivals, exists_given_iff rivals⟩
  · intro single i j a b
    exact eq_of_isAdaptive single

namespace Sample

/-- Two tracks to move between, of video or audio, on a renderer that can. -/
def twins : MappedGroup where
  group := ⟨⟨0⟩, List.replicate 2
    { sampleMimeType := some "video/mp4", channelCount := some 2, sampleRate := some 48000 },
    by decide⟩
  capabilities := List.replicate 2 { format := .handled, adaptive := .seamless }
  covers := rfl

def crowd : Mapping where
  renderers := [(TrackType.video, []), (.video, [twins]), (.video, [twins]), (.audio, [twins]),
      (.audio, [twins])].map fun entry =>
    { name := "renderer", trackType := entry.1, mixedMimeTypes := .notSupported,
      groups := entry.2 }
  unmapped := []

def ofTwins (tracks : List Nat) : Selection where
  groupIndex := 0
  group := twins.group
  tracks := tracks

end Sample

theorem computed_winners_crowd :
    computed Sample.crowd {} [] =
        [none, some (Sample.ofTwins [0, 1]), none, some (Sample.ofTwins [0]), none] ∧
      (∀ j b, Given Sample.crowd {} [] .audio j b → 3 = j) ∧
      (∀ j < 1, videoAt? Sample.crowd {} j = none) ∧
      ∀ j b, (computed Sample.crowd {} [])[j]? = some (some b) → b.isAdaptive = true → 1 = j := by
  have all : computed Sample.crowd {} [] =
      [none, some (Sample.ofTwins [0, 1]), none, some (Sample.ofTwins [0]), none] := by decide
  obtain ⟨_, winners, video, adaptive⟩ := computed_winners Sample.crowd {} []
  have audioGiven : Given Sample.crowd {} [] .audio 3 (Sample.ofTwins [0]) :=
    ⟨⟨_, rfl, rfl⟩, congrArg (·[3]?) all⟩
  have videoGiven : Given Sample.crowd {} [] .video 1 (Sample.ofTwins [0, 1]) :=
    ⟨⟨_, rfl, rfl⟩, congrArg (·[1]?) all⟩
  refine ⟨all, ?_, ((video _ _).mp videoGiven).2, ?_⟩
  · intro j b
    exact (winners .audio (.inr (.inl rfl))).1 3 j _ b audioGiven
  · intro j b found
    exact adaptive rfl 1 j _ b videoGiven.2 found rfl

end TrackSelection.Pass
