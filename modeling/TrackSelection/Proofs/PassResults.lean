import TrackSelection.Pass.Basic
import TrackSelection.Proofs.Tracks

/-!
# What a pass gives to each renderer

The results of a pass are lists with one place for each renderer. The lemmas here read a place of
such a list back: which choice a computed selection comes from, and whether a settled selection is
the computed one or that of an override. They end with what every selection of a pass satisfies,
whatever overrides the parameters hold: it fits the groups of its renderer.
-/

namespace TrackSelection

/-! ## Overrides -/

namespace Override

/-- An override has no fault exactly when it names tracks of a group that exist, and no track twice
in a row. -/
theorem fault?_eq_none_iff {override : Override} {renderer : Nat} {groups : List TrackGroup} :
    override.fault? renderer groups = none ↔
      ∃ group, groups[override.groupIndex]? = some group ∧ override.tracks ≠ [] ∧
        (∀ track ∈ override.tracks, track < group.size) ∧ repeated? override.tracks = none := by
  unfold fault?
  cases groups[override.groupIndex]? with
  | none => simp
  | some group =>
      by_cases empty : override.tracks = []
      · simp [empty]
      · dsimp only
        rw [if_neg (by simpa using empty)]
        cases outside : override.tracks.find? fun track => group.size ≤ track with
        | none =>
            have inside : ∀ track ∈ override.tracks, track < group.size := by
              simpa using outside
            simp only [Option.map_eq_none_iff, Option.some.injEq, exists_eq_left', ne_eq, empty,
              not_false_eq_true, true_and]
            exact ⟨fun distinct => ⟨inside, distinct⟩, fun faultless => faultless.2⟩
        | some track =>
            have mem := List.mem_of_find?_eq_some outside
            have beyond : group.size ≤ track := by simpa using List.find?_some outside
            simp only [Option.some.injEq, exists_eq_left', reduceCtorEq, false_iff]
            rintro ⟨_, inside, _⟩
            exact Nat.not_lt_of_le beyond (inside track mem)

theorem one_lt_of_repeated?_eq_none {tracks : List Nat} {size : Nat}
    (distinct : repeated? tracks = none) (inside : ∀ track ∈ tracks, track < size)
    (several : 1 < tracks.length) : 1 < size := by
  match tracks, several with
  | first :: second :: rest, _ =>
      have different : first ≠ second := by
        rintro rfl
        simp [repeated?] at distinct
      have := inside first (by simp)
      have := inside second (by simp)
      omega

end Override

/-! ## Selections that fit their groups -/

/-- A selection that can be played from some groups: it names one of them and tracks that the group
has, at least one, and more than one only from a group of several. -/
structure Selection.FitsIn (selection : Selection) (groups : List TrackGroup) : Prop where
  group : groups[selection.groupIndex]? = some selection.group
  nonempty : selection.tracks ≠ []
  inside : ∀ track ∈ selection.tracks, track < selection.group.size
  several : 1 < selection.tracks.length → 1 < selection.group.size

theorem Selection.DrawnFrom.fitsIn {selection : Selection} {groups : List TrackGroup}
    (drawn : selection.DrawnFrom groups) : selection.FitsIn groups where
  group := drawn.group
  nonempty := drawn.nonempty
  inside track mem := List.mem_range.mp (drawn.ascending.subset mem)
  several more := by
    have le := drawn.ascending.length_le
    rw [List.length_range] at le
    exact Nat.lt_of_lt_of_le more le

namespace Pass

variable {mapping : Mapping} {parameters : Parameters} {systemLanguages : List String}
variable {i : Nat} {renderer : MappedRenderer} {selection : Selection}

theorem ofOverride?_fitsIn {override : Override} {groups : List TrackGroup}
    (made : ofOverride? override i groups = some selection) : selection.FitsIn groups := by
  unfold ofOverride? at made
  split at made
  · rename_i group faultless here
    obtain ⟨_, found, nonempty, inside, distinct⟩ := Override.fault?_eq_none_iff.mp faultless
    rw [here, Option.some.injEq] at found
    subst found
    cases made
    exact ⟨here, nonempty, inside, Override.one_lt_of_repeated?_eq_none distinct inside⟩
  · simp at made

/-! ## The computed selections -/

theorem mem_choices {α : Type} {type : TrackType} {choose : MappedRenderer → Option α}
    {choice : α} :
    (i, choice) ∈ choices mapping type choose ↔
      ∃ renderer, mapping.renderers[i]? = some renderer ∧ renderer.trackType = type ∧
        choose renderer = some choice := by
  simp only [choices, List.mem_filterMap, Prod.exists, List.mem_zipIdx_iff_getElem?]
  constructor
  · rintro ⟨renderer, _, here, chosen⟩
    split at chosen
    · rename_i same
      obtain ⟨_, found, eq⟩ := Option.map_eq_some_iff.mp chosen
      obtain ⟨rfl, rfl⟩ := Prod.mk.inj eq
      exact ⟨renderer, here, same, found⟩
    · simp at chosen
  · rintro ⟨renderer, here, same, found⟩
    exact ⟨renderer, i, here, by simp [same, found]⟩

theorem selectionAt_eq_some_iff {choice : Option (Nat × Selection)} :
    selectionAt i choice = some selection ↔ choice = some (i, selection) := by
  cases choice with
  | none => simp [selectionAt]
  | some chosen =>
      obtain ⟨j, other⟩ := chosen
      simp [selectionAt]

@[simp] theorem length_computed :
    (computed mapping parameters systemLanguages).length = mapping.renderers.length := by
  simp [computed]

/-- A computed selection comes from the choice for the type of its renderer. -/
theorem computed_cases
    (found : (computed mapping parameters systemLanguages)[i]? = some (some selection)) :
    ∃ renderer, mapping.renderers[i]? = some renderer ∧
      (renderer.trackType = .video ∧ videoChoice? mapping parameters = some (i, selection) ∨
        (renderer.trackType = .audio ∧
          ∃ score, audioChoice? mapping parameters systemLanguages =
            some (i, selection, score)) ∨
        (renderer.trackType = .text ∧
          ∃ score, textChoice? mapping parameters
            (audioLanguage mapping parameters systemLanguages) = some (i, selection, score)) ∨
        (renderer.trackType ≠ .video ∧ renderer.trackType ≠ .audio ∧ renderer.trackType ≠ .text ∧
          OtherTrack.select? parameters renderer.groups = some selection)) := by
  simp only [computed, List.getElem?_map, Option.map_eq_some_iff, Prod.exists,
    List.getElem?_zipIdx, Nat.zero_add, Prod.mk.injEq] at found
  obtain ⟨renderer, _, ⟨_, here, rfl, rfl⟩, chosen⟩ := found
  refine ⟨_, here, ?_⟩
  split at chosen
  · rename_i video
    exact .inl ⟨video, selectionAt_eq_some_iff.mp chosen⟩
  · rename_i audio
    obtain ⟨⟨_, _, score⟩, best, eq⟩ :=
      Option.map_eq_some_iff.mp (selectionAt_eq_some_iff.mp chosen)
    obtain ⟨rfl, rfl⟩ := Prod.mk.inj eq
    exact .inr (.inl ⟨audio, score, best⟩)
  · rename_i text
    obtain ⟨⟨_, _, score⟩, best, eq⟩ :=
      Option.map_eq_some_iff.mp (selectionAt_eq_some_iff.mp chosen)
    obtain ⟨rfl, rfl⟩ := Prod.mk.inj eq
    exact .inr (.inr (.inl ⟨text, score, best⟩))
  · rename_i notVideo notAudio notText
    exact .inr (.inr (.inr ⟨notVideo, notAudio, notText, chosen⟩))

theorem computed_drawnFrom (here : mapping.renderers[i]? = some renderer)
    (found : (computed mapping parameters systemLanguages)[i]? = some (some selection)) :
    selection.DrawnFrom renderer.trackGroups := by
  have same {other : MappedRenderer} (there : mapping.renderers[i]? = some other) :
      other = renderer := by
    rw [here, Option.some.injEq] at there
    exact there.symm
  obtain ⟨_, there, chosen⟩ := computed_cases found
  obtain rfl := same there
  rcases chosen with ⟨_, video⟩ | ⟨_, _, audio⟩ | ⟨_, _, text⟩ | ⟨_, _, _, other⟩
  · obtain ⟨_, there, _, chosen⟩ := mem_choices.mp (List.mem_of_head? video)
    obtain rfl := same there
    exact VideoTrack.select?_drawnFrom chosen
  · obtain ⟨_, there, _, chosen⟩ := mem_choices.mp (mem_of_best?_eq_some audio)
    obtain rfl := same there
    exact AudioTrack.select?_drawnFrom chosen
  · obtain ⟨_, there, _, chosen⟩ := mem_choices.mp (mem_of_best?_eq_some text)
    obtain rfl := same there
    exact TextTrack.select?_drawnFrom chosen
  · exact OtherTrack.select?_drawnFrom other

/-! ## The settled selections -/

theorem settle_cases {computed : Option Selection}
    (settled : settle parameters i renderer computed = some selection) :
    computed = some selection ∨
      ∃ override, parameters.overrides.get? (i, renderer.trackGroups) = some (some override) ∧
        ofOverride? override i renderer.trackGroups = some selection := by
  unfold settle at settled
  split at settled
  · simp at settled
  · split at settled
    · exact .inl settled
    · simp at settled
    · rename_i override here
      simp only [Option.orElse_eq_orElse, Option.orElse_eq_or, Option.or_eq_some_iff] at settled
      rcases settled with made | ⟨_, kept⟩
      · exact .inr ⟨override, here, made⟩
      · exact .inl kept

@[simp] theorem length_selections :
    (selections mapping parameters systemLanguages).length = mapping.renderers.length := by
  simp [selections]

theorem getElem?_selections (here : mapping.renderers[i]? = some renderer) :
    ∃ computed, (Pass.computed mapping parameters systemLanguages)[i]? = some computed ∧
      (selections mapping parameters systemLanguages)[i]? =
        some (settle parameters i renderer computed) := by
  obtain ⟨bound, _⟩ := List.getElem?_eq_some_iff.mp here
  have computedHere := List.getElem?_eq_getElem
    (l := Pass.computed mapping parameters systemLanguages) (by simpa using bound)
  refine ⟨_, computedHere, ?_⟩
  have both := List.getElem?_zip_eq_some (z := (_, _)).mpr ⟨here, computedHere⟩
  simp only [selections, List.getElem?_map, List.getElem?_zipIdx, both, Option.map_some,
    Nat.zero_add]

/-- Every selection of a pass fits the groups of its renderer, also one that an override made. -/
theorem selections_fitsIn (here : mapping.renderers[i]? = some renderer)
    (found : (selections mapping parameters systemLanguages)[i]? = some (some selection)) :
    selection.FitsIn renderer.trackGroups := by
  obtain ⟨computed, computedHere, settled⟩ := getElem?_selections here
  rw [found, Option.some.injEq] at settled
  rcases settle_cases settled.symm with rfl | ⟨override, _, made⟩
  · exact (computed_drawnFrom here computedHere).fitsIn
  · exact ofOverride?_fitsIn made

end Pass

end TrackSelection
