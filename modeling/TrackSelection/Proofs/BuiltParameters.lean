import Mathlib.Data.List.Induction
import TrackSelection.Config.Basic
import TrackSelection.Proofs.OverrideTables

/-!
# Parameters that were built

Parameters are built by changes, from the defaults, from a configuration or upon parameters that
were built before. What is found in their table of overrides is what the last change to it left
there. No renderer is kept without overrides, so that parameters which were built in different ways
count as the same exactly if they read alike.
-/

namespace TrackSelection

/-! ## Sets of renderers -/

theorem IndexSet.contains_iff {set : IndexSet} {i : Nat} :
    set.contains i = true ↔ i ∈ set.toList := by
  simp [contains]

/-- Ascending lists of the same numbers are equal. -/
theorem IndexSet.eq_iff_contains {a b : IndexSet} :
    a = b ↔ ∀ i, a.contains i = b.contains i := by
  constructor
  · rintro rfl i
    rfl
  · intro agree
    have members (i : Nat) : i ∈ a.toList ↔ i ∈ b.toList := by
      rw [← contains_iff, ← contains_iff, agree i]
    have perm : a.toList.Perm b.toList := by
      rw [List.perm_ext_iff_of_nodup (a.ascending.imp Nat.ne_of_lt) (b.ascending.imp Nat.ne_of_lt)]
      exact members
    have same : a.toList = b.toList := by
      apply perm.eq_of_pairwise _ a.ascending b.ascending
      intro i j _ _ less greater
      omega
    cases a
    cases b
    cases same
    rfl

/-! ## What a change does to overrides -/

/-- The change sets the entry of a key, or clears it, alone or with others. -/
def Change.Touches (key : OverrideKey) : Change → Prop
  | .setOverride i groups _ => (i, groups) = key
  | .clearOverride i groups => (i, groups) = key
  | .clearOverridesOf i => i = key.1
  | .clearOverrides => True
  | _ => False

namespace Parameters

variable {parameters : Parameters} {change : Change} {key : OverrideKey} {entry : Option Override}

/-- Everything that a change can do to the table of overrides. -/
theorem overrides_apply_cases (parameters : Parameters) (change : Change) :
    (∃ i groups entry, change = .setOverride i groups entry ∧
        (parameters.apply change).overrides = parameters.overrides.insert (i, groups) entry) ∨
      (∃ i groups, change = .clearOverride i groups ∧
        (parameters.apply change).overrides = parameters.overrides.erase (i, groups)) ∨
      (∃ i, change = .clearOverridesOf i ∧
        (parameters.apply change).overrides = parameters.overrides.eraseRenderer i) ∨
      (change = .clearOverrides ∧ (parameters.apply change).overrides = .empty) ∨
      ((∀ key, ¬ change.Touches key) ∧
        (parameters.apply change).overrides = parameters.overrides) := by
  cases change with
  | setOverride i groups entry => exact .inl ⟨i, groups, entry, rfl, rfl⟩
  | clearOverride i groups => exact .inr (.inl ⟨i, groups, rfl, rfl⟩)
  | clearOverridesOf i => exact .inr (.inr (.inl ⟨i, rfl, rfl⟩))
  | clearOverrides => exact .inr (.inr (.inr (.inl ⟨rfl, rfl⟩)))
  | _ =>
      refine .inr (.inr (.inr (.inr ⟨fun _ touched => touched, ?_⟩)))
      dsimp only [apply, mapVideo, mapAudio, mapText, mapPlayback, limitVideoSize]

/-- An entry is there after a change if the change sets it, or leaves it alone. -/
theorem get?_apply_eq_some_iff :
    (parameters.apply change).overrides.get? key = some entry ↔
      change = .setOverride key.1 key.2 entry ∨
        ¬ change.Touches key ∧ parameters.overrides.get? key = some entry := by
  rcases overrides_apply_cases parameters change with ⟨i, groups, other, rfl, same⟩ |
    ⟨i, groups, rfl, same⟩ | ⟨i, rfl, same⟩ | ⟨rfl, same⟩ | ⟨untouched, same⟩
  · rw [same, OverrideTable.get?_insert]
    by_cases here : key = (i, groups)
    · subst here
      simp [Change.Touches]
    · rw [if_neg here]
      constructor
      · intro found
        exact .inr ⟨fun touched => here touched.symm, found⟩
      · rintro (set | ⟨_, found⟩)
        · cases set
          exact absurd rfl here
        · exact found
  · rw [same, OverrideTable.get?_erase]
    by_cases here : key = (i, groups)
    · simp [Change.Touches, here]
    · simp [Change.Touches, here, Ne.symm here]
  · rw [same, OverrideTable.get?_eraseRenderer]
    by_cases here : key.1 = i
    · simp [Change.Touches, here]
    · simp [Change.Touches, here, Ne.symm here]
  · rw [same]
    simp [Change.Touches]
  · rw [same]
    constructor
    · intro found
      exact .inr ⟨untouched key, found⟩
    · rintro (rfl | ⟨_, found⟩)
      · exact absurd rfl (untouched key)
      · exact found

/-- No change leaves a renderer without overrides. -/
theorem isTidy_apply (tidy : parameters.overrides.IsTidy) (change : Change) :
    (parameters.apply change).overrides.IsTidy := by
  rcases overrides_apply_cases parameters change with ⟨i, groups, entry, _, same⟩ |
    ⟨i, groups, _, same⟩ | ⟨i, _, same⟩ | ⟨_, same⟩ | ⟨_, same⟩
  · rw [same]
    exact tidy.insert (i, groups) entry
  · rw [same]
    exact tidy.erase (i, groups)
  · rw [same]
    exact tidy.eraseRenderer i
  · rw [same]
    exact OverrideTable.isTidy_empty
  · rw [same]
    exact tidy

end Parameters

/-! ## What changes leave -/

/-- The last change that touches an entry sets it. -/
def SetLast (changes : List Change) (key : OverrideKey) (entry : Option Override) : Prop :=
  ∃ before after, changes = before ++ .setOverride key.1 key.2 entry :: after ∧
    ∀ change ∈ after, ¬ change.Touches key

variable {key : OverrideKey} {entry : Option Override}

theorem not_setLast_nil : ¬ SetLast [] key entry := by
  rintro ⟨before, after, split, _⟩
  simp at split

theorem setLast_append_singleton_iff {changes : List Change} {change : Change} :
    SetLast (changes ++ [change]) key entry ↔
      change = .setOverride key.1 key.2 entry ∨
        ¬ change.Touches key ∧ SetLast changes key entry := by
  constructor
  · rintro ⟨before, after, split, untouched⟩
    cases after using List.reverseRecOn with
    | nil =>
        obtain ⟨_, same⟩ := List.append_inj' split rfl
        exact .inl (List.singleton_inj.mp same)
    | append_singleton after last =>
        rw [← List.cons_append, ← List.append_assoc] at split
        obtain ⟨earlier, same⟩ := List.append_inj' split rfl
        obtain rfl := List.singleton_inj.mp same
        refine .inr ⟨untouched change (by simp), before, after, earlier, ?_⟩
        intro other mem
        exact untouched other (List.mem_append_left _ mem)
  · rintro (rfl | ⟨kept, before, after, rfl, untouched⟩)
    · exact ⟨changes, [], rfl, by simp⟩
    · refine ⟨before, after ++ [change], by simp, ?_⟩
      intro other mem
      rcases List.mem_append.mp mem with earlier | last
      · exact untouched other earlier
      · rw [List.mem_singleton.mp last]
        exact kept

/-- Changes to parameters without overrides leave the entries that were set last. -/
theorem get?_foldl_apply_iff {start : Parameters} (bare : start.overrides = .empty)
    (changes : List Change) :
    (changes.foldl Parameters.apply start).overrides.get? key = some entry ↔
      SetLast changes key entry := by
  -- one change at the end: it decides the entry, or the entry is as before
  induction changes using List.reverseRecOn with
  | nil =>
      rw [List.foldl_nil, bare, OverrideTable.get?_empty]
      exact iff_of_false nofun not_setLast_nil
  | append_singleton changes change ih =>
      rw [List.foldl_append, List.foldl_cons, List.foldl_nil, Parameters.get?_apply_eq_some_iff,
        setLast_append_singleton_iff, ih]

theorem isTidy_foldl_apply {start : Parameters} (tidy : start.overrides.IsTidy)
    (changes : List Change) : (changes.foldl Parameters.apply start).overrides.IsTidy := by
  induction changes generalizing start with
  | nil => exact tidy
  | cons change rest ih => exact ih (Parameters.isTidy_apply tidy change)

/-! ## How parameters are built -/

/-- How parameters are built: where they start, and the changes made from there. -/
inductive Recipe where
  /-- From the defaults. -/
  | new (changes : List Change)
  | ofConfig (config : Config) (changes : List Change)
  /-- Upon parameters that were built before. -/
  | upon (earlier : Recipe) (changes : List Change)

namespace Recipe

def parameters : Recipe → Parameters
  | .new changes => changes.foldl Parameters.apply {}
  | .ofConfig config changes => changes.foldl Parameters.apply config.parameters
  | .upon earlier changes => changes.foldl Parameters.apply earlier.parameters

/-- All changes since the defaults or the configuration. -/
def changes : Recipe → List Change
  | .new changes => changes
  | .ofConfig _ changes => changes
  | .upon earlier changes => earlier.changes ++ changes

/-- Neither the defaults nor a configuration have overrides. -/
theorem exists_start (recipe : Recipe) :
    ∃ start : Parameters, start.overrides = .empty ∧
      recipe.parameters = recipe.changes.foldl Parameters.apply start := by
  induction recipe with
  | new changes => exact ⟨{}, rfl, rfl⟩
  | ofConfig config changes => exact ⟨config.parameters, rfl, rfl⟩
  | upon earlier changes ih =>
      obtain ⟨start, bare, same⟩ := ih
      refine ⟨start, bare, ?_⟩
      rw [parameters, Recipe.changes, List.foldl_append, same]

theorem get?_parameters_iff (recipe : Recipe) :
    recipe.parameters.overrides.get? key = some entry ↔ SetLast recipe.changes key entry := by
  obtain ⟨start, bare, same⟩ := recipe.exists_start
  rw [same]
  exact get?_foldl_apply_iff bare recipe.changes

theorem isTidy_parameters (recipe : Recipe) : recipe.parameters.overrides.IsTidy := by
  obtain ⟨start, bare, same⟩ := recipe.exists_start
  rw [same]
  exact isTidy_foldl_apply (bare ▸ OverrideTable.isTidy_empty) recipe.changes

end Recipe

/-- Two parameters have the same settings, switch off the same renderers, and have overrides for the
same keys, which are alike. -/
structure Parameters.ReadAlike (a b : Parameters) : Prop where
  video : a.video = b.video
  audio : a.audio = b.audio
  text : a.text = b.text
  playback : a.playback = b.playback
  disabled (i : Nat) : a.disabledRenderers.contains i = b.disabledRenderers.contains i
  overrides (key : OverrideKey) : OverrideTable.AgreeAt a.overrides b.overrides key

theorem Parameters.same_iff_readAlike {a b : Parameters} (tidy : a.overrides.IsTidy)
    (tidyToo : b.overrides.IsTidy) : a.same b = true ↔ a.ReadAlike b := by
  simp only [same, Bool.and_eq_true, decide_eq_true_eq, OverrideTable.same_iff tidy tidyToo,
    IndexSet.eq_iff_contains]
  constructor
  · rintro ⟨⟨⟨⟨⟨video, audio⟩, text⟩, playback⟩, disabled⟩, overrides⟩
    exact ⟨video, audio, text, playback, disabled, overrides⟩
  · rintro ⟨video, audio, text, playback, disabled, overrides⟩
    exact ⟨⟨⟨⟨⟨video, audio⟩, text⟩, playback⟩, disabled⟩, overrides⟩

/-- However parameters were built, an override is found exactly if it was set last, the number of
overrides is the number of keys that have one, and no renderer is kept without overrides. Two of
them are the same exactly if they read alike. -/
theorem Recipe.same_iff_readAlike_of_built (a b : Recipe) :
    (∀ key entry, a.parameters.overrides.get? key = some entry ↔ SetLast a.changes key entry) ∧
      (∃ keys : List OverrideKey, keys.Nodup ∧
        (∀ key, key ∈ keys ↔ ∃ entry, a.parameters.overrides.get? key = some entry) ∧
        a.parameters.overrides.size = keys.length) ∧
      (∀ i overrides, a.parameters.overrides.renderers.get? i = some overrides →
        overrides.isEmpty = false) ∧
      (a.parameters.same b.parameters = true ↔ a.parameters.ReadAlike b.parameters) := by
  refine ⟨fun _ _ => a.get?_parameters_iff, ?_, a.isTidy_parameters, ?_⟩
  · refine ⟨a.parameters.overrides.entries.map Prod.fst, OverrideTable.nodup_keys _, ?_, ?_⟩
    · intro key
      exact OverrideTable.mem_keys_iff
    · rw [OverrideTable.size_eq, List.length_map]
  · exact Parameters.same_iff_readAlike a.isTidy_parameters b.isTidy_parameters

end TrackSelection
