import TrackSelection.Parameters.Change
import TrackSelection.Proofs.Overriding

/-!
# Settings of single renderers

A renderer can be switched off, and its selection can be overridden. Rivals for audio and text are
compared before either is looked at, and so is the audio language that text follows; what is set for
one renderer therefore never changes what another one selects, or whether it is enabled. Only a
tunnel joins two renderers: without a session, the configurations of the others are the same too.
-/

namespace TrackSelection

/-! ## Parameters that differ for one renderer -/

/-- Two parameters differ at most in what they set for the renderer at a position: whether it is
switched off, and its overrides. -/
structure Parameters.AgreeBeside (r : Nat) (a b : Parameters) : Prop where
  video : a.video = b.video
  audio : a.audio = b.audio
  text : a.text = b.text
  playback : a.playback = b.playback
  disabled (i : Nat) (other : i ≠ r) :
    a.disabledRenderers.contains i = b.disabledRenderers.contains i
  overrides (i : Nat) (other : i ≠ r) (groups : List TrackGroup) :
    a.overrides.get? (i, groups) = b.overrides.get? (i, groups)

/-- The change is about the renderer at a position alone. -/
def Change.IsAbout (r : Nat) : Change → Prop
  | .rendererDisabled i _ => i = r
  | .setOverride i _ _ => i = r
  | .clearOverride i _ => i = r
  | .clearOverridesOf i => i = r
  | _ => False

theorem IndexSet.contains_insert_of_ne {set : IndexSet} {i j : Nat} (other : j ≠ i) :
    (set.insert i).contains j = set.contains j := by
  simp [contains, insert, mem_insertInto, other]

theorem IndexSet.contains_erase_of_ne {set : IndexSet} {i j : Nat} (other : j ≠ i) :
    (set.erase i).contains j = set.contains j := by
  simp [contains, erase, other]

namespace Parameters.AgreeBeside

variable {r : Nat} {a b c : Parameters}

theorem refl (a : Parameters) : a.AgreeBeside r a :=
  ⟨rfl, rfl, rfl, rfl, fun _ _ => rfl, fun _ _ _ => rfl⟩

theorem trans (first : a.AgreeBeside r b) (second : b.AgreeBeside r c) : a.AgreeBeside r c where
  video := first.video.trans second.video
  audio := first.audio.trans second.audio
  text := first.text.trans second.text
  playback := first.playback.trans second.playback
  disabled i other := (first.disabled i other).trans (second.disabled i other)
  overrides i other groups :=
    (first.overrides i other groups).trans (second.overrides i other groups)

theorem of_overrides {table : OverrideTable}
    (same : ∀ i, i ≠ r → ∀ groups, a.overrides.get? (i, groups) = table.get? (i, groups)) :
    a.AgreeBeside r { a with overrides := table } :=
  ⟨rfl, rfl, rfl, rfl, fun _ _ => rfl, same⟩

theorem apply {change : Change} (about : change.IsAbout r) (a : Parameters) :
    a.AgreeBeside r (a.apply change) := by
  cases change with
  | rendererDisabled i value =>
      obtain rfl : i = r := about
      refine ⟨rfl, rfl, rfl, rfl, ?_, fun _ _ _ => rfl⟩
      intro j other
      cases value with
      | true => exact (IndexSet.contains_insert_of_ne other).symm
      | false => exact (IndexSet.contains_erase_of_ne other).symm
  | setOverride i groups entry =>
      obtain rfl : i = r := about
      apply of_overrides
      intro j other others
      rw [OverrideTable.get?_insert, if_neg (by simp [other])]
  | clearOverride i groups =>
      obtain rfl : i = r := about
      apply of_overrides
      intro j other others
      rw [OverrideTable.get?_erase, if_neg (by simp [other])]
  | clearOverridesOf i =>
      obtain rfl : i = r := about
      apply of_overrides
      intro j other others
      rw [OverrideTable.get?_eraseRenderer, if_neg other]
  | _ => exact absurd about id

theorem foldl_apply {changes : List Change} (about : ∀ change ∈ changes, change.IsAbout r)
    (a : Parameters) : a.AgreeBeside r (changes.foldl Parameters.apply a) := by
  induction changes generalizing a with
  | nil => exact refl a
  | cons change rest ih =>
      have first := AgreeBeside.apply (about change List.mem_cons_self) a
      exact first.trans (ih (fun other mem => about other (List.mem_cons_of_mem change mem)) _)

end Parameters.AgreeBeside

/-! ## What a pass does with them -/

def Outcome.IsEnabled (outcome : Outcome) (i : Nat) : Prop :=
  ∃ configuration, outcome.configurations[i]? = some (some configuration)

namespace Pass

variable {mapping : Mapping} {systemLanguages : List String} {a b : Parameters} {r i : Nat}
variable {renderer : MappedRenderer}

/-- Selections are computed without a look at what is set for single renderers. -/
theorem computed_with (mapping : Mapping) (parameters : Parameters) (systemLanguages : List String)
    (disabled : IndexSet) (overrides : OverrideTable) :
    computed mapping { parameters with disabledRenderers := disabled, overrides := overrides }
      systemLanguages = computed mapping parameters systemLanguages := rfl

theorem computed_eq_of_agreeBeside (agree : a.AgreeBeside r b) :
    computed mapping a systemLanguages = computed mapping b systemLanguages := by
  have shared : a = { b with
      disabledRenderers := a.disabledRenderers, overrides := a.overrides } := by
    rw [← agree.video, ← agree.audio, ← agree.text, ← agree.playback]
  rw [shared, computed_with]

theorem settle_eq_of_agreeBeside (agree : a.AgreeBeside r b) (other : i ≠ r)
    (computed : Option Selection) :
    settle a i renderer computed = settle b i renderer computed := by
  rw [settle, settle, agree.disabled i other, agree.overrides i other]

theorem enable_eq_of_agreeBeside (agree : a.AgreeBeside r b) (other : i ≠ r)
    (selection : Option Selection) :
    enable a i renderer selection = enable b i renderer selection := by
  rw [enable, enable, agree.disabled i other]

/-- A pass has nothing for positions without a renderer. -/
theorem getElem?_run_of_no_renderer (absent : mapping.renderers[i]? = none)
    (parameters : Parameters) :
    (run mapping parameters systemLanguages).selections[i]? = none ∧
      (run mapping parameters systemLanguages).configurations[i]? = none := by
  rw [List.getElem?_eq_none_iff] at absent
  constructor
  · exact List.getElem?_eq_none (Nat.le_trans (Nat.le_of_eq length_selections) absent)
  · exact List.getElem?_eq_none (Nat.le_trans (Nat.le_of_eq length_configurations) absent)

theorem selections_eq_of_agreeBeside (agree : a.AgreeBeside r b) (other : i ≠ r) :
    (run mapping a systemLanguages).selections[i]? =
      (run mapping b systemLanguages).selections[i]? := by
  cases here : mapping.renderers[i]? with
  | none =>
      rw [(getElem?_run_of_no_renderer here a).1, (getElem?_run_of_no_renderer here b).1]
  | some renderer =>
      obtain ⟨computed, found, settled⟩ :=
        @getElem?_selections mapping a systemLanguages i renderer here
      obtain ⟨computedToo, foundToo, settledToo⟩ :=
        @getElem?_selections mapping b systemLanguages i renderer here
      rw [computed_eq_of_agreeBeside agree, foundToo, Option.some.injEq] at found
      change (selections mapping a systemLanguages)[i]? = (selections mapping b systemLanguages)[i]?
      rw [settled, settledToo, found, settle_eq_of_agreeBeside agree other]

theorem isEnabled_iff_of_agreeBeside (agree : a.AgreeBeside r b) (other : i ≠ r) :
    (run mapping a systemLanguages).IsEnabled i ↔ (run mapping b systemLanguages).IsEnabled i := by
  rw [Outcome.IsEnabled, Outcome.IsEnabled]
  cases here : mapping.renderers[i]? with
  | none =>
      rw [(getElem?_run_of_no_renderer here a).2, (getElem?_run_of_no_renderer here b).2]
  | some renderer =>
      rw [exists_configuration_run_iff here, exists_configuration_run_iff here,
        agree.disabled i other, selections_eq_of_agreeBeside agree other]

theorem run_configurations_of_no_session {parameters : Parameters}
    (alone : parameters.playback.tunnelingSession = none) :
    (run mapping parameters systemLanguages).configurations =
      enabled mapping parameters (run mapping parameters systemLanguages).selections := by
  apply run_configurations_of_not_joined
  intro session a v joined
  have given := joined.session
  rw [alone] at given
  cases given

theorem configurations_eq_of_agreeBeside (agree : a.AgreeBeside r b) (other : i ≠ r)
    (alone : a.playback.tunnelingSession = none) :
    (run mapping a systemLanguages).configurations[i]? =
      (run mapping b systemLanguages).configurations[i]? := by
  cases here : mapping.renderers[i]? with
  | none =>
      rw [(getElem?_run_of_no_renderer here a).2, (getElem?_run_of_no_renderer here b).2]
  | some renderer =>
      obtain ⟨selection, chosen⟩ : ∃ selection,
          (run mapping a systemLanguages).selections[i]? = some selection := by
        obtain ⟨computed, _, settled⟩ := getElem?_selections here
        exact ⟨settle a i renderer computed, settled⟩
      have chosenToo := (selections_eq_of_agreeBeside agree other).symm.trans chosen
      have aloneToo : b.playback.tunnelingSession = none := agree.playback ▸ alone
      rw [run_configurations_of_no_session alone, run_configurations_of_no_session aloneToo,
        getElem?_enabled here chosen, getElem?_enabled here chosenToo,
        enable_eq_of_agreeBeside agree other]

/-- What is set for one renderer does not reach another: it selects the same, and is enabled or not
as before. Without a session for a tunnel it is configured as before, too. -/
theorem run_agree_beside (agree : a.AgreeBeside r b) (mapping : Mapping)
    (systemLanguages : List String) (i : Nat) (other : i ≠ r) :
    (run mapping a systemLanguages).selections[i]? =
        (run mapping b systemLanguages).selections[i]? ∧
      ((run mapping a systemLanguages).IsEnabled i ↔
        (run mapping b systemLanguages).IsEnabled i) ∧
      (a.playback.tunnelingSession = none →
        (run mapping a systemLanguages).configurations[i]? =
          (run mapping b systemLanguages).configurations[i]?) :=
  ⟨selections_eq_of_agreeBeside agree other, isEnabled_iff_of_agreeBeside agree other,
    configurations_eq_of_agreeBeside agree other⟩

namespace Sample

def english (type : TrackType) (flags : SelectionFlags) : MappedRenderer :=
  tunneling type [{ language := some "en", selectionFlags := flags }]

/-- Audio, and a subtitle that is shown only beside audio of its language. -/
def subtitled : Mapping where
  renderers := [english .audio {}, english .text { bits := 2 }]
  unmapped := []

/-- Audio is switched off, and it is to have no selection. -/
def silence : List Change :=
  [.rendererDisabled 0 true, .setOverride 0 (english .audio {}).trackGroups none]

end Sample

/-- The subtitle stays when its audio is silenced. A tunnel, however, reaches another renderer:
without audio, video is not in it any more. -/
theorem run_agree_beside_subtitled :
    (run Sample.subtitled (Sample.silence.foldl Parameters.apply {}) []).selections.map
        Option.isSome = [false, true] ∧
      (run Sample.subtitled {} []).selections[1]? =
        (run Sample.subtitled (Sample.silence.foldl Parameters.apply {}) []).selections[1]? ∧
      ((run Sample.subtitled {} []).IsEnabled 1 ↔
        (run Sample.subtitled (Sample.silence.foldl Parameters.apply {}) []).IsEnabled 1) ∧
      (run Sample.subtitled {} []).configurations[1]? =
        (run Sample.subtitled (Sample.silence.foldl Parameters.apply {}) []).configurations[1]? ∧
      (run Sample.theatre Sample.evening []).configurations[0]? ≠
        (run Sample.theatre (Sample.evening.apply (.rendererDisabled 1 true))
          []).configurations[0]? := by
  have agree : Parameters.AgreeBeside 0 {} (Sample.silence.foldl Parameters.apply {}) := by
    apply Parameters.AgreeBeside.foldl_apply
    simp [Sample.silence, Change.IsAbout]
  obtain ⟨selections, enabled, configurations⟩ :=
    run_agree_beside agree Sample.subtitled [] 1 (by decide)
  exact ⟨by decide, selections, enabled, configurations rfl, by decide⟩

end Pass

end TrackSelection
