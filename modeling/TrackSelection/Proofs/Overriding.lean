import TrackSelection.Proofs.CheckedPass
import TrackSelection.Proofs.OverrideTables

/-!
# How overrides take effect

An override is registered for a renderer and the groups it was given. It is checked twice: with the
parameters that it belongs to, and again when a pass looks it up. Both checks are made against the
groups that it is registered for, so that they agree, and an override of parameters without fault is
never disregarded. The main statement gives the selection of every renderer of a pass by cases that
exclude each other.
-/

namespace TrackSelection

/-! ## Checking overrides -/

namespace OverrideTable

variable {table : OverrideTable}

/-- A table is without fault when each override is, for the renderer and groups of its key. -/
theorem fault?_eq_none_iff :
    table.fault? = none ↔ ∀ (i : Nat) (groups : List TrackGroup) (override : Override),
      ((i, groups), some override) ∈ table.entries → override.fault? i groups = none := by
  have perRenderer : table.fault? = none ↔ ∀ (i : Nat) (overrides : RendererOverrides),
      (i, overrides) ∈ table.renderers.entries → ∀ groups entry,
        (groups, entry) ∈ overrides.entries →
          (entry.bind fun override => override.fault? i groups) = none := by
    simp only [fault?, List.findSome?_eq_none_iff, List.mem_mergeSort, Prod.forall]
  rw [perRenderer]
  simp only [← get?_eq_some_iff, get?, Option.bind_eq_some_iff, FiniteMap.get?_eq_some_iff]
  constructor
  · rintro faultless i groups override ⟨overrides, listed, registered⟩
    exact faultless i overrides listed groups (some override) registered
  · intro faultless i overrides listed groups entry registered
    cases entry with
    | none => rfl
    | some override => exact faultless i groups override ⟨overrides, listed, registered⟩

end OverrideTable

/-- Parameters are accepted when the viewport has an area and no override has a fault. -/
theorem Parameters.check_eq_ok_iff {parameters : Parameters} :
    parameters.check = .ok () ↔
      (parameters.video.viewport.width ≠ 0 ∧ parameters.video.viewport.height ≠ 0) ∧
        ∀ (i : Nat) (groups : List TrackGroup) (override : Override),
          ((i, groups), some override) ∈ parameters.overrides.entries →
            override.fault? i groups = none := by
  have accepted : parameters.check = .ok () ↔ parameters.fault? = none := by
    rw [check]
    cases parameters.fault? with
    | none => simp
    | some fault => simp
  rw [accepted, ← OverrideTable.fault?_eq_none_iff, ← not_or, fault?]
  by_cases zero : parameters.video.viewport.width = 0 ∨ parameters.video.viewport.height = 0
  · simp [zero]
  · simp [zero]

/-! ## Settling a selection -/

namespace Pass

def chosenBy (override : Override) (group : TrackGroup) : Selection where
  groupIndex := override.groupIndex
  group := group
  tracks := override.tracks
  reason := override.reason
  data := override.data

/-- What becomes of the computed selection of a renderer that was given some groups. -/
inductive Settled (parameters : Parameters) (i : Nat) (groups : List TrackGroup)
    (computed : Option Selection) : Option Selection → Prop
  /-- The renderer is switched off. -/
  | off (disabled : parameters.disabledRenderers.contains i = true) :
      Settled parameters i groups computed none
  /-- There is no override for exactly these groups. -/
  | kept (enabled : parameters.disabledRenderers.contains i = false)
      (free : ∀ entry, ((i, groups), entry) ∉ parameters.overrides.entries) :
      Settled parameters i groups computed computed
  /-- An empty override asks for no selection. -/
  | cleared (enabled : parameters.disabledRenderers.contains i = false)
      (registered : ((i, groups), none) ∈ parameters.overrides.entries) :
      Settled parameters i groups computed none
  /-- An override without fault replaces the computed selection. -/
  | replaced (enabled : parameters.disabledRenderers.contains i = false) (override : Override)
      (group : TrackGroup)
      (registered : ((i, groups), some override) ∈ parameters.overrides.entries)
      (faultless : override.fault? i groups = none)
      (here : groups[override.groupIndex]? = some group) :
      Settled parameters i groups computed (some (chosenBy override group))
  /-- An override with a fault is disregarded. -/
  | disregarded (enabled : parameters.disabledRenderers.contains i = false) (override : Override)
      (registered : ((i, groups), some override) ∈ parameters.overrides.entries)
      (faulty : override.fault? i groups ≠ none) :
      Settled parameters i groups computed computed

variable {mapping : Mapping} {parameters : Parameters} {systemLanguages : List String}
variable {i : Nat} {renderer : MappedRenderer} {computed final : Option Selection}

theorem ofOverride?_eq_chosenBy {override : Override} {groups : List TrackGroup}
    {group : TrackGroup} (faultless : override.fault? i groups = none)
    (here : groups[override.groupIndex]? = some group) :
    ofOverride? override i groups = some (chosenBy override group) := by
  rw [ofOverride?, faultless, here]
  rfl

theorem ofOverride?_eq_none {override : Override} {groups : List TrackGroup}
    (faulty : override.fault? i groups ≠ none) : ofOverride? override i groups = none := by
  unfold ofOverride?
  split
  · rename_i faultless _
    exact absurd faultless faulty
  · rfl

theorem settle_eq_of_registered {override : Override}
    (enabled : parameters.disabledRenderers.contains i = false)
    (registered : ((i, renderer.trackGroups), some override) ∈ parameters.overrides.entries) :
    settle parameters i renderer computed =
      (ofOverride? override i renderer.trackGroups).or computed := by
  rw [settle, enabled, if_neg Bool.false_ne_true, OverrideTable.get?_eq_some_iff.mpr registered]
  exact Option.orElse_eq_or

theorem settled_settle :
    Settled parameters i renderer.trackGroups computed (settle parameters i renderer computed) := by
  cases off : parameters.disabledRenderers.contains i with
  | true =>
      rw [settle, if_pos off]
      exact .off off
  | false =>
      cases found : parameters.overrides.get? (i, renderer.trackGroups) with
      | none =>
          rw [settle, off, if_neg Bool.false_ne_true, found]
          exact .kept off (OverrideTable.get?_eq_none_iff.mp found)
      | some entry =>
          have registered := OverrideTable.get?_eq_some_iff.mp found
          cases entry with
          | none =>
              rw [settle, off, if_neg Bool.false_ne_true, found]
              exact .cleared off registered
          | some override =>
              rw [settle_eq_of_registered off registered]
              by_cases faultless : override.fault? i renderer.trackGroups = none
              · obtain ⟨group, here, _⟩ := Override.fault?_eq_none_iff.mp faultless
                rw [ofOverride?_eq_chosenBy faultless here]
                exact .replaced off override group registered faultless here
              · rw [ofOverride?_eq_none faultless]
                exact .disregarded off override registered faultless

/-- The cases exclude each other. -/
theorem settle_eq_of_settled (settled : Settled parameters i renderer.trackGroups computed final) :
    settle parameters i renderer computed = final := by
  cases settled with
  | off disabled => rw [settle, if_pos disabled]
  | kept enabled free =>
      rw [settle, enabled, if_neg Bool.false_ne_true, OverrideTable.get?_eq_none_iff.mpr free]
  | cleared enabled registered =>
      rw [settle, enabled, if_neg Bool.false_ne_true, OverrideTable.get?_eq_some_iff.mpr registered]
  | replaced enabled override group registered faultless here =>
      rw [settle_eq_of_registered enabled registered, ofOverride?_eq_chosenBy faultless here,
        Option.some_or]
  | disregarded enabled override registered faulty =>
      rw [settle_eq_of_registered enabled registered, ofOverride?_eq_none faulty, Option.none_or]

/-- What a renderer of a pass selects is what its settings leave of the computed selection. -/
theorem getElem?_run_selections_iff (here : mapping.renderers[i]? = some renderer)
    (found : (Pass.computed mapping parameters systemLanguages)[i]? = some computed) :
    (run mapping parameters systemLanguages).selections[i]? = some final ↔
      Settled parameters i renderer.trackGroups computed final := by
  obtain ⟨_, alsoFound, settled⟩ := getElem?_selections here
  obtain rfl := Option.some.inj (found.symm.trans alsoFound)
  have same : (run mapping parameters systemLanguages).selections[i]? =
      some (settle parameters i renderer computed) := settled
  rw [same, Option.some.injEq]
  constructor
  · rintro rfl
    exact settled_settle
  · exact settle_eq_of_settled

theorem exists_computed (here : mapping.renderers[i]? = some renderer) (parameters : Parameters)
    (systemLanguages : List String) :
    ∃ computed, (Pass.computed mapping parameters systemLanguages)[i]? = some computed := by
  obtain ⟨computed, found, _⟩ := getElem?_selections here
  exact ⟨computed, found⟩

/-- Every renderer of a pass ends up with the one selection that its settings leave of the computed
one, and an override of parameters that passed their check is never disregarded. -/
theorem selections_settled (here : mapping.renderers[i]? = some renderer) :
    ∃ computed, (Pass.computed mapping parameters systemLanguages)[i]? = some computed ∧
      (∀ final, (run mapping parameters systemLanguages).selections[i]? = some final ↔
        Settled parameters i renderer.trackGroups computed final) ∧
      (parameters.check = .ok () → ∀ override,
        ((i, renderer.trackGroups), some override) ∈ parameters.overrides.entries →
          override.fault? i renderer.trackGroups = none) := by
  obtain ⟨computed, found⟩ := exists_computed here parameters systemLanguages
  refine ⟨computed, found, ?_, ?_⟩
  · intro final
    exact getElem?_run_selections_iff here found
  · intro accepted override registered
    exact (Parameters.check_eq_ok_iff.mp accepted).2 i renderer.trackGroups override registered

namespace Sample

/-- The renderer that was given a video in two sizes. -/
def onScreen : MappedRenderer where
  name := "player"
  trackType := .video
  mixedMimeTypes := .notSupported
  groups := [⟨ladder, [{ format := .handled }, { format := .handled }], rfl⟩]

def screen : Mapping where
  renderers := [onScreen]
  unmapped := []

/-- Parameters with one override, for the video in two sizes. -/
def choosing (override : Override) : Parameters where
  overrides := OverrideTable.empty.insert (0, [ladder]) (some override)

theorem check_choosing (override : Override) (faultless : override.fault? 0 [ladder] = none) :
    (choosing override).check = .ok () := by
  have area : unlimited ≠ 0 ∧ unlimited ≠ 0 := by decide
  refine Parameters.check_eq_ok_iff.mpr ⟨area, ?_⟩
  intro i groups other registered
  rw [← OverrideTable.get?_eq_some_iff, choosing, OverrideTable.get?_insert] at registered
  obtain ⟨⟨rfl, rfl⟩, rfl⟩ : (i = 0 ∧ groups = [ladder]) ∧ override = other := by
    simpa using registered
  exact faultless

def larger : Parameters :=
  choosing { groupIndex := 0, tracks := [1] }

end Sample

theorem selections_settled_larger :
    Sample.larger.check = .ok () ∧
      (run Sample.screen Sample.larger []).selections =
        [some { groupIndex := 0, group := Sample.ladder, tracks := [1], reason := .manual }] ∧
      ∃ computed, (Pass.computed Sample.screen Sample.larger [])[0]? = some computed ∧
        (∀ final, (run Sample.screen Sample.larger []).selections[0]? = some final ↔
          Settled Sample.larger 0 [Sample.ladder] computed final) ∧
        ∀ override, ((0, [Sample.ladder]), some override) ∈ Sample.larger.overrides.entries →
          override.fault? 0 [Sample.ladder] = none := by
  have accepted : Sample.larger.check = .ok () := Sample.check_choosing _ (by decide)
  obtain ⟨computed, here, settled, faultless⟩ :=
    @selections_settled Sample.screen Sample.larger [] 0 Sample.onScreen rfl
  exact ⟨accepted, by decide, computed, here, settled, faultless accepted⟩

end Pass

end TrackSelection
