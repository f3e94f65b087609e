import TrackSelection.Proofs.Overriding

/-!
# Tracks that are selected twice

A computed selection names its tracks in ascending order, so none of them twice. An override brings
its own list of tracks, and its check compares only neighbours: that finds every repeated track of a
list in ascending order, as it is built from tracks, but not of a list as it may be read from a JSON
value. The main statement is that overrides are the only way for a selection to name a track twice,
and only those whose tracks are not in order.
-/

namespace TrackSelection

namespace Override

theorem pairwise_le_ofTracks (groupIndex : Nat) (tracks : List Nat) :
    (ofTracks groupIndex tracks).tracks.Pairwise (· ≤ ·) := by
  have transitive (a b c : Nat) : decide (a ≤ b) = true → decide (b ≤ c) = true →
      decide (a ≤ c) = true := by
    simpa using Nat.le_trans
  have total (a b : Nat) : (decide (a ≤ b) || decide (b ≤ a)) = true := by
    simpa using Nat.le_total a b
  have sorted := List.pairwise_mergeSort transitive total tracks
  exact sorted.imp of_decide_eq_true

/-- In an ascending list without equal neighbours every track is greater than those before. -/
theorem pairwise_lt_of_repeated?_eq_none {tracks : List Nat} (ascending : tracks.Pairwise (· ≤ ·))
    (distinct : repeated? tracks = none) : tracks.Pairwise (· < ·) := by
  fun_induction repeated? tracks with
  | case1 first rest => cases distinct
  | case2 first second rest different ih =>
      obtain ⟨least, others⟩ := List.pairwise_cons.mp ascending
      refine List.pairwise_cons.mpr ⟨?_, ih others distinct⟩
      intro track mem
      have next : first < second := Nat.lt_of_le_of_ne (least second List.mem_cons_self) different
      rcases List.mem_cons.mp mem with rfl | later
      · exact next
      · exact Nat.lt_of_lt_of_le next ((List.pairwise_cons.mp others).1 track later)
  | case3 tracks few =>
      match tracks, few with
      | [], _ => exact .nil
      | [track], _ => exact List.pairwise_singleton _ _
      | first :: second :: rest, few => exact absurd rfl (few first second rest)

theorem nodup_of_fault?_eq_none {override : Override} {i : Nat} {groups : List TrackGroup}
    (faultless : override.fault? i groups = none) (ascending : override.tracks.Pairwise (· ≤ ·)) :
    override.tracks.Nodup := by
  obtain ⟨_, _, _, _, distinct⟩ := fault?_eq_none_iff.mp faultless
  exact (pairwise_lt_of_repeated?_eq_none ascending distinct).imp Nat.ne_of_lt

end Override

theorem Selection.DrawnFrom.nodup {selection : Selection} {groups : List TrackGroup}
    (drawn : selection.DrawnFrom groups) : selection.tracks.Nodup :=
  List.nodup_range.sublist drawn.ascending

namespace Pass

/-- An override decides the selection of a renderer. -/
structure InEffect (mapping : Mapping) (parameters : Parameters) (i : Nat) (override : Override) :
    Prop where
  enabled : parameters.disabledRenderers.contains i = false
  registered : ∃ renderer, mapping.renderers[i]? = some renderer ∧
    ((i, renderer.trackGroups), some override) ∈ parameters.overrides.entries ∧
    override.fault? i renderer.trackGroups = none

variable {mapping : Mapping} {parameters : Parameters} {systemLanguages : List String}
variable {i : Nat} {override : Override} {selection : Selection}

/-- An override in effect is what its renderer selects. -/
theorem exists_selection_of_inEffect (systemLanguages : List String)
    (effective : InEffect mapping parameters i override) :
    ∃ group, (run mapping parameters systemLanguages).selections[i]? =
      some (some (chosenBy override group)) := by
  obtain ⟨renderer, here, registered, faultless⟩ := effective.registered
  obtain ⟨group, there, _⟩ := Override.fault?_eq_none_iff.mp faultless
  obtain ⟨computed, found⟩ := exists_computed here parameters systemLanguages
  refine ⟨group, (getElem?_run_selections_iff here found).mpr ?_⟩
  exact .replaced effective.enabled override group registered faultless there

/-- What a renderer selects is drawn from its groups, or comes from an override in effect. -/
theorem drawnFrom_or_inEffect
    (found : (run mapping parameters systemLanguages).selections[i]? = some (some selection)) :
    (∃ groups, selection.DrawnFrom groups) ∨
      ∃ override group, InEffect mapping parameters i override ∧
        selection = chosenBy override group := by
  have bound : i < mapping.renderers.length := by
    obtain ⟨bound, _⟩ := List.getElem?_eq_some_iff.mp found
    simpa [run] using bound
  have here := List.getElem?_eq_getElem bound
  obtain ⟨computed, computedHere⟩ := exists_computed here parameters systemLanguages
  cases (getElem?_run_selections_iff here computedHere).mp found with
  | kept enabled free => exact .inl ⟨_, computed_drawnFrom here computedHere⟩
  | replaced enabled override group registered faultless there =>
      exact .inr ⟨override, group, ⟨enabled, _, here, registered, faultless⟩, rfl⟩
  | disregarded enabled override registered faulty =>
      exact .inl ⟨_, computed_drawnFrom here computedHere⟩

/-- No selection of a pass names a track twice exactly if no override in effect does. An override in
effect does not if its tracks are in ascending order, as they are when it is built from tracks. -/
theorem nodup_tracks_iff (mapping : Mapping) (parameters : Parameters)
    (systemLanguages : List String) :
    ((∀ selection, some selection ∈ (run mapping parameters systemLanguages).selections →
        selection.tracks.Nodup) ↔
      ∀ i override, InEffect mapping parameters i override → override.tracks.Nodup) ∧
    (∀ i override, InEffect mapping parameters i override →
      override.tracks.Pairwise (· ≤ ·) → override.tracks.Nodup) ∧
    ∀ groupIndex tracks, (Override.ofTracks groupIndex tracks).tracks.Pairwise (· ≤ ·) := by
  refine ⟨⟨?_, ?_⟩, ?_, Override.pairwise_le_ofTracks⟩
  · intro distinct i override effective
    obtain ⟨group, found⟩ := exists_selection_of_inEffect systemLanguages effective
    exact distinct _ (List.mem_of_getElem? found)
  · intro distinct selection mem
    obtain ⟨i, found⟩ := List.getElem?_of_mem mem
    rcases drawnFrom_or_inEffect found with ⟨_, drawn⟩ | ⟨override, group, effective, rfl⟩
    · exact drawn.nodup
    · exact distinct i override effective
  · intro i override effective ascending
    obtain ⟨_, _, _, faultless⟩ := effective.registered
    exact Override.nodup_of_fault?_eq_none faultless ascending

/-- An override read from a JSON value repeats a track, is accepted, and is selected. -/
theorem selections_unordered :
    ∃ override,
      Override.ofJson? (.record [("group_index", .nat 0), ("tracks", .list .nat [0, 1, 0])]) =
        some override ∧
      (Sample.choosing override).check = .ok () ∧
      (run Sample.screen (Sample.choosing override) []).selections =
        [some { groupIndex := 0, group := Sample.ladder, tracks := [0, 1, 0], reason := .manual }] ∧
      ¬ [0, 1, 0].Nodup := by
  refine ⟨{ groupIndex := 0, tracks := [0, 1, 0] }, by decide, ?_, by decide, by decide⟩
  exact Sample.check_choosing _ (by decide)

end Pass

end TrackSelection
