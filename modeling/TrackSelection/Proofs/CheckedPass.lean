import TrackSelection.Mapping.Assignment
import TrackSelection.Proofs.CheckedLoops
import TrackSelection.Proofs.Tunnels

/-!
# Passes that read and write by position

A pass in which every renderer, group and track is read by its position and every place of a result
is read and written by its position, where an outer `none` is a position that is out of range. The
computed selections come from loops over one list; they are settled and the renderers configured
place by place. The main statement is that nothing is out of range on a mapping, whatever the
parameters: the two passes have the same outcome.
-/

namespace TrackSelection

namespace Checked

/-- The selection of a renderer after switches and overrides. The group of an override is read once
the override has no fault. -/
def settle? (parameters : Parameters) (i : Nat) (renderer : MappedRenderer)
    (computed : Option Selection) : Option (Option Selection) :=
  if parameters.disabledRenderers.contains i then some none
  else match parameters.overrides.get? (i, renderer.trackGroups) with
    | none => some computed
    | some none => some none
    | some (some override) =>
      match override.fault? i renderer.trackGroups with
      | some _ => some computed
      | none => do
        let group ← renderer.trackGroups[override.groupIndex]?
        return some {
          groupIndex := override.groupIndex
          group := group
          tracks := override.tracks
          reason := override.reason
          data := override.data }

/-- Give a session to the two renderers of a tunnel, if both have a place. -/
def configure? (session : UInt32) (pair : Nat × Nat)
    (configurations : List (Option RendererConfiguration)) :
    Option (List (Option RendererConfiguration)) := do
  let tunneling : Option RendererConfiguration := some { tunnelingSession := some session }
  let configured ← write? configurations pair.1 tunneling
  write? configured pair.2 tunneling

def tunnel? (mapping : Mapping) (parameters : Parameters) (selections : List (Option Selection))
    (configurations : List (Option RendererConfiguration)) :
    Option (List (Option RendererConfiguration)) :=
  match parameters.playback.tunnelingSession with
  | none => some configurations
  | some session => do
    match ← Tunneling.pair? mapping selections with
    | none => return configurations
    | some pair => configure? session pair configurations

def run? (mapping : Mapping) (parameters : Parameters) (systemLanguages : List String) :
    Option Outcome := do
  let computed ← computed? mapping parameters systemLanguages
  let selections ← eachRenderer? mapping fun i renderer => do
    settle? parameters i renderer (← computed[i]?)
  let enabled ← eachRenderer? mapping fun i renderer => do
    return Pass.enable parameters i renderer (← selections[i]?)
  let configurations ← tunnel? mapping parameters selections enabled
  return { configurations, selections, mapping }

/-! ## The settled selections and the configurations -/

variable (mapping : Mapping) (parameters : Parameters) (systemLanguages : List String)

theorem settle?_eq (i : Nat) (renderer : MappedRenderer) (computed : Option Selection) :
    settle? parameters i renderer computed =
      some (Pass.settle parameters i renderer computed) := by
  unfold settle? Pass.settle
  split
  · rfl
  · cases parameters.overrides.get? (i, renderer.trackGroups) with
    | none => rfl
    | some entry =>
        cases entry with
        | none => rfl
        | some override =>
            unfold Pass.ofOverride?
            cases faulty : override.fault? i renderer.trackGroups with
            | some fault => simp [faulty]
            | none =>
                obtain ⟨group, here, _⟩ := Override.fault?_eq_none_iff.mp faulty
                simp [faulty, here]

/-- Going through the renderers beside a list with a place for each of them. -/
theorem eachRenderer?_zip_eq {β : Type} {places : List α}
    {act : Nat → MappedRenderer → α → Option β} {result : (MappedRenderer × α) × Nat → β}
    (length : places.length = mapping.renderers.length)
    (h : ∀ i renderer place, act i renderer place = some (result ((renderer, place), i))) :
    (eachRenderer? mapping fun i renderer => do act i renderer (← places[i]?)) =
      some ((mapping.renderers.zip places).zipIdx.map result) := by
  have positions : List.range mapping.renderers.length =
      (mapping.renderers.zip places).zipIdx.map Prod.snd := by
    rw [List.zipIdx_map_snd, List.range_eq_range', List.length_zip, length, Nat.min_self]
  unfold eachRenderer?
  rw [positions, List.mapM_map]
  refine mapM_eq_some_map ?_
  rintro ⟨⟨renderer, place⟩, i⟩ mem
  obtain ⟨here, there⟩ := List.getElem?_zip_eq_some.mp (List.mem_zipIdx_iff_getElem?.mp mem)
  simp_all

end Checked

namespace Tunneling

variable {mapping : Mapping}

theorem lt_of_qualifies {selections : List (Option Selection)} {type : TrackType} {i : Nat}
    (qualified : Qualifies mapping selections type i) : i < mapping.renderers.length := by
  obtain ⟨_, _, here, _⟩ := qualified
  exact (List.getElem?_eq_some_iff.mp here).1

/-- Looking for the two renderers of a tunnel asks only for tracks that exist, and finds only
renderers that exist. -/
theorem exists_pair? {selections : List (Option Selection)}
    (length : selections.length = mapping.renderers.length)
    (fits : ∀ (i : Nat) (renderer : MappedRenderer) (selection : Selection),
      mapping.renderers[i]? = some renderer → selections[i]? = some (some selection) →
        selection.FitsIn renderer.trackGroups) :
    ∃ found, pair? mapping selections = some found ∧
      ∀ pair ∈ found, pair.1 < mapping.renderers.length ∧ pair.2 < mapping.renderers.length := by
  refine ⟨_, pair?_eq length fits, ?_⟩
  rintro ⟨a, v⟩ found
  obtain ⟨audio, video⟩ := onlyPair?_qualifying_eq_some_iff.mp found
  exact ⟨lt_of_qualifies ((audio a).mpr rfl), lt_of_qualifies ((video v).mpr rfl)⟩

end Tunneling

namespace Checked

variable (mapping : Mapping) (parameters : Parameters) (systemLanguages : List String)

theorem configure?_eq (session : UInt32) {pair : Nat × Nat}
    {configurations : List (Option RendererConfiguration)}
    (inside : pair.1 < configurations.length ∧ pair.2 < configurations.length) :
    configure? session pair configurations =
      some (Tunneling.configure session pair configurations) := by
  simp [configure?, write?, inside.1, inside.2, Tunneling.configure]

theorem tunnel?_eq (configurations : List (Option RendererConfiguration))
    (length : configurations.length = mapping.renderers.length) :
    tunnel? mapping parameters (Pass.selections mapping parameters systemLanguages)
        configurations =
      some (Pass.tunnel mapping parameters (Pass.selections mapping parameters systemLanguages)
        configurations) := by
  unfold tunnel? Pass.tunnel
  cases parameters.playback.tunnelingSession with
  | none => rfl
  | some session =>
      obtain ⟨found, asked, inside⟩ := Tunneling.exists_pair? Pass.length_selections
        fun _ _ _ here chosen => Pass.selections_fitsIn here chosen
      rw [asked]
      cases found with
      | none => rfl
      | some pair =>
          refine configure?_eq session ?_
          rw [length]
          exact inside pair rfl

/-- No read of a pass fails, whatever the parameters are. -/
theorem run?_eq :
    run? mapping parameters systemLanguages =
      some (Pass.run mapping parameters systemLanguages) := by
  have settled : (eachRenderer? mapping fun i renderer => do
      settle? parameters i renderer (← (Pass.computed mapping parameters systemLanguages)[i]?)) =
        some (Pass.selections mapping parameters systemLanguages) :=
    eachRenderer?_zip_eq mapping Pass.length_computed (settle?_eq parameters)
  have enabled : (eachRenderer? mapping fun i renderer => do
      return Pass.enable parameters i renderer
        (← (Pass.selections mapping parameters systemLanguages)[i]?)) =
        some ((mapping.renderers.zip
          (Pass.selections mapping parameters systemLanguages)).zipIdx.map
            fun entry => Pass.enable parameters entry.2 entry.1.1 entry.1.2) :=
    eachRenderer?_zip_eq mapping Pass.length_selections fun _ _ _ => rfl
  rw [run?, computed?_eq, Option.bind_eq_bind, Option.bind_some, settled, Option.bind_eq_bind,
    Option.bind_some, enabled, Option.bind_some,
    tunnel?_eq mapping parameters systemLanguages _ (by simp)]
  rfl

end Checked

/-! ## Passes over assigned groups -/

theorem Mapping.length_renderers_of_assign {renderers : List Renderer} {groups : List TrackGroup}
    {mapping : Mapping} (assigned : assign renderers groups = .ok mapping) :
    mapping.renderers.length = renderers.length := by
  unfold assign at assigned
  cases asked : renderers.mapM Renderer.mixedMimeTypes with
  | error e => simp [asked, bind, Except.bind] at assigned
  | ok mixed =>
      cases answered : answers renderers groups with
      | error e => simp [asked, answered, bind, Except.bind] at assigned
      | ok answers =>
          simp only [asked, answered, bind, Except.bind, pure, Except.pure,
            Except.ok.injEq] at assigned
          simp [← assigned, ofPlacements, length_eq_of_mapM_eq_ok asked]

namespace Pass

/-- A pass over groups that were given to renderers is safe for all parameters and languages: no
read by position fails and nothing is divided by zero, each renderer has its place in the result,
and every selection fits the groups of its renderer. -/
theorem run_safe_of_assign {renderers : List Renderer} {groups : List TrackGroup}
    {mapping : Mapping} (assigned : Mapping.assign renderers groups = .ok mapping)
    (parameters : Parameters) (systemLanguages : List String) :
    Checked.run? mapping parameters systemLanguages =
        some (run mapping parameters systemLanguages) ∧
      (run mapping parameters systemLanguages).selections.length = renderers.length ∧
      ∀ (i : Nat) (selection : Selection),
        (run mapping parameters systemLanguages).selections[i]? = some (some selection) →
          ∃ renderer, mapping.renderers[i]? = some renderer ∧
            selection.FitsIn renderer.trackGroups := by
  refine ⟨Checked.run?_eq mapping parameters systemLanguages, ?_, ?_⟩
  · rw [← Mapping.length_renderers_of_assign assigned]
    exact length_selections
  · intro i selection found
    have bound : i < mapping.renderers.length := by
      obtain ⟨bound, _⟩ := List.getElem?_eq_some_iff.mp found
      simpa [run] using bound
    have here := List.getElem?_eq_getElem bound
    exact ⟨_, here, selections_fitsIn here found⟩

namespace Sample

def ladder : TrackGroup where
  id := ⟨0⟩
  formats := [{ width := some 640, height := some 360 }, { width := some 1280, height := some 720 }]
  nonempty := by decide

def player : Renderer where
  name := "player"
  trackType := .video
  capabilities _ := .ok { format := .handled, adaptive := .seamless, tunneling := .supported }
  mixedMimeTypes := .ok .notSupported

/-- Parameters that a check would refuse: a viewport without area, and an override that fits
nothing. -/
def unchecked : Parameters where
  video := { viewport := { width := 0, height := 0 } }
  playback := { tunnelingSession := some 1 }
  overrides := OverrideTable.empty.insert (0, [ladder])
    (some { groupIndex := 7, tracks := [3, 3] })

/-- What is selected all the same: the smaller size. -/
def smaller : Selection where
  groupIndex := 0
  group := ladder
  tracks := [0]

end Sample

theorem run_safe_of_assign_unchecked :
    ∃ mapping, Mapping.assign [Sample.player] [Sample.ladder] = .ok mapping ∧
      (run mapping Sample.unchecked []).selections = [some Sample.smaller] ∧
      Checked.run? mapping Sample.unchecked [] = some (run mapping Sample.unchecked []) ∧
      ∃ renderer, mapping.renderers[0]? = some renderer ∧
        Sample.smaller.FitsIn renderer.trackGroups := by
  have safe := @run_safe_of_assign [Sample.player] [Sample.ladder] _ rfl Sample.unchecked []
  exact ⟨_, rfl, by decide, safe.1, safe.2.2 0 Sample.smaller (by decide)⟩

end Pass

end TrackSelection
