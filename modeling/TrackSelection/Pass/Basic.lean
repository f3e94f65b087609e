import TrackSelection.Pass.Computed
import TrackSelection.Pass.Tunneling

/-!
# A selection pass

The computed selections are settled renderer by renderer: a renderer that is switched off selects
nothing, and an override made for exactly its groups replaces what was computed, unless it does not
fit these groups. A renderer is enabled when it has a selection, or needs none. Last, a tunnel is
set up if one is asked for and possible.
-/

namespace TrackSelection

/-- What a pass decided: for each renderer its configuration, if it is enabled, and its selection,
if it has one. -/
structure Outcome where
  configurations : List (Option RendererConfiguration)
  selections : List (Option Selection)
  mapping : Mapping

namespace Outcome

def size (outcome : Outcome) : Nat :=
  outcome.configurations.length

def selectAlike : Option Selection → Option Selection → Bool
  | none, none => true
  | some a, some b => a.alike b
  | _, _ => false

/-- Whether two outcomes agree on a renderer that both have. -/
def isEquivalentAt (a b : Outcome) (renderer : Nat) : Bool :=
  match a.configurations[renderer]?, b.configurations[renderer]? with
  | some x, some y =>
    x = y && selectAlike (a.selections[renderer]?.join) (b.selections[renderer]?.join)
  | _, _ => false

def isEquivalent (a b : Outcome) : Bool :=
  a.size = b.size && (List.range a.size).all (a.isEquivalentAt b)

end Outcome

namespace Pass

/-- The selection that an override makes of its groups; `none` when it does not fit them. -/
def ofOverride? (override : Override) (renderer : Nat) (groups : List TrackGroup) :
    Option Selection :=
  match override.fault? renderer groups, groups[override.groupIndex]? with
  | none, some group => some
      { groupIndex := override.groupIndex
        group := group
        tracks := override.tracks
        reason := override.reason
        data := override.data }
  | _, _ => none

/-- The selection of a renderer after switches and overrides. -/
def settle (parameters : Parameters) (i : Nat) (renderer : MappedRenderer)
    (computed : Option Selection) : Option Selection :=
  if parameters.disabledRenderers.contains i then none
  else match parameters.overrides.get? (i, renderer.trackGroups) with
    | none => computed
    | some none => none
    | some (some override) => (ofOverride? override i renderer.trackGroups) <|> computed

def selections (mapping : Mapping) (parameters : Parameters) (systemLanguages : List String) :
    List (Option Selection) :=
  (mapping.renderers.zip (computed mapping parameters systemLanguages)).zipIdx.map
    fun ((renderer, selection), i) => settle parameters i renderer selection

/-- The configuration of a renderer without a tunnel. -/
def enable (parameters : Parameters) (i : Nat) (renderer : MappedRenderer)
    (selection : Option Selection) : Option RendererConfiguration :=
  if !parameters.disabledRenderers.contains i &&
      (renderer.trackType = .none || selection.isSome) then some {} else none

/-- Set up a tunnel if a session is given and two renderers can share it. -/
def tunnel (mapping : Mapping) (parameters : Parameters) (selections : List (Option Selection))
    (configurations : List (Option RendererConfiguration)) : List (Option RendererConfiguration) :=
  match parameters.playback.tunnelingSession, Tunneling.pair? mapping selections with
  | some session, some (some pair) => Tunneling.configure session pair configurations
  | _, _ => configurations

def run (mapping : Mapping) (parameters : Parameters) (systemLanguages : List String) : Outcome :=
  let selections := selections mapping parameters systemLanguages
  let configurations := (mapping.renderers.zip selections).zipIdx.map
    fun ((renderer, selection), i) => enable parameters i renderer selection
  { configurations := tunnel mapping parameters selections configurations
    selections := selections
    mapping := mapping }

end Pass

end TrackSelection
