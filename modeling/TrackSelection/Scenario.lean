import TrackSelection.Json.Reader
import TrackSelection.Renderer.Rules

/-!
# Scenarios

A scenario lists renderers and the groups offered to them, each as its formats.
-/

namespace TrackSelection

/-- Renderers, and groups of formats offered to them. -/
structure Scenario where
  renderers : List RuleRenderer := []
  groups : List (List Format) := []
deriving DecidableEq, Repr

namespace Scenario

def ofJson? (value : Json) : Option Scenario := do
  let fields ← value.fields? ["renderers", "groups"]
  return {
    renderers := ← fields.withDefault? "renderers" [] (Json.list? RuleRenderer.ofJson?)
    groups := ← fields.withDefault? "groups" [] (Json.list? (Json.list? Format.ofJson?)) }

def parse (text : String) : Except Error Scenario :=
  match (Json.read? text).bind ofJson? with
  | some scenario => .ok scenario
  | none => .error (.malformed .scenario)

/-- The group at a position; its identity is the position. -/
def group (formats : List Format) (position : Nat) : Except Error TrackGroup :=
  if formats.isEmpty then .error (.invalidGroup (.emptyAt position))
  else TrackGroup.ofFormats (.ofNat position) (formats.map Format.normalized)

def trackGroups (scenario : Scenario) : Except Error (List TrackGroup) :=
  scenario.groups.zipIdx.mapM fun (formats, position) => group formats position

end Scenario

end TrackSelection
