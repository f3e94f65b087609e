import TrackSelection.Parameters.FiniteMap
import TrackSelection.Parameters.Override

/-!
# The table of overrides

Overrides are kept per renderer and list of groups, so that they apply only while a renderer has
exactly these groups. An entry without an override asks for no selection. The table is a map of
maps: each renderer has the map of its overrides, by groups. A renderer whose last override is
removed is removed as well, since tables are compared as they are stored.
-/

namespace TrackSelection

/-- What an override is made for: a renderer, and the groups it was given. -/
abbrev OverrideKey := Nat × List TrackGroup

/-- The overrides of one renderer, by its groups. -/
abbrev RendererOverrides := FiniteMap (List TrackGroup) (Option Override)

/-- Overrides by renderer and groups. -/
structure OverrideTable where
  renderers : FiniteMap Nat RendererOverrides

namespace OverrideTable

def empty : OverrideTable := ⟨.empty⟩

/-- All entries with their keys, renderer by renderer. -/
def entries (table : OverrideTable) : List (OverrideKey × Option Override) :=
  table.renderers.entries.flatMap fun (renderer, overrides) =>
    overrides.entries.map fun (groups, override) => ((renderer, groups), override)

def get? (table : OverrideTable) (key : OverrideKey) : Option (Option Override) :=
  (table.renderers.get? key.1).bind fun overrides => overrides.get? key.2

def insert (table : OverrideTable) (key : OverrideKey) (override : Option Override) :
    OverrideTable :=
  let overrides := (table.renderers.get? key.1).getD .empty
  ⟨table.renderers.insert key.1 (overrides.insert key.2 override)⟩

/-- Remove the entry of a key, and its renderer with the last one. -/
def erase (table : OverrideTable) (key : OverrideKey) : OverrideTable :=
  match table.renderers.get? key.1 with
  | none => table
  | some overrides =>
    let rest := overrides.erase key.2
    if rest.isEmpty then ⟨table.renderers.erase key.1⟩ else ⟨table.renderers.insert key.1 rest⟩

def eraseRenderer (table : OverrideTable) (renderer : Nat) : OverrideTable :=
  ⟨table.renderers.erase renderer⟩

def size (table : OverrideTable) : Nat :=
  table.renderers.entries.foldl (fun total entry => total + entry.2.size) 0

def alike : Option Override → Option Override → Bool
  | none, none => true
  | some a, some b => a.alike b
  | _, _ => false

/-- Whether two tables have the same renderers, with the same keys and entries that are alike. -/
def same (a b : OverrideTable) : Bool :=
  a.renderers.same (FiniteMap.same alike) b.renderers

/-- What is wrong with the first bad override, by renderer and then in the order of insertion. -/
def fault? (table : OverrideTable) : Option ParameterFault :=
  (table.renderers.entries.mergeSort fun a b => a.1 ≤ b.1).findSome? fun (renderer, overrides) =>
    overrides.entries.findSome? fun (groups, override) =>
      override.bind fun override => override.fault? renderer groups

end OverrideTable

end TrackSelection
