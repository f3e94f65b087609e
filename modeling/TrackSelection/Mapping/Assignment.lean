import TrackSelection.Choice.Best
import TrackSelection.Mapping.Basic

/-!
# Giving groups to renderers

Every renderer is asked about every track first. A group then goes to the renderer whose best answer
for one of its tracks is highest, and to the first of equals; but a metadata group rather goes to a
renderer that has no group yet. A group whose type no renderer supports stays unmapped. Which
questions are asked does not depend on who gets which group, so the first failing question decides
the error.
-/

namespace TrackSelection

theorem length_eq_of_mapM_eq_ok {f : α → Except ε β} {items : List α} {results : List β}
    (h : items.mapM f = .ok results) : results.length = items.length := by
  induction items generalizing results with
  | nil =>
    simp only [List.mapM_nil, pure, Except.pure, Except.ok.injEq] at h
    simp [← h]
  | cons item rest ih =>
    rw [List.mapM_cons] at h
    cases hf : f item with
    | error e => simp [hf, bind, Except.bind] at h
    | ok result =>
      cases hr : rest.mapM f with
      | error e => simp [hf, hr, bind, Except.bind] at h
      | ok others =>
        simp only [hf, hr, bind, Except.bind, pure, Except.pure, Except.ok.injEq] at h
        simp [← h, ih hr]

/-- Ask a renderer about every track of a group. -/
def MappedGroup.query (renderer : Renderer) (group : TrackGroup) : Except Error MappedGroup :=
  match h : group.formats.mapM renderer.capabilities with
  | .error e => .error e
  | .ok capabilities => .ok ⟨group, capabilities, length_eq_of_mapM_eq_ok h⟩

/-- The best support for one of the tracks. -/
def MappedGroup.support (mapped : MappedGroup) : FormatSupport :=
  (mapped.capabilities.map Capabilities.format).foldl max .unsupportedType

/-- A renderer's answer for a group, and whether the renderer has no group yet. -/
structure Offer where
  renderer : Nat
  unused : Bool
  mapped : MappedGroup

namespace Offer

def isBetter (metadata : Bool) (offer other : Offer) : Bool :=
  other.mapped.support < offer.mapped.support ||
    (metadata && offer.mapped.support = other.mapped.support && !other.unused && offer.unused)

/-- The offer that gets the group. -/
def choose? (metadata : Bool) (offers : List Offer) : Option Offer :=
  best? (isBetter metadata) (offers.filter fun offer => offer.mapped.support ≠ .unsupportedType)

end Offer

/-- Where a group went. -/
inductive Placement where
  | given (renderer : Nat) (mapped : MappedGroup)
  | unmapped (group : TrackGroup)

namespace Placement

/-- Place groups one after the other, each with the answers of all renderers in order. The list
`used` holds the renderers that were given a group before. -/
def ofAnswers (used : List Nat) : List (TrackGroup × List MappedGroup) → List Placement
  | [] => []
  | (group, answers) :: rest =>
    let offers := answers.zipIdx.map fun (mapped, i) => ⟨i, !used.contains i, mapped⟩
    match Offer.choose? (group.trackType = .metadata) offers with
    | none => .unmapped group :: ofAnswers used rest
    | some offer => .given offer.renderer offer.mapped :: ofAnswers (offer.renderer :: used) rest

def givenTo? (renderer : Nat) : Placement → Option MappedGroup
  | .given r mapped => if r = renderer then some mapped else none
  | .unmapped _ => none

def unmapped? : Placement → Option TrackGroup
  | .given _ _ => none
  | .unmapped group => some group

end Placement

namespace Mapping

/-- The answers of all renderers for all groups, asked group by group. -/
def answers (renderers : List Renderer) (groups : List TrackGroup) :
    Except Error (List (TrackGroup × List MappedGroup)) :=
  groups.mapM fun group => do
    return (group, ← renderers.mapM fun renderer => MappedGroup.query renderer group)

def ofPlacements (renderers : List (Renderer × AdaptiveSupport)) (placements : List Placement) :
    Mapping where
  renderers := renderers.zipIdx.map fun ((renderer, mixed), i) =>
    { name := renderer.name
      trackType := renderer.trackType
      mixedMimeTypes := mixed
      groups := placements.filterMap (Placement.givenTo? i) }
  unmapped := placements.filterMap Placement.unmapped?

def assign (renderers : List Renderer) (groups : List TrackGroup) : Except Error Mapping := do
  let mixed ← renderers.mapM Renderer.mixedMimeTypes
  let answers ← answers renderers groups
  return ofPlacements (renderers.zip mixed) (Placement.ofAnswers [] answers)

end Mapping

end TrackSelection
