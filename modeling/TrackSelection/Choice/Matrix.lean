import TrackSelection.Choice.Audio
import TrackSelection.Choice.Other
import TrackSelection.Choice.Text
import TrackSelection.Choice.Video

/-!
# Choosing from a bare capability matrix

Groups and their capabilities may come apart: as a list of groups and a matrix with a row for each
group and an entry for each track. Extra rows and entries do no harm. An entry that is needed and
missing makes the choice fail. All entries are needed, but for adaptive video, which looks at one
group after the other and only at tracks worth showing.
-/

namespace TrackSelection

/-- Capabilities by group and track. -/
abbrev CapabilityMatrix := List (List Capabilities)

namespace MappedGroup

/-- A group with the entries of a row; tracks beyond the row are not supported. -/
def padded (group : TrackGroup) (row : List Capabilities) : MappedGroup where
  group := group
  capabilities :=
    (row ++ List.replicate (group.size - row.length) ({} : Capabilities)).take group.size
  covers := by
    simp only [List.length_take, List.length_append, List.length_replicate]
    omega

/-- Groups with their rows, when no entry is missing. -/
def ofMatrix? : List TrackGroup → CapabilityMatrix → Option (List MappedGroup)
  | [], _ => some []
  | _ :: _, [] => none
  | group :: groups, row :: rows =>
    if group.size ≤ row.length then (ofMatrix? groups rows).map (padded group row :: ·) else none

end MappedGroup

/-- Choose audio from a matrix; the outer `none` is a missing entry. -/
def AudioTrack.selectFrom? (parameters : Parameters) (systemLanguages : List String)
    (allowAdaptive : Bool) (groups : List TrackGroup) (matrix : CapabilityMatrix) :
    Option (Option (Selection × AudioScore)) :=
  (MappedGroup.ofMatrix? groups matrix).map (select? parameters systemLanguages allowAdaptive)

def TextTrack.selectFrom? (parameters : Parameters) (audioLanguage : Option String)
    (groups : List TrackGroup) (matrix : CapabilityMatrix) :
    Option (Option (Selection × TextScore)) :=
  (MappedGroup.ofMatrix? groups matrix).map (select? parameters audioLanguage)

def OtherTrack.selectFrom? (parameters : Parameters) (groups : List TrackGroup)
    (matrix : CapabilityMatrix) : Option (Option Selection) :=
  (MappedGroup.ofMatrix? groups matrix).map (select? parameters)

namespace VideoTrack

/-- Look for an adaptive selection group by group; the outer `none` is a missing entry. -/
def selectAdaptiveFrom? (required : AdaptiveSupport) (video : VideoParameters) (mix : Bool)
    (groupIndex : Nat) : List TrackGroup → CapabilityMatrix → Option (Option Selection)
  | [], _ => some none
  | _ :: _, [] => none
  | group :: groups, row :: rows =>
    let needed := atLeastTwo (video.viewport.worthShowing group)
    if needed.all (· < row.length) then
      match adaptiveSelection? required video mix groupIndex (.padded group row) with
      | some selection => some (some selection)
      | none => selectAdaptiveFrom? required video mix (groupIndex + 1) groups rows
    else none

def selectFrom? (parameters : Parameters) (mixed : AdaptiveSupport) (allowAdaptive : Bool)
    (groups : List TrackGroup) (matrix : CapabilityMatrix) : Option (Option Selection) := do
  let required := requiredSupport parameters.video
  let mix := mayMix parameters.video mixed
  let adaptive ← if !parameters.forcesBitrate && allowAdaptive
    then selectAdaptiveFrom? required parameters.video mix 0 groups matrix
    else some none
  match adaptive with
  | some selection => return some selection
  | none => return selectFixed? parameters (← MappedGroup.ofMatrix? groups matrix)

end VideoTrack

end TrackSelection
