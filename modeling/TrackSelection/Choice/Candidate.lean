import TrackSelection.Mapping.Basic
import TrackSelection.Selection.Basic

/-!
# Candidates

The tracks of a renderer, one by one, in the order of groups and of tracks in a group.
-/

namespace TrackSelection

/-- A track that may be selected. -/
structure Candidate where
  groupIndex : Nat
  mapped : MappedGroup
  track : Nat
  format : Format
  capabilities : Capabilities

namespace Candidate

/-- The tracks of some groups. -/
def all (groups : List MappedGroup) : List Candidate :=
  groups.zipIdx.flatMap fun (mapped, groupIndex) =>
    mapped.tracks.zipIdx.map fun ((format, capabilities), track) =>
      { groupIndex, mapped, track, format, capabilities }

/-- The selection of this track alone. -/
def selection (candidate : Candidate) : Selection where
  groupIndex := candidate.groupIndex
  group := candidate.mapped.group
  tracks := [candidate.track]

end Candidate

/-- Whether a value is unknown or within a limit. -/
def isWithin (value : Option UInt32) (limit : UInt32) : Bool :=
  value.all (· ≤ limit)

/-- Compare values that may be unknown; unknown is lowest. -/
def compareKnown [Ord α] : Option α → Option α → Ordering
  | none, none => .eq
  | none, some _ => .lt
  | some _, none => .gt
  | some a, some b => compare a b

end TrackSelection
