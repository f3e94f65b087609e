import TrackSelection.Error
import TrackSelection.Halving
import TrackSelection.Json.Alike
import TrackSelection.Media.Group
import TrackSelection.Selection.Reason

/-!
# Overrides

An override is a selection that the user made for a renderer. It is checked against the groups it
was made for before it is used. Overrides built from a list of tracks keep the tracks sorted, and a
track is searched by halving.
-/

namespace TrackSelection

/-- A selection chosen by the user. -/
structure Override where
  /-- The position of the group among those of the renderer. -/
  groupIndex : Nat
  /-- Positions of the tracks in the group. -/
  tracks : List Nat
  reason : SelectionReason := .manual
  data : Option Json := none
deriving DecidableEq

namespace Override

/-- The override that selects some tracks, in ascending order. -/
def ofTracks (groupIndex : Nat) (tracks : List Nat) : Override where
  groupIndex := groupIndex
  tracks := tracks.mergeSort (· ≤ ·)

/-- Whether two overrides are equal, but for the signs of zeros in their data. -/
def alike (a b : Override) : Bool :=
  { a with data := a.data.map Json.unsigned } = { b with data := b.data.map Json.unsigned }

/-- Whether a track is selected. The tracks are searched by halving, sorted or not. -/
def contains (override : Override) (track : Nat) : Bool :=
  (search? (compare · track) override.tracks).isSome

/-- The first track that stands twice in a row. -/
def repeated? : List Nat → Option Nat
  | first :: second :: rest => if first = second then some first else repeated? (second :: rest)
  | _ => none

/-- What is wrong with an override for a renderer with some groups. -/
def fault? (override : Override) (renderer : Nat) (groups : List TrackGroup) :
    Option ParameterFault :=
  match groups[override.groupIndex]? with
  | none => some (.groupOutOfRange renderer override.groupIndex groups.length)
  | some group =>
    if override.tracks.isEmpty then some (.noTracks renderer)
    else match override.tracks.find? fun track => group.size ≤ track with
      | some track => some (.trackOutOfRange renderer track group.size)
      | none => (repeated? override.tracks).map (.repeatedTrack renderer)

def toJson (override : Override) : Json :=
  .record [
    ("group_index", .nat override.groupIndex),
    ("tracks", .list .nat override.tracks),
    ("reason", override.reason.toJson),
    ("data", .orNull id override.data)]

/-- The override written by a JSON value, with the tracks as they stand there. Its data may nest so
deep that with the override itself there are 127 levels. -/
def ofJson? (value : Json) : Option Override := do
  let fields ← value.fields? ["group_index", "tracks", "reason", "data"]
  return {
    groupIndex := ← fields.required? "group_index" Json.index?
    tracks := ← fields.required? "tracks" (Json.list? Json.index?)
    reason := ← fields.withDefault? "reason" .manual SelectionReason.ofJson?
    data := ← fields.optional? "data" (Json.free? 126) }

end Override

end TrackSelection
