import TrackSelection.Json.Alike
import TrackSelection.Media.Group
import TrackSelection.Selection.Reason

/-!
# Selections

A selection names tracks of one of the groups that a renderer was given. With more than one track
it is adaptive: playback moves between them.
-/

namespace TrackSelection

/-- The tracks selected for one renderer. -/
structure Selection where
  /-- The position of the group among those of the renderer. -/
  groupIndex : Nat
  group : TrackGroup
  /-- Positions of the tracks in the group. -/
  tracks : List Nat
  reason : SelectionReason := .unknown
  data : Option Json := none
deriving DecidableEq

namespace Selection

/-- Whether playback moves between several tracks. -/
def isAdaptive (selection : Selection) : Bool :=
  1 < selection.tracks.length

/-- The formats of the selected tracks; `none` when a track is not in the group. -/
def formats? (selection : Selection) : Option (List Format) :=
  selection.tracks.mapM fun track => selection.group.formats[track]?

/-- The format of the first selected track; `none` when there is no such track. -/
def primaryFormat? (selection : Selection) : Option Format :=
  selection.tracks.head?.bind fun track => selection.group.formats[track]?

/-- Whether two selections are equal, but for the signs of zeros in their data. -/
def alike (a b : Selection) : Bool :=
  { a with data := a.data.map Json.unsigned } = { b with data := b.data.map Json.unsigned }

end Selection

end TrackSelection
