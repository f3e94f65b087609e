import TrackSelection.Error
import TrackSelection.Media.Format

/-!
# Track groups

A group holds formats of the same content of which one can be played at a time, such as one video
at several sizes. Groups have an identity: two groups are equal when their identities and formats
are. Lists of groups are compared group by group, so that lists of different groups with equal
formats differ.
-/

namespace TrackSelection

/-- Formats of the same content. There is at least one. -/
structure TrackGroup where
  id : GroupId
  formats : List Format
  nonempty : formats ≠ []
deriving DecidableEq

namespace TrackGroup

/-- The group of some formats, with their languages in normal form. -/
def ofFormats (id : GroupId) (formats : List Format) : Except Error TrackGroup :=
  if h : formats = [] then .error (.invalidGroup (.empty id))
  else .ok ⟨id, formats.map Format.normalized, by simpa using h⟩

def size (group : TrackGroup) : Nat :=
  group.formats.length

/-- The kind of content, by the first format. -/
def trackType (group : TrackGroup) : TrackType :=
  (group.formats.head group.nonempty).trackType

/-- The first track with a format. -/
def indexOf? (group : TrackGroup) (format : Format) : Option Nat :=
  group.formats.idxOf? format

/-- The first position in a list of groups that holds a group of the same identity. -/
def positionIn? (group : TrackGroup) (groups : List TrackGroup) : Option Nat :=
  groups.findIdx? fun other => other.id = group.id

theorem size_pos (group : TrackGroup) : 0 < group.size :=
  List.length_pos_iff.mpr group.nonempty

end TrackGroup

end TrackSelection
