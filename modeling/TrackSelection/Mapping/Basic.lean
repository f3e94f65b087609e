import TrackSelection.Renderer.Basic

/-!
# Mapped groups

A mapping says which groups each renderer was given, in the order of the input, together with the
capabilities the renderer reported for every track, and which groups nobody can play.
-/

namespace TrackSelection

/-- A group with the capabilities that one renderer reported for its tracks. -/
structure MappedGroup where
  group : TrackGroup
  capabilities : List Capabilities
  covers : capabilities.length = group.size
deriving DecidableEq

def MappedGroup.tracks (mapped : MappedGroup) : List (Format × Capabilities) :=
  mapped.group.formats.zip mapped.capabilities

@[simp] theorem MappedGroup.length_tracks (mapped : MappedGroup) :
    mapped.tracks.length = mapped.group.size := by
  simp [tracks, mapped.covers, TrackGroup.size]

/-- A renderer with the groups it was given. -/
structure MappedRenderer where
  name : String
  trackType : TrackType
  mixedMimeTypes : AdaptiveSupport
  groups : List MappedGroup
deriving DecidableEq

/-- The groups of a renderer without their capabilities. -/
def MappedRenderer.trackGroups (renderer : MappedRenderer) : List TrackGroup :=
  renderer.groups.map MappedGroup.group

/-- Groups given to renderers. -/
structure Mapping where
  renderers : List MappedRenderer
  unmapped : List TrackGroup
deriving DecidableEq

namespace Mapping

def group? (mapping : Mapping) (renderer group : Nat) : Option MappedGroup :=
  mapping.renderers[renderer]?.bind fun r => r.groups[group]?

/-- What a renderer reported for a track of one of its groups, by position. -/
def capabilities? (mapping : Mapping) (renderer group track : Nat) : Option Capabilities :=
  (mapping.group? renderer group).bind fun mapped => mapped.capabilities[track]?

end Mapping

end TrackSelection
