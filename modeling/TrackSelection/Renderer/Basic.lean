import TrackSelection.Media.Group
import TrackSelection.Renderer.Capability

/-!
# Renderers

A renderer is known by its answers: what it can do with a format, and how well it moves between
tracks of different MIME types. Either question may fail.
-/

namespace TrackSelection

/-- A renderer and its answers. -/
structure Renderer where
  name : String
  trackType : TrackType
  /-- What it can do with a track of some format. -/
  capabilities : Format → Except Error Capabilities
  /-- How it moves between tracks of different MIME types. -/
  mixedMimeTypes : Except Error AdaptiveSupport

end TrackSelection
