/-!
# Track types

What a renderer plays, and what a track carries.
-/

namespace TrackSelection

/-- The kind of content of a track or a renderer. -/
inductive TrackType where
  /-- A renderer that consumes no tracks. -/
  | none
  /-- Content that could not be classified. -/
  | unknown
  | audio
  | video
  | text
  | metadata
  | cameraMotion
deriving DecidableEq, Repr

namespace TrackType

def all : List TrackType :=
  [.none, .unknown, .audio, .video, .text, .metadata, .cameraMotion]

def name : TrackType → String
  | .none => "none"
  | .unknown => "unknown"
  | .audio => "audio"
  | .video => "video"
  | .text => "text"
  | .metadata => "metadata"
  | .cameraMotion => "camera_motion"

def ofName? (name : String) : Option TrackType :=
  all.find? fun type => type.name = name

end TrackType

end TrackSelection
