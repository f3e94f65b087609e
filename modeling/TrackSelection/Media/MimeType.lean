import TrackSelection.Media.TrackType

/-!
# MIME types

The top level of a MIME type is the part before the first slash; it tells video, audio and text. Of
the application types, those that carry subtitles, timed metadata or camera motion are known by
name.
-/

namespace TrackSelection.MimeType

/-- Application types that carry subtitles or captions. -/
def subtitleTypes : List String :=
  ["application/x-subrip", "application/ttml+xml", "application/cea-608", "application/cea-708",
   "application/x-mp4-cea-608", "application/x-mp4-vtt", "application/x-quicktime-tx3g",
   "application/x-rawcc", "application/vobsub", "application/pgs", "application/dvbsubs"]

/-- Application types that carry timed metadata. -/
def metadataTypes : List String :=
  ["application/id3", "application/x-emsg", "application/x-scte35"]

/-- The top level of a MIME type; there is none without a slash. -/
def topLevel? (type : String) : Option String :=
  if '/' ∈ type.toList then some (String.ofList (type.toList.takeWhile (· ≠ '/'))) else none

def isVideo (type : String) : Bool :=
  topLevel? type = some "video"

def isAudio (type : String) : Bool :=
  topLevel? type = some "audio"

/-- Whether a type carries subtitles or captions. -/
def isText (type : String) : Bool :=
  topLevel? type = some "text" || subtitleTypes.contains type

/-- The track type that renders a MIME type; without one it is unknown. -/
def trackType : Option String → TrackType
  | none => .unknown
  | some type =>
    if isAudio type then .audio
    else if isVideo type then .video
    else if isText type then .text
    else if metadataTypes.contains type then .metadata
    else if type = "application/x-camera-motion" then .cameraMotion
    else .unknown

end TrackSelection.MimeType
