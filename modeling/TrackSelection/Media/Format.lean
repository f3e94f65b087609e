import TrackSelection.Json.Decode
import TrackSelection.Media.Flags
import TrackSelection.Media.FrameRate
import TrackSelection.Media.Language
import TrackSelection.Media.MimeType

/-!
# Formats

A format is what is known about one elementary track. Every property may be unknown.
-/

namespace TrackSelection

/-- The properties of one track; `none` is unknown. -/
structure Format where
  id : Option String := none
  label : Option String := none
  selectionFlags : SelectionFlags := {}
  roleFlags : RoleFlags := {}
  bitrate : Option UInt32 := none
  codecs : Option String := none
  containerMimeType : Option String := none
  sampleMimeType : Option String := none
  width : Option UInt32 := none
  height : Option UInt32 := none
  frameRate : Option FrameRate := none
  channelCount : Option UInt32 := none
  sampleRate : Option UInt32 := none
  language : Option String := none
deriving DecidableEq, Repr

namespace Format

def pixelCount (format : Format) : Option Nat :=
  match format.width, format.height with
  | some width, some height => some (width.toNat * height.toNat)
  | _, _ => none

/-- The kind of content, by the MIME type of the samples. -/
def trackType (format : Format) : TrackType :=
  MimeType.trackType format.sampleMimeType

/-- The same format with its language in normal form. -/
def normalized (format : Format) : Format :=
  { format with language := format.language.map Language.normalize }

def fieldNames : List String :=
  ["id", "label", "selection_flags", "role_flags", "bitrate", "codecs", "container_mime_type",
   "sample_mime_type", "width", "height", "frame_rate", "channel_count", "sample_rate", "language"]

def ofJson? (value : Json) : Option Format := do
  let fields ← value.fields? fieldNames
  return {
    id := ← fields.optional? "id" Json.text?
    label := ← fields.optional? "label" Json.text?
    selectionFlags := ← fields.withDefault? "selection_flags" {}
      fun v => v.text?.bind SelectionFlags.parse?
    roleFlags := ← fields.withDefault? "role_flags" {} fun v => v.text?.bind RoleFlags.parse?
    bitrate := ← fields.optional? "bitrate" Json.uint32?
    codecs := ← fields.optional? "codecs" Json.text?
    containerMimeType := ← fields.optional? "container_mime_type" Json.text?
    sampleMimeType := ← fields.optional? "sample_mime_type" Json.text?
    width := ← fields.optional? "width" Json.uint32?
    height := ← fields.optional? "height" Json.uint32?
    frameRate := ← fields.optional? "frame_rate" FrameRate.ofJson?
    channelCount := ← fields.optional? "channel_count" Json.uint32?
    sampleRate := ← fields.optional? "sample_rate" Json.uint32?
    language := ← fields.optional? "language" Json.text? }

/-- The known properties of a format on one line, for people. -/
def describe (format : Format) : String :=
  let known {α : Type} (value : Option α) (write : α → String) := value.elim "" write
  let size := match format.width, format.height with
    | some width, some height => s!" {width}x{height}"
    | _, _ => ""
  format.sampleMimeType.getD "?" ++
    known format.id (fun id => s!" id={id}") ++
    size ++
    known format.frameRate (fun rate => s!" {rate.render}fps") ++
    known format.channelCount (fun count => s!" {count}ch") ++
    known format.sampleRate (fun rate => s!" {rate}Hz") ++
    known format.bitrate (fun bitrate => s!" {bitrate}bps") ++
    known format.language (fun language => s!" lang={language}") ++
    (if format.selectionFlags.bits = 0 then "" else s!" flags={format.selectionFlags.describe}")

end Format

end TrackSelection
