import TrackSelection.Renderer.Basic

/-!
# Renderers described by rules

A rule gives the answers for one MIME type. The first rule for the MIME type of a format counts; a
format without a rule is of an unsupported subtype when it is at least of the renderer's kind. A
format that the rule handles but that is beyond a size or channel limit exceeds the renderer's
capabilities.
-/

namespace TrackSelection

/-- The answers for one MIME type. -/
structure MimeRule where
  mimeType : String
  support : FormatSupport := .handled
  adaptive : AdaptiveSupport := .notSupported
  tunneling : Bool := false
deriving DecidableEq, Repr

def MimeRule.toJson (rule : MimeRule) : Json :=
  .record [
    ("mime_type", .text rule.mimeType),
    ("support", .text rule.support.name),
    ("adaptive", .text rule.adaptive.name),
    ("tunneling", .bool rule.tunneling)]

def MimeRule.ofJson? (value : Json) : Option MimeRule := do
  let fields ← value.fields? ["mime_type", "support", "adaptive", "tunneling"]
  return {
    mimeType := ← fields.required? "mime_type" Json.text?
    support := ← fields.withDefault? "support" .handled FormatSupport.ofJson?
    adaptive := ← fields.withDefault? "adaptive" .notSupported AdaptiveSupport.ofJson?
    tunneling := ← fields.withDefault? "tunneling" false Json.bool? }

/-- A renderer of one kind that answers from rules. -/
structure RuleRenderer where
  name : String
  trackType : TrackType
  rules : List MimeRule := []
  mixedMimeTypes : AdaptiveSupport := .notSupported
  maxWidth : Option UInt32 := none
  maxHeight : Option UInt32 := none
  maxChannelCount : Option UInt32 := none
deriving DecidableEq, Repr

namespace RuleRenderer

/-- Whether a known value is beyond a known limit. -/
def isBeyond (value limit : Option UInt32) : Bool :=
  match value, limit with
  | some value, some limit => limit < value
  | _, _ => false

def exceedsLimits (renderer : RuleRenderer) (format : Format) : Bool :=
  isBeyond format.width renderer.maxWidth || isBeyond format.height renderer.maxHeight ||
    isBeyond format.channelCount renderer.maxChannelCount

def capabilities (renderer : RuleRenderer) (format : Format) : Capabilities :=
  match renderer.rules.find? fun rule => some rule.mimeType = format.sampleMimeType with
  | none =>
    let ofItsKind := renderer.trackType ≠ .none ∧ format.trackType = renderer.trackType
    { format := if ofItsKind then .unsupportedSubtype else .unsupportedType }
  | some rule =>
    let beyond := rule.support = .handled ∧ renderer.exceedsLimits format
    { format := if beyond then .exceedsCapabilities else rule.support
      adaptive := rule.adaptive
      tunneling := if rule.tunneling then .supported else .notSupported }

/-- The renderer with these answers, which never fail. -/
def toRenderer (renderer : RuleRenderer) : Renderer where
  name := renderer.name
  trackType := renderer.trackType
  capabilities format := .ok (renderer.capabilities format)
  mixedMimeTypes := .ok renderer.mixedMimeTypes

def toJson (renderer : RuleRenderer) : Json :=
  let limit := Json.orNull fun value : UInt32 => .nat value.toNat
  .record [
    ("name", .text renderer.name),
    ("track_type", .text renderer.trackType.name),
    ("rules", .list MimeRule.toJson renderer.rules),
    ("mixed_mime_type_adaptation", .text renderer.mixedMimeTypes.name),
    ("max_width", limit renderer.maxWidth),
    ("max_height", limit renderer.maxHeight),
    ("max_channel_count", limit renderer.maxChannelCount)]

def ofJson? (value : Json) : Option RuleRenderer := do
  let fields ← value.fields? ["name", "track_type", "rules", "mixed_mime_type_adaptation",
    "max_width", "max_height", "max_channel_count"]
  return {
    name := ← fields.required? "name" Json.text?
    trackType := ← fields.required? "track_type" (Json.variantOf? TrackType.ofName?)
    rules := ← fields.withDefault? "rules" [] (Json.list? MimeRule.ofJson?)
    mixedMimeTypes := ← fields.withDefault? "mixed_mime_type_adaptation" .notSupported
      AdaptiveSupport.ofJson?
    maxWidth := ← fields.optional? "max_width" Json.uint32?
    maxHeight := ← fields.optional? "max_height" Json.uint32?
    maxChannelCount := ← fields.optional? "max_channel_count" Json.uint32? }

end RuleRenderer

end TrackSelection
