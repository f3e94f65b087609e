import TrackSelection.Json.Decode

/-!
# Capabilities

What a renderer can do with a track: how well it supports the format, whether it can switch to the
track and from it while playing, and whether it can play it in a tunnel. Levels are ordered from
least to most.
-/

namespace TrackSelection

/-- How well a renderer supports a format. -/
inductive FormatSupport where
  | unsupportedType
  | unsupportedSubtype
  | unsupportedDrm
  | exceedsCapabilities
  | handled
deriving DecidableEq, Repr

namespace FormatSupport

/-- Every level, least first. -/
def all : List FormatSupport :=
  [.unsupportedType, .unsupportedSubtype, .unsupportedDrm, .exceedsCapabilities, .handled]

def rank : FormatSupport → Nat
  | .unsupportedType => 0
  | .unsupportedSubtype => 1
  | .unsupportedDrm => 2
  | .exceedsCapabilities => 3
  | .handled => 4

instance : LE FormatSupport := ⟨fun a b => a.rank ≤ b.rank⟩
instance : LT FormatSupport := ⟨fun a b => a.rank < b.rank⟩
instance (a b : FormatSupport) : Decidable (a ≤ b) := inferInstanceAs (Decidable (a.rank ≤ b.rank))
instance (a b : FormatSupport) : Decidable (a < b) := inferInstanceAs (Decidable (a.rank < b.rank))
instance : Max FormatSupport := ⟨fun a b => if a ≤ b then b else a⟩

def name : FormatSupport → String
  | .unsupportedType => "unsupported_type"
  | .unsupportedSubtype => "unsupported_subtype"
  | .unsupportedDrm => "unsupported_drm"
  | .exceedsCapabilities => "exceeds_capabilities"
  | .handled => "handled"

def ofName? (name : String) : Option FormatSupport :=
  all.find? fun level => level.name = name

def ofJson? : Json → Option FormatSupport :=
  Json.variantOf? ofName?

end FormatSupport

/-- Whether playback can move between tracks. -/
inductive AdaptiveSupport where
  | notSupported
  | notSeamless
  | seamless
deriving DecidableEq, Repr

namespace AdaptiveSupport

/-- Every level, least first. -/
def all : List AdaptiveSupport :=
  [.notSupported, .notSeamless, .seamless]

def rank : AdaptiveSupport → Nat
  | .notSupported => 0
  | .notSeamless => 1
  | .seamless => 2

instance : LE AdaptiveSupport := ⟨fun a b => a.rank ≤ b.rank⟩
instance : LT AdaptiveSupport := ⟨fun a b => a.rank < b.rank⟩
instance (a b : AdaptiveSupport) : Decidable (a ≤ b) :=
  inferInstanceAs (Decidable (a.rank ≤ b.rank))
instance (a b : AdaptiveSupport) : Decidable (a < b) :=
  inferInstanceAs (Decidable (a.rank < b.rank))
instance : Min AdaptiveSupport := ⟨fun a b => if a ≤ b then a else b⟩

def name : AdaptiveSupport → String
  | .notSupported => "not_supported"
  | .notSeamless => "not_seamless"
  | .seamless => "seamless"

def ofName? (name : String) : Option AdaptiveSupport :=
  all.find? fun level => level.name = name

def ofJson? : Json → Option AdaptiveSupport :=
  Json.variantOf? ofName?

end AdaptiveSupport

/-- Whether a track can be played in a tunnel. -/
inductive TunnelingSupport where
  | notSupported
  | supported
deriving DecidableEq, Repr

namespace TunnelingSupport

def name : TunnelingSupport → String
  | .notSupported => "not_supported"
  | .supported => "supported"

def ofName? (name : String) : Option TunnelingSupport :=
  [.notSupported, .supported].find? fun level => level.name = name

def ofJson? : Json → Option TunnelingSupport :=
  Json.variantOf? ofName?

end TunnelingSupport

/-- What a renderer can do with one track. -/
structure Capabilities where
  format : FormatSupport := .unsupportedType
  adaptive : AdaptiveSupport := .notSupported
  tunneling : TunnelingSupport := .notSupported
deriving DecidableEq, Repr

namespace Capabilities

def isHandled (capabilities : Capabilities) : Bool :=
  capabilities.format = .handled

/-- Whether the track can be played, beyond what the renderer promises if that is allowed. -/
def isSupported (capabilities : Capabilities) (allowExceeding : Bool) : Bool :=
  capabilities.isHandled || (allowExceeding && capabilities.format = .exceedsCapabilities)

def supportsTunneling (capabilities : Capabilities) : Bool :=
  capabilities.tunneling = .supported

def toJson (capabilities : Capabilities) : Json :=
  .record [
    ("format", .text capabilities.format.name),
    ("adaptive", .text capabilities.adaptive.name),
    ("tunneling", .text capabilities.tunneling.name)]

def ofJson? (value : Json) : Option Capabilities := do
  let fields ← value.fields? ["format", "adaptive", "tunneling"]
  return {
    format := ← fields.withDefault? "format" .unsupportedType FormatSupport.ofJson?
    adaptive := ← fields.withDefault? "adaptive" .notSupported AdaptiveSupport.ofJson?
    tunneling := ← fields.withDefault? "tunneling" .notSupported TunnelingSupport.ofJson? }

end Capabilities

end TrackSelection
