import TrackSelection.Mapping.Basic

/-!
# How well a mapping can be played

A renderer is summed up by the best support among its tracks. Tracks of a group can be switched
between as well as the least of them allows, and no better than the renderer moves between MIME
types when theirs differ.
-/

namespace TrackSelection

/-- How well a renderer supports what it was given. -/
inductive RendererSupport where
  | noTracks
  | unsupportedTracks
  | exceedsCapabilitiesTracks
  | playableTracks
deriving DecidableEq, Repr

namespace RendererSupport

def rank : RendererSupport → Nat
  | .noTracks => 0
  | .unsupportedTracks => 1
  | .exceedsCapabilitiesTracks => 2
  | .playableTracks => 3

instance : LE RendererSupport := ⟨fun a b => a.rank ≤ b.rank⟩
instance : LT RendererSupport := ⟨fun a b => a.rank < b.rank⟩
instance (a b : RendererSupport) : Decidable (a ≤ b) :=
  inferInstanceAs (Decidable (a.rank ≤ b.rank))
instance (a b : RendererSupport) : Decidable (a < b) :=
  inferInstanceAs (Decidable (a.rank < b.rank))
instance : Max RendererSupport := ⟨fun a b => if a ≤ b then b else a⟩

def name : RendererSupport → String
  | .noTracks => "no_tracks"
  | .unsupportedTracks => "unsupported_tracks"
  | .exceedsCapabilitiesTracks => "exceeds_capabilities_tracks"
  | .playableTracks => "playable_tracks"

/-- The level of a renderer with at least one track of some support. -/
def ofFormatSupport : FormatSupport → RendererSupport
  | .handled => .playableTracks
  | .exceedsCapabilities => .exceedsCapabilitiesTracks
  | _ => .unsupportedTracks

end RendererSupport

/-- The best support among the tracks of a renderer. -/
def MappedRenderer.support (renderer : MappedRenderer) : RendererSupport :=
  let levels := renderer.groups.flatMap fun mapped => mapped.capabilities.map Capabilities.format
  match levels with
  | [] => .noTracks
  | first :: rest => .ofFormatSupport (rest.foldl max first)

/-- The best support among the renderers of a type. -/
def Mapping.typeSupport (mapping : Mapping) (type : TrackType) : RendererSupport :=
  ((mapping.renderers.filter fun renderer => renderer.trackType = type).map
    MappedRenderer.support).foldl max .noTracks

namespace AdaptiveSupport

/-- How well playback can move between some tracks, on a renderer that moves between MIME types as
well as `mixed`. Between no tracks it cannot. -/
def ofTracks (mixed : AdaptiveSupport) : List (Format × Capabilities) → AdaptiveSupport
  | [] => .notSupported
  | first :: rest =>
    let least := (first :: rest).foldl (fun level track => min level track.2.adaptive) .seamless
    if rest.any fun track => track.1.sampleMimeType ≠ first.1.sampleMimeType then min least mixed
    else least

end AdaptiveSupport

/-- How well playback can move between the playable tracks of a group. -/
def MappedGroup.adaptiveSupport (mapped : MappedGroup) (mixed : AdaptiveSupport)
    (includeExceeding : Bool) : AdaptiveSupport :=
  .ofTracks mixed (mapped.tracks.filter fun track => track.2.isSupported includeExceeding)

/-- How well playback can move between tracks of a group, by position; `none` when a position is
out of range. -/
def MappedGroup.adaptiveSupportOf? (mapped : MappedGroup) (mixed : AdaptiveSupport)
    (tracks : List Nat) : Option AdaptiveSupport :=
  (tracks.mapM fun track => mapped.tracks[track]?).map (.ofTracks mixed)

/-- How well a renderer can move between tracks of one of its groups, by position; `none` when a
position is out of range. No tracks need no renderer and no group. -/
def Mapping.adaptiveSupportOf? (mapping : Mapping) (renderer group : Nat) (tracks : List Nat) :
    Option AdaptiveSupport :=
  if tracks.isEmpty then some .notSupported
  else do
    let r ← mapping.renderers[renderer]?
    let mapped ← r.groups[group]?
    mapped.adaptiveSupportOf? r.mixedMimeTypes tracks

end TrackSelection
