import TrackSelection.Media.Flags
import TrackSelection.Media.Language
import TrackSelection.Parameters.IndexSet
import TrackSelection.Parameters.OverrideTable

/-!
# Selection parameters

Limits, preferences and switches that steer a selection, by kind of track, and for single renderers
which of them are switched off and which selections are overridden. The greatest number of 32 bits
stands for no limit, and for a viewport dimension that is not set.
-/

namespace TrackSelection

/-- No limit, or an unset viewport dimension. -/
def unlimited : UInt32 := 0xFFFFFFFF

/-- The surface that video is shown on. -/
structure Viewport where
  width : UInt32 := unlimited
  height : UInt32 := unlimited
  /-- Whether the surface may be turned by a right angle. -/
  mayRotate : Bool := true
deriving DecidableEq, Repr

/-- Whether both dimensions are set. -/
def Viewport.isSet (viewport : Viewport) : Bool :=
  viewport.width ≠ unlimited && viewport.height ≠ unlimited

structure VideoParameters where
  maxWidth : UInt32 := unlimited
  maxHeight : UInt32 := unlimited
  maxFrameRate : UInt32 := unlimited
  maxBitrate : UInt32 := unlimited
  /-- Whether a track beyond the limits is better than none. -/
  mayExceedLimits : Bool := true
  /-- Whether playback may move between MIME types. -/
  mayMixMimeTypes : Bool := false
  /-- Whether playback may move between tracks visibly. -/
  mayBeNonSeamless : Bool := true
  viewport : Viewport := {}
deriving DecidableEq, Repr

structure AudioParameters where
  language : Option String := none
  maxChannelCount : UInt32 := unlimited
  maxBitrate : UInt32 := unlimited
  /-- Whether a track beyond the limits is better than none. -/
  mayExceedLimits : Bool := true
  mayMixMimeTypes : Bool := false
  mayMixSampleRates : Bool := false
  mayMixChannelCounts : Bool := false
deriving DecidableEq, Repr

structure TextParameters where
  language : Option String := none
  roles : RoleFlags := {}
  /-- Whether a track of undetermined language answers any language. -/
  selectUndetermined : Bool := false
  /-- Selection flags to disregard. -/
  disabledFlags : SelectionFlags := {}
deriving DecidableEq, Repr

/-- Switches for all kinds of tracks. -/
structure PlaybackParameters where
  forceLowestBitrate : Bool := false
  forceHighestBitrate : Bool := false
  /-- Whether a track beyond what the renderer promises is better than none. -/
  mayExceedCapabilities : Bool := true
  /-- Whether audio may be adaptive beside video. -/
  multipleAdaptive : Bool := false
  /-- The audio session to tunnel with. -/
  tunnelingSession : Option UInt32 := none
deriving DecidableEq, Repr

/-- Everything that steers a selection. -/
structure Parameters where
  video : VideoParameters := {}
  audio : AudioParameters := {}
  text : TextParameters := {}
  playback : PlaybackParameters := {}
  disabledRenderers : IndexSet := .empty
  overrides : OverrideTable := .empty

namespace Parameters

/-- Whether a single track is asked for, by its bitrate. -/
def forcesBitrate (parameters : Parameters) : Bool :=
  parameters.playback.forceHighestBitrate || parameters.playback.forceLowestBitrate

/-- Whether two parameters steer alike: the same settings, and the same overrides in any order. -/
def same (a b : Parameters) : Bool :=
  a.video = b.video && a.audio = b.audio && a.text = b.text && a.playback = b.playback &&
    a.disabledRenderers = b.disabledRenderers && a.overrides.same b.overrides

/-- What is wrong with parameters: a viewport without area, or else the first bad override. -/
def fault? (parameters : Parameters) : Option ParameterFault :=
  let viewport := parameters.video.viewport
  if viewport.width = 0 ∨ viewport.height = 0 then
    some (.zeroViewport viewport.width viewport.height)
  else parameters.overrides.fault?

/-- Refuse parameters with a fault. -/
def check (parameters : Parameters) : Except Error Unit :=
  match parameters.fault? with
  | none => .ok ()
  | some fault => .error (.invalidParameters fault)

/-- A preferred language in normal form; an empty one is no preference. -/
def preferredLanguage? (language : String) : Option String :=
  let normal := Language.normalize language
  if normal = "" then none else some normal

end Parameters

end TrackSelection
