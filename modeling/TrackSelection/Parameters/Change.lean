import TrackSelection.Parameters.Basic

/-!
# Changing parameters

Parameters are built by changes applied one after the other.
-/

namespace TrackSelection

/-- One change of selection parameters. -/
inductive Change where
  | maxVideoWidth (width : UInt32)
  | maxVideoHeight (height : UInt32)
  | maxVideoSize (width height : UInt32)
  /-- Stay below high definition. -/
  | standardDefinition
  | anyVideoSize
  | maxVideoFrameRate (rate : UInt32)
  | maxVideoBitrate (bitrate : UInt32)
  | videoMayExceedLimits (value : Bool)
  | videoMayMixMimeTypes (value : Bool)
  | videoMayBeNonSeamless (value : Bool)
  | viewport (width height : UInt32) (mayRotate : Bool)
  | anyViewport
  | audioLanguage (language : String)
  | anyAudioLanguage
  | maxAudioChannelCount (count : UInt32)
  | maxAudioBitrate (bitrate : UInt32)
  | audioMayExceedLimits (value : Bool)
  | audioMayMixMimeTypes (value : Bool)
  | audioMayMixSampleRates (value : Bool)
  | audioMayMixChannelCounts (value : Bool)
  | textLanguage (language : String)
  | anyTextLanguage
  | textRoles (roles : RoleFlags)
  | selectUndeterminedText (value : Bool)
  | disabledTextFlags (flags : SelectionFlags)
  | forceLowestBitrate (value : Bool)
  | forceHighestBitrate (value : Bool)
  | mayExceedCapabilities (value : Bool)
  | multipleAdaptive (value : Bool)
  | tunnelingSession (session : Option UInt32)
  | rendererDisabled (renderer : Nat) (value : Bool)
  | setOverride (renderer : Nat) (groups : List TrackGroup) (override : Option Override)
  | clearOverride (renderer : Nat) (groups : List TrackGroup)
  | clearOverridesOf (renderer : Nat)
  | clearOverrides

namespace Parameters

def mapVideo (p : Parameters) (f : VideoParameters → VideoParameters) : Parameters :=
  { p with video := f p.video }

def mapAudio (p : Parameters) (f : AudioParameters → AudioParameters) : Parameters :=
  { p with audio := f p.audio }

def mapText (p : Parameters) (f : TextParameters → TextParameters) : Parameters :=
  { p with text := f p.text }

def mapPlayback (p : Parameters) (f : PlaybackParameters → PlaybackParameters) : Parameters :=
  { p with playback := f p.playback }

def limitVideoSize (p : Parameters) (width height : UInt32) : Parameters :=
  p.mapVideo fun v => { v with maxWidth := width, maxHeight := height }

def apply (p : Parameters) : Change → Parameters
  | .maxVideoWidth width => p.mapVideo fun v => { v with maxWidth := width }
  | .maxVideoHeight height => p.mapVideo fun v => { v with maxHeight := height }
  | .maxVideoSize width height => p.limitVideoSize width height
  | .standardDefinition => p.limitVideoSize 1279 719
  | .anyVideoSize => p.limitVideoSize unlimited unlimited
  | .maxVideoFrameRate rate => p.mapVideo fun v => { v with maxFrameRate := rate }
  | .maxVideoBitrate bitrate => p.mapVideo fun v => { v with maxBitrate := bitrate }
  | .videoMayExceedLimits value => p.mapVideo fun v => { v with mayExceedLimits := value }
  | .videoMayMixMimeTypes value => p.mapVideo fun v => { v with mayMixMimeTypes := value }
  | .videoMayBeNonSeamless value => p.mapVideo fun v => { v with mayBeNonSeamless := value }
  | .viewport width height mayRotate =>
    p.mapVideo fun v => { v with viewport := ⟨width, height, mayRotate⟩ }
  | .anyViewport => p.mapVideo fun v => { v with viewport := {} }
  | .audioLanguage language =>
    p.mapAudio fun a => { a with language := preferredLanguage? language }
  | .anyAudioLanguage => p.mapAudio fun a => { a with language := none }
  | .maxAudioChannelCount count => p.mapAudio fun a => { a with maxChannelCount := count }
  | .maxAudioBitrate bitrate => p.mapAudio fun a => { a with maxBitrate := bitrate }
  | .audioMayExceedLimits value => p.mapAudio fun a => { a with mayExceedLimits := value }
  | .audioMayMixMimeTypes value => p.mapAudio fun a => { a with mayMixMimeTypes := value }
  | .audioMayMixSampleRates value => p.mapAudio fun a => { a with mayMixSampleRates := value }
  | .audioMayMixChannelCounts value => p.mapAudio fun a => { a with mayMixChannelCounts := value }
  | .textLanguage language => p.mapText fun t => { t with language := preferredLanguage? language }
  | .anyTextLanguage => p.mapText fun t => { t with language := none }
  | .textRoles roles => p.mapText fun t => { t with roles := roles }
  | .selectUndeterminedText value => p.mapText fun t => { t with selectUndetermined := value }
  | .disabledTextFlags flags => p.mapText fun t => { t with disabledFlags := flags }
  | .forceLowestBitrate value => p.mapPlayback fun b => { b with forceLowestBitrate := value }
  | .forceHighestBitrate value => p.mapPlayback fun b => { b with forceHighestBitrate := value }
  | .mayExceedCapabilities value => p.mapPlayback fun b => { b with mayExceedCapabilities := value }
  | .multipleAdaptive value => p.mapPlayback fun b => { b with multipleAdaptive := value }
  | .tunnelingSession session => p.mapPlayback fun b => { b with tunnelingSession := session }
  | .rendererDisabled renderer value =>
    let disabled := p.disabledRenderers
    let changed := if value then disabled.insert renderer else disabled.erase renderer
    { p with disabledRenderers := changed }
  | .setOverride renderer groups override =>
    { p with overrides := p.overrides.insert (renderer, groups) override }
  | .clearOverride renderer groups => { p with overrides := p.overrides.erase (renderer, groups) }
  | .clearOverridesOf renderer => { p with overrides := p.overrides.eraseRenderer renderer }
  | .clearOverrides => { p with overrides := .empty }

end Parameters

end TrackSelection
