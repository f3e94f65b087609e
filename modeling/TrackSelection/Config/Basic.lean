import TrackSelection.Parameters.Change

/-!
# Configurations

A configuration is what an application starts with: selection preferences by kind of track, the
languages of the system and the renderers that are switched off. Every part of it has a default, and
the default configuration stands for the default parameters. Suspicious settings give warnings;
they are not errors.
-/

namespace TrackSelection

/-- The surface that video is shown on. -/
structure ViewportConfig where
  width : UInt32
  height : UInt32
  orientationMayChange : Bool := true
deriving DecidableEq, Repr

/-- Limits and switches for video; a missing limit is no limit. -/
structure VideoConfig where
  maxWidth : Option UInt32 := none
  maxHeight : Option UInt32 := none
  maxFrameRate : Option UInt32 := none
  maxBitrate : Option UInt32 := none
  exceedConstraints : Bool := true
  allowMixedMimeTypes : Bool := false
  allowNonSeamless : Bool := true
  viewport : Option ViewportConfig := none
deriving DecidableEq, Repr

structure AudioConfig where
  preferredLanguage : Option String := none
  maxChannelCount : Option UInt32 := none
  maxBitrate : Option UInt32 := none
  exceedConstraints : Bool := true
  allowMixedMimeTypes : Bool := false
  allowMixedSampleRates : Bool := false
  allowMixedChannelCounts : Bool := false
deriving DecidableEq, Repr

structure TextConfig where
  preferredLanguage : Option String := none
  preferredRoleFlags : RoleFlags := {}
  selectUndeterminedLanguage : Bool := false
  disabledSelectionFlags : SelectionFlags := {}
deriving DecidableEq, Repr

/-- Switches for all kinds of tracks. -/
structure PlaybackConfig where
  forceLowestBitrate : Bool := false
  forceHighestSupportedBitrate : Bool := false
  exceedRendererCapabilities : Bool := true
  allowMultipleAdaptiveSelections : Bool := false
  tunnelingAudioSessionId : Option UInt32 := none
deriving DecidableEq, Repr

/-- What an application starts with. -/
structure Config where
  video : VideoConfig := {}
  audio : AudioConfig := {}
  text : TextConfig := {}
  playback : PlaybackConfig := {}
  /-- The languages of the system, most preferred first. -/
  systemLanguages : List String := []
  /-- Renderers that are never enabled. -/
  disabledRenderers : List UInt64 := []
deriving DecidableEq, Repr

namespace Config

/-- Whether a text is empty but for blanks. -/
def isBlankText (text : String) : Bool :=
  (Text.trimmed text.toList).isEmpty

def warnings (config : Config) : List String :=
  let warn (condition : Bool) (text : String) := if condition then [text] else []
  let isEmpty (language : Option String) := language.any isBlankText
  warn (config.playback.forceLowestBitrate && config.playback.forceHighestSupportedBitrate)
      "playback.force_lowest_bitrate and force_highest_supported_bitrate are both set; the lowest bitrate wins" ++
    config.video.viewport.elim [] (fun viewport =>
      warn (viewport.width = 0 || viewport.height = 0)
        s!"video.viewport {viewport.width}x{viewport.height} has a zero dimension") ++
    warn (config.video.maxWidth = some 0 || config.video.maxHeight = some 0)
      "video max size of 0 excludes every video track" ++
    warn (config.audio.maxChannelCount = some 0)
      "audio.max_channel_count of 0 excludes every audio track" ++
    warn (config.playback.tunnelingAudioSessionId = some 0)
      "playback.tunneling_audio_session_id 0 is not a valid session" ++
    warn (isEmpty config.audio.preferredLanguage) "audio.preferred_language is empty" ++
    warn (isEmpty config.text.preferredLanguage) "text.preferred_language is empty" ++
    config.systemLanguages.zipIdx.flatMap fun (language, i) =>
      warn (isBlankText language) s!"system_languages[{i}] is empty"

/-- The parameters that a configuration stands for. -/
def parameters (config : Config) : Parameters where
  video :=
    { maxWidth := config.video.maxWidth.getD unlimited
      maxHeight := config.video.maxHeight.getD unlimited
      maxFrameRate := config.video.maxFrameRate.getD unlimited
      maxBitrate := config.video.maxBitrate.getD unlimited
      mayExceedLimits := config.video.exceedConstraints
      mayMixMimeTypes := config.video.allowMixedMimeTypes
      mayBeNonSeamless := config.video.allowNonSeamless
      viewport := config.video.viewport.elim {} fun viewport =>
        ⟨viewport.width, viewport.height, viewport.orientationMayChange⟩ }
  audio :=
    { language := config.audio.preferredLanguage.bind Parameters.preferredLanguage?
      maxChannelCount := config.audio.maxChannelCount.getD unlimited
      maxBitrate := config.audio.maxBitrate.getD unlimited
      mayExceedLimits := config.audio.exceedConstraints
      mayMixMimeTypes := config.audio.allowMixedMimeTypes
      mayMixSampleRates := config.audio.allowMixedSampleRates
      mayMixChannelCounts := config.audio.allowMixedChannelCounts }
  text :=
    { language := config.text.preferredLanguage.bind Parameters.preferredLanguage?
      roles := config.text.preferredRoleFlags
      selectUndetermined := config.text.selectUndeterminedLanguage
      disabledFlags := config.text.disabledSelectionFlags }
  playback :=
    { forceLowestBitrate := config.playback.forceLowestBitrate
      forceHighestBitrate := config.playback.forceHighestSupportedBitrate
      mayExceedCapabilities := config.playback.exceedRendererCapabilities
      multipleAdaptive := config.playback.allowMultipleAdaptiveSelections
      tunnelingSession := config.playback.tunnelingAudioSessionId }
  disabledRenderers := (config.disabledRenderers.map UInt64.toNat).foldl IndexSet.insert .empty

end Config

end TrackSelection
