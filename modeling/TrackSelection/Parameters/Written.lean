import TrackSelection.Parameters.Change

/-!
# Parameters and changes in writing

Settings and changes have names. A change is a name with arguments; the settings of parameters are
listed by name, but for the overrides, of which only the number is given.
-/

namespace TrackSelection

/-- The settings of parameters, one by one. -/
def Parameters.settings (p : Parameters) : List (String × Json) :=
  let number (value : UInt32) : Json := .nat value.toNat
  [("max_video_width", number p.video.maxWidth),
   ("max_video_height", number p.video.maxHeight),
   ("max_video_frame_rate", number p.video.maxFrameRate),
   ("max_video_bitrate", number p.video.maxBitrate),
   ("exceed_video_constraints_if_necessary", .bool p.video.mayExceedLimits),
   ("allow_video_mixed_mime_type_adaptiveness", .bool p.video.mayMixMimeTypes),
   ("allow_video_non_seamless_adaptiveness", .bool p.video.mayBeNonSeamless),
   ("viewport_width", number p.video.viewport.width),
   ("viewport_height", number p.video.viewport.height),
   ("viewport_orientation_may_change", .bool p.video.viewport.mayRotate),
   ("has_viewport", .bool p.video.viewport.isSet),
   ("preferred_audio_language", .orNull .text p.audio.language),
   ("max_audio_channel_count", number p.audio.maxChannelCount),
   ("max_audio_bitrate", number p.audio.maxBitrate),
   ("exceed_audio_constraints_if_necessary", .bool p.audio.mayExceedLimits),
   ("allow_audio_mixed_mime_type_adaptiveness", .bool p.audio.mayMixMimeTypes),
   ("allow_audio_mixed_sample_rate_adaptiveness", .bool p.audio.mayMixSampleRates),
   ("allow_audio_mixed_channel_count_adaptiveness", .bool p.audio.mayMixChannelCounts),
   ("preferred_text_language", .orNull .text p.text.language),
   ("preferred_text_role_flags", number p.text.roles.bits),
   ("select_undetermined_text_language", .bool p.text.selectUndetermined),
   ("disabled_text_track_selection_flags", number p.text.disabledFlags.bits),
   ("force_lowest_bitrate", .bool p.playback.forceLowestBitrate),
   ("force_highest_supported_bitrate", .bool p.playback.forceHighestBitrate),
   ("exceed_renderer_capabilities_if_necessary", .bool p.playback.mayExceedCapabilities),
   ("allow_multiple_adaptive_selections", .bool p.playback.multipleAdaptive),
   ("tunneling_audio_session_id", .orNull number p.playback.tunnelingSession),
   ("disabled_renderers", .list .nat p.disabledRenderers.toList),
   ("override_count", .nat p.overrides.size)]

/-- The change that a name with arguments stands for. Groups and overrides are written as the caller
reads them. -/
def Change.ofNamed? (groups? : Json → Option (List TrackGroup)) (override? : Json → Option Override)
    (name : String) (arguments : List Json) : Option Change := do
  let argument (i : Nat) : Json := (arguments[i]?).getD .null
  let number (i : Nat) : Option UInt32 := (argument i).uint32?
  let switch (i : Nat) : Option Bool := (argument i).bool?
  let words (i : Nat) : Option String := (argument i).text?
  let renderer : Option Nat := (argument 0).index?
  match name with
  | "max_video_width" => return .maxVideoWidth (← number 0)
  | "max_video_height" => return .maxVideoHeight (← number 0)
  | "set_max_video_size" => return .maxVideoSize (← number 0) (← number 1)
  | "set_max_video_size_sd" => return .standardDefinition
  | "clear_video_size_constraints" => return .anyVideoSize
  | "max_video_frame_rate" => return .maxVideoFrameRate (← number 0)
  | "max_video_bitrate" => return .maxVideoBitrate (← number 0)
  | "exceed_video_constraints_if_necessary" => return .videoMayExceedLimits (← switch 0)
  | "allow_video_mixed_mime_type_adaptiveness" => return .videoMayMixMimeTypes (← switch 0)
  | "allow_video_non_seamless_adaptiveness" => return .videoMayBeNonSeamless (← switch 0)
  | "set_viewport_size" => return .viewport (← number 0) (← number 1) (← switch 2)
  | "clear_viewport_size_constraints" => return .anyViewport
  | "preferred_audio_language" => return .audioLanguage (← words 0)
  | "clear_preferred_audio_language" => return .anyAudioLanguage
  | "max_audio_channel_count" => return .maxAudioChannelCount (← number 0)
  | "max_audio_bitrate" => return .maxAudioBitrate (← number 0)
  | "exceed_audio_constraints_if_necessary" => return .audioMayExceedLimits (← switch 0)
  | "allow_audio_mixed_mime_type_adaptiveness" => return .audioMayMixMimeTypes (← switch 0)
  | "allow_audio_mixed_sample_rate_adaptiveness" => return .audioMayMixSampleRates (← switch 0)
  | "allow_audio_mixed_channel_count_adaptiveness" => return .audioMayMixChannelCounts (← switch 0)
  | "preferred_text_language" => return .textLanguage (← words 0)
  | "clear_preferred_text_language" => return .anyTextLanguage
  | "preferred_text_role_flags" => return .textRoles (← RoleFlags.parse? (← words 0))
  | "select_undetermined_text_language" => return .selectUndeterminedText (← switch 0)
  | "disabled_text_track_selection_flags" =>
    return .disabledTextFlags (← SelectionFlags.parse? (← words 0))
  | "force_lowest_bitrate" => return .forceLowestBitrate (← switch 0)
  | "force_highest_supported_bitrate" => return .forceHighestBitrate (← switch 0)
  | "exceed_renderer_capabilities_if_necessary" => return .mayExceedCapabilities (← switch 0)
  | "allow_multiple_adaptive_selections" => return .multipleAdaptive (← switch 0)
  | "tunneling_audio_session_id" =>
    return .tunnelingSession (← (argument 0).optional? Json.uint32?)
  | "set_renderer_disabled" => return .rendererDisabled (← renderer) (← switch 1)
  | "set_selection_override" =>
    return .setOverride (← renderer) (← groups? (argument 1)) (← (argument 2).optional? override?)
  | "clear_selection_override" =>
    return .clearOverride (← renderer) (← groups? (argument 1))
  | "clear_selection_overrides_for_renderer" => return .clearOverridesOf (← renderer)
  | "clear_selection_overrides" => return .clearOverrides
  | _ => none

end TrackSelection
