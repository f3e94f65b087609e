import TrackSelection.Config.Basic
import TrackSelection.Json.Reader

/-!
# Configurations as JSON

A configuration is a record of sections. Reading fills every missing section and field with its
default; only the size of a viewport must be given.
-/

namespace TrackSelection

def ViewportConfig.toJson (config : ViewportConfig) : Json :=
  .record [
    ("width", .nat config.width.toNat),
    ("height", .nat config.height.toNat),
    ("orientation_may_change", .bool config.orientationMayChange)]

def ViewportConfig.ofJson? (value : Json) : Option ViewportConfig := do
  let fields ← value.fields? ["width", "height", "orientation_may_change"]
  return {
    width := ← fields.required? "width" Json.uint32?
    height := ← fields.required? "height" Json.uint32?
    orientationMayChange := ← fields.withDefault? "orientation_may_change" true Json.bool? }

def limitJson (limit : Option UInt32) : Json :=
  .orNull (fun value => .nat value.toNat) limit

def VideoConfig.toJson (config : VideoConfig) : Json :=
  .record [
    ("max_width", limitJson config.maxWidth),
    ("max_height", limitJson config.maxHeight),
    ("max_frame_rate", limitJson config.maxFrameRate),
    ("max_bitrate", limitJson config.maxBitrate),
    ("exceed_constraints_if_necessary", .bool config.exceedConstraints),
    ("allow_mixed_mime_type_adaptiveness", .bool config.allowMixedMimeTypes),
    ("allow_non_seamless_adaptiveness", .bool config.allowNonSeamless),
    ("viewport", .orNull ViewportConfig.toJson config.viewport)]

def VideoConfig.ofJson? (value : Json) : Option VideoConfig := do
  let fields ← value.fields? ["max_width", "max_height", "max_frame_rate", "max_bitrate",
    "exceed_constraints_if_necessary", "allow_mixed_mime_type_adaptiveness",
    "allow_non_seamless_adaptiveness", "viewport"]
  return {
    maxWidth := ← fields.optional? "max_width" Json.uint32?
    maxHeight := ← fields.optional? "max_height" Json.uint32?
    maxFrameRate := ← fields.optional? "max_frame_rate" Json.uint32?
    maxBitrate := ← fields.optional? "max_bitrate" Json.uint32?
    exceedConstraints := ← fields.withDefault? "exceed_constraints_if_necessary" true Json.bool?
    allowMixedMimeTypes := ←
      fields.withDefault? "allow_mixed_mime_type_adaptiveness" false Json.bool?
    allowNonSeamless := ← fields.withDefault? "allow_non_seamless_adaptiveness" true Json.bool?
    viewport := ← fields.optional? "viewport" ViewportConfig.ofJson? }

def AudioConfig.toJson (config : AudioConfig) : Json :=
  .record [
    ("preferred_language", .orNull .text config.preferredLanguage),
    ("max_channel_count", limitJson config.maxChannelCount),
    ("max_bitrate", limitJson config.maxBitrate),
    ("exceed_constraints_if_necessary", .bool config.exceedConstraints),
    ("allow_mixed_mime_type_adaptiveness", .bool config.allowMixedMimeTypes),
    ("allow_mixed_sample_rate_adaptiveness", .bool config.allowMixedSampleRates),
    ("allow_mixed_channel_count_adaptiveness", .bool config.allowMixedChannelCounts)]

def AudioConfig.ofJson? (value : Json) : Option AudioConfig := do
  let fields ← value.fields? ["preferred_language", "max_channel_count", "max_bitrate",
    "exceed_constraints_if_necessary", "allow_mixed_mime_type_adaptiveness",
    "allow_mixed_sample_rate_adaptiveness", "allow_mixed_channel_count_adaptiveness"]
  return {
    preferredLanguage := ← fields.optional? "preferred_language" Json.text?
    maxChannelCount := ← fields.optional? "max_channel_count" Json.uint32?
    maxBitrate := ← fields.optional? "max_bitrate" Json.uint32?
    exceedConstraints := ← fields.withDefault? "exceed_constraints_if_necessary" true Json.bool?
    allowMixedMimeTypes := ←
      fields.withDefault? "allow_mixed_mime_type_adaptiveness" false Json.bool?
    allowMixedSampleRates := ←
      fields.withDefault? "allow_mixed_sample_rate_adaptiveness" false Json.bool?
    allowMixedChannelCounts := ←
      fields.withDefault? "allow_mixed_channel_count_adaptiveness" false Json.bool? }

def TextConfig.toJson (config : TextConfig) : Json :=
  .record [
    ("preferred_language", .orNull .text config.preferredLanguage),
    ("preferred_role_flags", .text config.preferredRoleFlags.render),
    ("select_undetermined_language", .bool config.selectUndeterminedLanguage),
    ("disabled_selection_flags", .text config.disabledSelectionFlags.render)]

def TextConfig.ofJson? (value : Json) : Option TextConfig := do
  let fields ← value.fields? ["preferred_language", "preferred_role_flags",
    "select_undetermined_language", "disabled_selection_flags"]
  return {
    preferredLanguage := ← fields.optional? "preferred_language" Json.text?
    preferredRoleFlags := ← fields.withDefault? "preferred_role_flags" {}
      fun v => v.text?.bind RoleFlags.parse?
    selectUndeterminedLanguage := ←
      fields.withDefault? "select_undetermined_language" false Json.bool?
    disabledSelectionFlags := ← fields.withDefault? "disabled_selection_flags" {}
      fun v => v.text?.bind SelectionFlags.parse? }

def PlaybackConfig.toJson (config : PlaybackConfig) : Json :=
  .record [
    ("force_lowest_bitrate", .bool config.forceLowestBitrate),
    ("force_highest_supported_bitrate", .bool config.forceHighestSupportedBitrate),
    ("exceed_renderer_capabilities_if_necessary", .bool config.exceedRendererCapabilities),
    ("allow_multiple_adaptive_selections", .bool config.allowMultipleAdaptiveSelections),
    ("tunneling_audio_session_id", limitJson config.tunnelingAudioSessionId)]

def PlaybackConfig.ofJson? (value : Json) : Option PlaybackConfig := do
  let fields ← value.fields? ["force_lowest_bitrate", "force_highest_supported_bitrate",
    "exceed_renderer_capabilities_if_necessary", "allow_multiple_adaptive_selections",
    "tunneling_audio_session_id"]
  return {
    forceLowestBitrate := ← fields.withDefault? "force_lowest_bitrate" false Json.bool?
    forceHighestSupportedBitrate := ←
      fields.withDefault? "force_highest_supported_bitrate" false Json.bool?
    exceedRendererCapabilities := ←
      fields.withDefault? "exceed_renderer_capabilities_if_necessary" true Json.bool?
    allowMultipleAdaptiveSelections := ←
      fields.withDefault? "allow_multiple_adaptive_selections" false Json.bool?
    tunnelingAudioSessionId := ← fields.optional? "tunneling_audio_session_id" Json.uint32? }

namespace Config

def toJson (config : Config) : Json :=
  .record [
    ("video", config.video.toJson),
    ("audio", config.audio.toJson),
    ("text", config.text.toJson),
    ("playback", config.playback.toJson),
    ("system_languages", .list .text config.systemLanguages),
    ("disabled_renderers", .list (fun i => .nat i.toNat) config.disabledRenderers)]

def ofJson? (value : Json) : Option Config := do
  let fields ← value.fields? ["video", "audio", "text", "playback", "system_languages",
    "disabled_renderers"]
  return {
    video := ← fields.withDefault? "video" {} VideoConfig.ofJson?
    audio := ← fields.withDefault? "audio" {} AudioConfig.ofJson?
    text := ← fields.withDefault? "text" {} TextConfig.ofJson?
    playback := ← fields.withDefault? "playback" {} PlaybackConfig.ofJson?
    systemLanguages := ← fields.withDefault? "system_languages" [] (Json.list? Json.text?)
    disabledRenderers := ← fields.withDefault? "disabled_renderers" [] (Json.list? Json.uint64?) }

def parse (text : String) : Except Error Config :=
  match (Json.read? text).bind ofJson? with
  | some config => .ok config
  | none => .error (.malformed .config)

end Config

end TrackSelection
