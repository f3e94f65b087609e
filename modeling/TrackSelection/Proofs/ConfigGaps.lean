import TrackSelection.Config.Json
import TrackSelection.Proofs.FlagTexts

/-!
# Reading configurations with gaps

A configuration is written as nested records. Some of their members may be removed before it is read
again. What is removed is filled with its default, and all else is read back, down to flags that
have no name. Only the size of a viewport has no default: a viewport that lost part of its size
cannot be read.
-/

namespace TrackSelection

namespace Json

/-! ## Removing members -/

/-- Which members are removed, by the keys that lead to them from the outside. -/
abbrev Gaps := List String → Bool

/-- The gaps in the value of a member. -/
def Gaps.inside (gaps : Gaps) (name : String) : Gaps :=
  fun path => gaps (name :: path)

/-- The value of a member, or its default where it is removed. -/
def Gaps.fill {α : Type} (gaps : Gaps) (name : String) (default value : α) : α :=
  if gaps [name] then default else value

mutual

/-- A value without the removed members. -/
def without (gaps : Gaps) : Json → Json
  | .object members => .object (membersWithout gaps members)
  | value => value

/-- The members of an object that are not removed, themselves without the removed members. -/
def membersWithout (gaps : Gaps) : List (Option String × Json) → List (Option String × Json)
  | [] => []
  | (none, value) :: rest => (none, value) :: membersWithout gaps rest
  | (some name, value) :: rest =>
    if gaps [name] then membersWithout gaps rest
    else (some name, without (gaps.inside name) value) :: membersWithout gaps rest

end

mutual

theorem without_nothing : ∀ value : Json, value.without (fun _ => false) = value
  | .object members => by rw [without, membersWithout_nothing members]
  | .null | .bool _ | .number _ | .string _ | .array _ => rfl

theorem membersWithout_nothing :
    ∀ members : List (Option String × Json), membersWithout (fun _ => false) members = members
  | [] => rfl
  | (none, value) :: rest => by rw [membersWithout, membersWithout_nothing rest]
  | (some name, value) :: rest => by
      have inside : Gaps.inside (fun _ => false) name = fun _ => false := rfl
      rw [membersWithout, if_neg Bool.false_ne_true, inside, without_nothing value,
        membersWithout_nothing rest]

end

def Fields.without (gaps : Gaps) (fields : Fields) : Fields :=
  fields.filterMap fun field =>
    if gaps [field.1] then none else some (field.1, Json.without (gaps.inside field.1) field.2)

theorem Fields.without_cons (gaps : Gaps) (field : String × Json) (rest : Fields) :
    Fields.without gaps (field :: rest) =
      if gaps [field.1] then rest.without gaps
      else (field.1, Json.without (gaps.inside field.1) field.2) :: rest.without gaps := by
  rw [Fields.without, List.filterMap_cons]
  split <;> simp_all [Fields.without]

theorem without_record (gaps : Gaps) (fields : Fields) :
    (record fields).without gaps = record (fields.without gaps) := by
  have members : ∀ fields : Fields,
      membersWithout gaps (fields.map fun field => (some field.1, field.2)) =
        (fields.without gaps).map fun field => (some field.1, field.2) := by
    intro fields
    induction fields with
    | nil => rfl
    | cons field rest ih =>
        rw [List.map_cons, membersWithout, ih, Fields.without_cons]
        split <;> rfl
  rw [record, without]
  exact congrArg object (members fields)

theorem without_nat (gaps : Gaps) (value : Nat) : (nat value).without gaps = nat value := rfl

/-! ## Reading records -/

/-- The members of a record are its fields, if no two have the same name. -/
theorem fields?_record {names : List String} {fields : Fields}
    (known : ∀ field ∈ fields, field.1 ∈ names) (nodup : (fields.map Prod.fst).Nodup) :
    (record fields).fields? names = some fields := by
  have named : (fields.map fun field => (some field.1, field.2)).mapM
      (fun member => member.1.map fun name => (name, member.2)) = some fields := by
    have each : fields.mapM (fun field => some (id field)) = some (fields.map id) := List.mapM_pure
    rw [List.map_id] at each
    exact List.mapM_map.trans each
  have kept : (fields.filter fun field => names.contains field.1) = fields :=
    List.filter_eq_self.mpr fun field mem => List.contains_iff_mem.mpr (known field mem)
  show (do
    let named ← (fields.map fun field => (some field.1, field.2)).mapM fun member =>
      member.1.map fun name => (name, member.2)
    let known := named.filter fun field => names.contains field.1
    if (known.map Prod.fst).Nodup then some known else none) = some fields
  rw [named]
  show (if ((fields.filter _).map Prod.fst).Nodup then some (fields.filter _) else none) = _
  rw [kept, if_pos nodup]

theorem map_fst_without (gaps : Gaps) (fields : Fields) :
    (fields.without gaps).map Prod.fst = (fields.map Prod.fst).filter fun name => !gaps [name] := by
  induction fields with
  | nil => rfl
  | cons field rest ih =>
      rw [Fields.without_cons, List.map_cons, List.filter_cons]
      by_cases gap : gaps [field.1] = true <;> simp [gap, ih]

theorem fields?_without {names : List String} {fields : Fields} (gaps : Gaps)
    (same : fields.map Prod.fst = names) (nodup : names.Nodup) :
    ((record fields).without gaps).fields? names = some (fields.without gaps) := by
  have kept := map_fst_without gaps fields
  rw [same] at kept
  rw [without_record]
  refine fields?_record (fun field mem => ?_) (kept ▸ nodup.filter _)
  have present : field.1 ∈ (fields.without gaps).map Prod.fst := List.mem_map_of_mem mem
  rw [kept] at present
  exact (List.mem_filter.mp present).1

theorem lookup_without (gaps : Gaps) (fields : Fields) (name : String) :
    (fields.without gaps).lookup name =
      if gaps [name] then none else (fields.lookup name).map (Json.without (gaps.inside name)) := by
  induction fields with
  | nil => simp [Fields.without]
  | cons field rest ih =>
      obtain ⟨other, value⟩ := field
      rw [Fields.without_cons]
      by_cases this : name = other
      · subst this
        split
        next gap => rw [ih, if_pos gap]
        next => rw [List.lookup_cons_self, List.lookup_cons_self, Option.map_some]
      · have differ : (name == other) = false := beq_false_of_ne this
        have skip : ∀ value (fields : Fields),
            List.lookup name ((other, value) :: fields) = fields.lookup name := by
          intro value fields
          rw [List.lookup_cons, differ]
        split
        next => rw [ih, skip]
        next => rw [skip, ih, skip]

/-! ## Reading fields -/

theorem natBelow?_nat {bound value : Nat} (below : value < bound) :
    natBelow? bound (nat value) = some value := by
  have inside : (0 : Int) ≤ value ∧ (value : Int) < bound :=
    ⟨Int.natCast_nonneg value, Int.ofNat_lt.mpr below⟩
  rw [nat, int, natBelow?, if_pos inside, Int.toNat_natCast]

theorem uint32?_nat (value : UInt32) : uint32? (nat value.toNat) = some value := by
  rw [uint32?, natBelow?_nat value.toNat_lt, Option.map_some, UInt32.ofNat_toNat]

theorem uint64?_nat (value : UInt64) : uint64? (nat value.toNat) = some value := by
  rw [uint64?, natBelow?_nat value.toNat_lt, Option.map_some, UInt64.ofNat_toNat]

theorem text?_text (value : String) : text? (text value) = some value := rfl

section Fields

variable {α : Type} {gaps : Gaps} {fields : Fields} {name : String} {value : Json}

theorem withDefault?_without (written : fields.lookup name = some value) (default : α)
    (decode : Json → Option α) :
    (fields.without gaps).withDefault? name default decode =
      if gaps [name] then some default else decode (value.without (gaps.inside name)) := by
  rw [Fields.withDefault?, lookup_without, written]
  cases gaps [name] <;> rfl

theorem required?_without (written : fields.lookup name = some value) (decode : Json → Option α) :
    (fields.without gaps).required? name decode =
      if gaps [name] then none else decode (value.without (gaps.inside name)) := by
  rw [Fields.required?, lookup_without, written]
  cases gaps [name] <;> rfl

/-- A field that can be read is read back, or filled with its default. -/
theorem withDefault?_eq_fill (written : fields.lookup name = some value) {decode : Json → Option α}
    {field : α} (read : decode (value.without (gaps.inside name)) = some field) (default : α) :
    (fields.without gaps).withDefault? name default decode =
      some (gaps.fill name default field) := by
  rw [withDefault?_without written, read, Gaps.fill]
  cases gaps [name] <;> rfl

/-- A switch is read back or filled. -/
theorem bool?_eq_fill {switch : Bool} (written : fields.lookup name = some (bool switch))
    (default : Bool) :
    (fields.without gaps).withDefault? name default bool? =
      some (gaps.fill name default switch) := by
  refine withDefault?_eq_fill written ?_ default
  rfl

/-- A limit is read back or filled. -/
theorem limit?_eq_fill {limit : Option UInt32}
    (written : fields.lookup name = some (limitJson limit)) :
    (fields.without gaps).optional? name uint32? = some (gaps.fill name none limit) := by
  refine withDefault?_eq_fill written ?_ none
  cases limit with
  | none => rfl
  | some value =>
      show (uint32? (nat value.toNat)).map some = some (some value)
      rw [uint32?_nat, Option.map_some]

/-- A language tag is read back or filled. -/
theorem tag?_eq_fill {tag : Option String} (written : fields.lookup name = some (orNull text tag)) :
    (fields.without gaps).optional? name text? = some (gaps.fill name none tag) := by
  refine withDefault?_eq_fill written ?_ none
  cases tag with
  | none => rfl
  | some tag => rfl

/-- What is read back from its text is read back or filled as a field. -/
theorem parse?_eq_fill {content : String} (written : fields.lookup name = some (text content))
    {parse? : String → Option α} {field : α} (read : parse? content = some field) (default : α) :
    (fields.without gaps).withDefault? name default (fun value => value.text?.bind parse?) =
      some (gaps.fill name default field) := by
  refine withDefault?_eq_fill written ?_ default
  exact read

/-- A list is read back or filled. -/
theorem list?_eq_fill {encode : α → Json} {items : List α}
    (written : fields.lookup name = some (list encode items)) {decode : Json → Option α}
    (reads : ∀ item, decode (encode item) = some item) (default : List α) :
    (fields.without gaps).withDefault? name default (list? decode) =
      some (gaps.fill name default items) := by
  refine withDefault?_eq_fill written ?_ default
  have each : (items.map encode).mapM decode = some (items.map id) :=
    List.mapM_map.trans (mapM_eq_some_map fun item _ => reads item)
  rw [List.map_id] at each
  exact each

end Fields

end Json

open Json

/-! ## Filling gaps -/

/-- A viewport whose orientation may change if nothing is said about it. -/
def ViewportConfig.filled (gaps : Gaps) (config : ViewportConfig) : ViewportConfig where
  width := config.width
  height := config.height
  orientationMayChange := gaps.fill "orientation_may_change" true config.orientationMayChange

def VideoConfig.filled (gaps : Gaps) (config : VideoConfig) : VideoConfig where
  maxWidth := gaps.fill "max_width" ({} : VideoConfig).maxWidth config.maxWidth
  maxHeight := gaps.fill "max_height" ({} : VideoConfig).maxHeight config.maxHeight
  maxFrameRate := gaps.fill "max_frame_rate" ({} : VideoConfig).maxFrameRate config.maxFrameRate
  maxBitrate := gaps.fill "max_bitrate" ({} : VideoConfig).maxBitrate config.maxBitrate
  exceedConstraints := gaps.fill "exceed_constraints_if_necessary"
    ({} : VideoConfig).exceedConstraints config.exceedConstraints
  allowMixedMimeTypes := gaps.fill "allow_mixed_mime_type_adaptiveness"
    ({} : VideoConfig).allowMixedMimeTypes config.allowMixedMimeTypes
  allowNonSeamless := gaps.fill "allow_non_seamless_adaptiveness"
    ({} : VideoConfig).allowNonSeamless config.allowNonSeamless
  viewport := gaps.fill "viewport" ({} : VideoConfig).viewport
    (config.viewport.map (ViewportConfig.filled (gaps.inside "viewport")))

def AudioConfig.filled (gaps : Gaps) (config : AudioConfig) : AudioConfig where
  preferredLanguage := gaps.fill "preferred_language"
    ({} : AudioConfig).preferredLanguage config.preferredLanguage
  maxChannelCount := gaps.fill "max_channel_count"
    ({} : AudioConfig).maxChannelCount config.maxChannelCount
  maxBitrate := gaps.fill "max_bitrate" ({} : AudioConfig).maxBitrate config.maxBitrate
  exceedConstraints := gaps.fill "exceed_constraints_if_necessary"
    ({} : AudioConfig).exceedConstraints config.exceedConstraints
  allowMixedMimeTypes := gaps.fill "allow_mixed_mime_type_adaptiveness"
    ({} : AudioConfig).allowMixedMimeTypes config.allowMixedMimeTypes
  allowMixedSampleRates := gaps.fill "allow_mixed_sample_rate_adaptiveness"
    ({} : AudioConfig).allowMixedSampleRates config.allowMixedSampleRates
  allowMixedChannelCounts := gaps.fill "allow_mixed_channel_count_adaptiveness"
    ({} : AudioConfig).allowMixedChannelCounts config.allowMixedChannelCounts

def TextConfig.filled (gaps : Gaps) (config : TextConfig) : TextConfig where
  preferredLanguage := gaps.fill "preferred_language"
    ({} : TextConfig).preferredLanguage config.preferredLanguage
  preferredRoleFlags := gaps.fill "preferred_role_flags"
    ({} : TextConfig).preferredRoleFlags config.preferredRoleFlags
  selectUndeterminedLanguage := gaps.fill "select_undetermined_language"
    ({} : TextConfig).selectUndeterminedLanguage config.selectUndeterminedLanguage
  disabledSelectionFlags := gaps.fill "disabled_selection_flags"
    ({} : TextConfig).disabledSelectionFlags config.disabledSelectionFlags

def PlaybackConfig.filled (gaps : Gaps) (config : PlaybackConfig) : PlaybackConfig where
  forceLowestBitrate := gaps.fill "force_lowest_bitrate"
    ({} : PlaybackConfig).forceLowestBitrate config.forceLowestBitrate
  forceHighestSupportedBitrate := gaps.fill "force_highest_supported_bitrate"
    ({} : PlaybackConfig).forceHighestSupportedBitrate config.forceHighestSupportedBitrate
  exceedRendererCapabilities := gaps.fill "exceed_renderer_capabilities_if_necessary"
    ({} : PlaybackConfig).exceedRendererCapabilities config.exceedRendererCapabilities
  allowMultipleAdaptiveSelections := gaps.fill "allow_multiple_adaptive_selections"
    ({} : PlaybackConfig).allowMultipleAdaptiveSelections config.allowMultipleAdaptiveSelections
  tunnelingAudioSessionId := gaps.fill "tunneling_audio_session_id"
    ({} : PlaybackConfig).tunnelingAudioSessionId config.tunnelingAudioSessionId

def Config.filled (gaps : Gaps) (config : Config) : Config where
  video := gaps.fill "video" ({} : Config).video (config.video.filled (gaps.inside "video"))
  audio := gaps.fill "audio" ({} : Config).audio (config.audio.filled (gaps.inside "audio"))
  text := gaps.fill "text" ({} : Config).text (config.text.filled (gaps.inside "text"))
  playback := gaps.fill "playback" ({} : Config).playback
    (config.playback.filled (gaps.inside "playback"))
  systemLanguages := gaps.fill "system_languages" ({} : Config).systemLanguages
    config.systemLanguages
  disabledRenderers := gaps.fill "disabled_renderers" ({} : Config).disabledRenderers
    config.disabledRenderers

/-- A step of reading that succeeds. -/
theorem bind_eq_of_eq_some {α β : Type} {step : Option α} {next : α → Option β} {a : α}
    {result : Option β} (read : step = some a) (rest : next a = result) :
    (step >>= next) = result := by
  rw [read]
  exact rest

theorem PlaybackConfig.ofJson?_without (gaps : Gaps) (config : PlaybackConfig) :
    ofJson? (config.toJson.without gaps) = some (config.filled gaps) := by
  rw [toJson, ofJson?]
  refine bind_eq_of_eq_some (fields?_without gaps rfl (by decide)) ?_
  repeat refine bind_eq_of_eq_some (bool?_eq_fill rfl _) ?_
  exact bind_eq_of_eq_some (limit?_eq_fill rfl) rfl

theorem TextConfig.ofJson?_without (gaps : Gaps) (config : TextConfig) :
    ofJson? (config.toJson.without gaps) = some (config.filled gaps) := by
  rw [toJson, ofJson?]
  refine bind_eq_of_eq_some (fields?_without gaps rfl (by decide)) ?_
  refine bind_eq_of_eq_some (tag?_eq_fill rfl) ?_
  refine bind_eq_of_eq_some (parse?_eq_fill rfl (RoleFlags.parse?_render _) _) ?_
  refine bind_eq_of_eq_some (bool?_eq_fill rfl _) ?_
  exact bind_eq_of_eq_some (parse?_eq_fill rfl (SelectionFlags.parse?_render _) _) rfl

theorem AudioConfig.ofJson?_without (gaps : Gaps) (config : AudioConfig) :
    ofJson? (config.toJson.without gaps) = some (config.filled gaps) := by
  rw [toJson, ofJson?]
  refine bind_eq_of_eq_some (fields?_without gaps rfl (by decide)) ?_
  refine bind_eq_of_eq_some (tag?_eq_fill rfl) ?_
  repeat refine bind_eq_of_eq_some (limit?_eq_fill rfl) ?_
  repeat refine bind_eq_of_eq_some (bool?_eq_fill rfl _) ?_
  rfl

/-- A viewport is read exactly if its size is kept. -/
theorem ViewportConfig.ofJson?_without (gaps : Gaps) (config : ViewportConfig) :
    ofJson? (config.toJson.without gaps) =
      if gaps ["width"] || gaps ["height"] then none else some (config.filled gaps) := by
  rw [toJson, ofJson?]
  refine bind_eq_of_eq_some (fields?_without gaps rfl (by decide)) ?_
  have width := uint32?_nat config.width
  have height := uint32?_nat config.height
  rw [required?_without rfl, required?_without rfl, bool?_eq_fill rfl, without_nat, without_nat,
    width, height]
  cases gaps ["width"] <;> cases gaps ["height"] <;> rfl

/-- Whether a video section still has the size of its viewport, if it still has one. -/
def VideoConfig.keepsSize (gaps : Gaps) (config : VideoConfig) : Bool :=
  gaps ["viewport"] || config.viewport.isNone ||
    !(gaps ["viewport", "width"] || gaps ["viewport", "height"])

theorem VideoConfig.viewport?_without {gaps : Gaps} {fields : Fields} {config : VideoConfig}
    (written : fields.lookup "viewport" = some (orNull ViewportConfig.toJson config.viewport)) :
    (fields.without gaps).optional? "viewport" ViewportConfig.ofJson? =
      if config.keepsSize gaps then some (config.filled gaps).viewport else none := by
  have filled : (config.filled gaps).viewport = if gaps ["viewport"] then none
      else config.viewport.map (ViewportConfig.filled (gaps.inside "viewport")) := rfl
  rw [Fields.optional?, withDefault?_without written, keepsSize, filled]
  cases gaps ["viewport"] with
  | true => rfl
  | false =>
      cases config.viewport with
      | none => rfl
      | some viewport =>
          have read := viewport.ofJson?_without (gaps.inside "viewport")
          show (ViewportConfig.ofJson? (viewport.toJson.without _)).map some = _
          rw [read, Gaps.inside, Gaps.inside]
          cases gaps ["viewport", "width"] <;> cases gaps ["viewport", "height"] <;> rfl

theorem VideoConfig.ofJson?_without (gaps : Gaps) (config : VideoConfig) :
    ofJson? (config.toJson.without gaps) =
      if config.keepsSize gaps then some (config.filled gaps) else none := by
  rw [toJson, ofJson?]
  refine bind_eq_of_eq_some (fields?_without gaps rfl (by decide)) ?_
  repeat refine bind_eq_of_eq_some (limit?_eq_fill rfl) ?_
  repeat refine bind_eq_of_eq_some (bool?_eq_fill rfl _) ?_
  rw [viewport?_without rfl]
  cases config.keepsSize gaps <;> rfl

/-- Whether a configuration still has the size of its viewport, if it still has one. -/
def Config.keepsSize (gaps : Gaps) (config : Config) : Bool :=
  gaps ["video"] || config.video.keepsSize (gaps.inside "video")

theorem Config.video?_without {gaps : Gaps} {fields : Fields} {config : Config}
    (written : fields.lookup "video" = some config.video.toJson) :
    (fields.without gaps).withDefault? "video" {} VideoConfig.ofJson? =
      if config.keepsSize gaps then some (config.filled gaps).video else none := by
  have filled : (config.filled gaps).video = if gaps ["video"] then {}
      else config.video.filled (gaps.inside "video") := rfl
  rw [withDefault?_without written, keepsSize, filled, VideoConfig.ofJson?_without]
  cases gaps ["video"] <;> rfl

theorem Config.ofJson?_without (gaps : Gaps) (config : Config) :
    ofJson? (config.toJson.without gaps) =
      if config.keepsSize gaps then some (config.filled gaps) else none := by
  rw [toJson, ofJson?]
  refine bind_eq_of_eq_some (fields?_without gaps rfl (by decide)) ?_
  rw [video?_without rfl]
  cases config.keepsSize gaps with
  | false => rfl
  | true =>
      refine bind_eq_of_eq_some rfl ?_
      refine bind_eq_of_eq_some
        (withDefault?_eq_fill rfl (AudioConfig.ofJson?_without _ _) _) ?_
      refine bind_eq_of_eq_some
        (withDefault?_eq_fill rfl (TextConfig.ofJson?_without _ _) _) ?_
      refine bind_eq_of_eq_some
        (withDefault?_eq_fill rfl (PlaybackConfig.ofJson?_without _ _) _) ?_
      refine bind_eq_of_eq_some (list?_eq_fill rfl text?_text _) ?_
      exact bind_eq_of_eq_some (list?_eq_fill rfl uint64?_nat _) rfl

theorem Config.filled_nothing (config : Config) : config.filled (fun _ => false) = config := by
  obtain ⟨⟨_, _, _, _, _, _, _, viewport⟩, _, _, _, _, _⟩ := config
  cases viewport <;> rfl

/-- Reading undoes writing and fills gaps with the defaults. Whatever members are removed from a
written configuration, at the top or inside its sections, it is read as the same configuration with
exactly these members replaced by their defaults, unless it has a viewport that lost part of its
size; then it is not read. If nothing is removed, the configuration itself is read back. -/
theorem Config.ofJson?_fills_gaps (config : Config) :
    (∀ gaps : Gaps, ofJson? (config.toJson.without gaps) =
        if config.keepsSize gaps then some (config.filled gaps) else none) ∧
      ofJson? config.toJson = some config := by
  refine ⟨fun gaps => config.ofJson?_without gaps, ?_⟩
  have kept : config.keepsSize (fun _ => false) = true := by
    show (false || (false || config.video.viewport.isNone || !(false || false))) = true
    simp
  have read := config.ofJson?_without fun _ => false
  rw [without_nothing, kept, if_pos rfl, config.filled_nothing] at read
  exact read

end TrackSelection
