import TrackSelection.Json.Writer
import TrackSelection.Mapping.Support
import TrackSelection.Pass.Basic

/-!
# Reports

What is printed about an outcome and about a mapping: lines for people, or a JSON value.
-/

namespace TrackSelection.Report

/-- A value on a line of its own for each selected track. -/
def trackLines (selection : Selection) : List String :=
  selection.tracks.filterMap fun track =>
    selection.group.formats[track]?.map fun format => s!"    [{track}] {format.describe}"

def selectionLines : Option Selection → List String
  | none => ["  No selection"]
  | some selection =>
    let kind := if selection.isAdaptive then "adaptive" else "fixed"
    s!"  Group {selection.groupIndex} ({kind}, reason {selection.reason.render})" ::
      trackLines selection

def rendererLines (i : Nat) (renderer : MappedRenderer)
    (configuration : Option RendererConfiguration) (selection : Option Selection) : List String :=
  let state := if configuration.isSome then "enabled" else "disabled"
  let session := configuration.bind RendererConfiguration.tunnelingSession
  s!"Renderer {i} ({renderer.name}, {renderer.trackType.name}): {state}" ::
    (session.elim [] (fun session => [s!"  Tunneling: session {session}"]) ++
      selectionLines selection)

/-- The renderers of an outcome, by position, with what was decided for them. -/
def decisions (outcome : Outcome) :
    List (((MappedRenderer × Option RendererConfiguration) × Option Selection) × Nat) :=
  ((outcome.mapping.renderers.zip outcome.configurations).zip outcome.selections).zipIdx

def outcomeLines (outcome : Outcome) : List String :=
  (decisions outcome).flatMap fun (((renderer, configuration), selection), i) =>
    rendererLines i renderer configuration selection

def groupLines (mixed : AdaptiveSupport) (i : Nat) (mapped : MappedGroup) : List String :=
  let adaptive := mapped.adaptiveSupport mixed false
  s!"  Group {i}: {mapped.group.size} track(s), adaptive {adaptive.name}" ::
    mapped.tracks.zipIdx.map fun ((format, capabilities), track) =>
      s!"    [{track}] {format.describe} -> {capabilities.format.name}"

def mappingLines (mapping : Mapping) : List String :=
  s!"Renderers: {mapping.renderers.length}" ::
    (mapping.renderers.zipIdx.flatMap fun (renderer, i) =>
      ["", s!"[{i}] {renderer.name} ({renderer.trackType.name}): {renderer.support.name}",
        s!"  Mixed MIME adaptation: {renderer.mixedMimeTypes.name}"] ++
      renderer.groups.zipIdx.flatMap fun (mapped, g) =>
        groupLines renderer.mixedMimeTypes g mapped) ++
    ["", s!"Unmapped groups: {mapping.unmapped.length}"] ++
    mapping.unmapped.flatMap fun group => group.formats.map fun format => s!"  {format.describe}"

def configurationJson (configuration : RendererConfiguration) : Json :=
  .record [("tunneling_audio_session_id",
    .orNull (fun session => .nat session.toNat) configuration.tunnelingSession)]

def selectionJson (selection : Selection) : Json :=
  .record <|
    [("group_index", .nat selection.groupIndex),
     ("tracks", .list .nat selection.tracks),
     ("adaptive", .bool selection.isAdaptive),
     ("reason", selection.reason.toJson)] ++
    selection.data.elim [] fun data => [("data", data)]

def outcomeJson (outcome : Outcome) : Json :=
  .record [
    ("renderers", .array <|
      (decisions outcome).map fun (((renderer, configuration), selection), i) => .record [
        ("index", .nat i),
        ("name", .text renderer.name),
        ("track_type", .text renderer.trackType.name),
        ("support", .text renderer.support.name),
        ("enabled", .bool configuration.isSome),
        ("configuration", .orNull configurationJson configuration),
        ("selection", .orNull selectionJson selection)]),
    ("unmapped_groups", .nat outcome.mapping.unmapped.length)]

end TrackSelection.Report
