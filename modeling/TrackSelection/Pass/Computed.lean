import TrackSelection.Choice.Audio
import TrackSelection.Choice.Other
import TrackSelection.Choice.Text
import TrackSelection.Choice.Video

/-!
# The computed selections of a pass

Video goes to the first video renderer that can select anything, audio to the audio renderer with
the best score, and text to the text renderer with the best score beside that audio; renderers of
other kinds select on their own. Beside video that was given to a renderer, audio is adaptive only
if that is asked for.
-/

namespace TrackSelection.Pass

/-- The choices of the renderers of a type, by position. -/
def choices (mapping : Mapping) (type : TrackType) (choose : MappedRenderer → Option α) :
    List (Nat × α) :=
  mapping.renderers.zipIdx.filterMap fun (renderer, i) =>
    if renderer.trackType = type then (choose renderer).map (i, ·) else none

/-- The video renderer that is given video, and its selection. -/
def videoChoice? (mapping : Mapping) (parameters : Parameters) : Option (Nat × Selection) :=
  (choices mapping .video fun renderer =>
    VideoTrack.select? parameters renderer.mixedMimeTypes true renderer.groups).head?

/-- Whether some video renderer was given a group. -/
def hasVideo (mapping : Mapping) : Bool :=
  mapping.renderers.any fun renderer => renderer.trackType = .video && !renderer.groups.isEmpty

def allowsAdaptiveAudio (mapping : Mapping) (parameters : Parameters) : Bool :=
  parameters.playback.multipleAdaptive || !hasVideo mapping

/-- The audio renderer that is given audio, with its selection and score. -/
def audioChoice? (mapping : Mapping) (parameters : Parameters) (systemLanguages : List String) :
    Option (Nat × Selection × AudioScore) :=
  best? (fun a b => a.2.2.order b.2.2 = .gt) <|
    choices mapping .audio fun renderer =>
      AudioTrack.select? parameters systemLanguages (allowsAdaptiveAudio mapping parameters)
        renderer.groups

/-- The language of the first selected audio track. -/
def audioLanguage (mapping : Mapping) (parameters : Parameters) (systemLanguages : List String) :
    Option String :=
  (audioChoice? mapping parameters systemLanguages).bind fun (_, selection, _) =>
    selection.primaryFormat?.bind Format.language

/-- The text renderer that is given text, with its selection and score. -/
def textChoice? (mapping : Mapping) (parameters : Parameters) (audioLanguage : Option String) :
    Option (Nat × Selection × TextScore) :=
  best? (fun a b => a.2.2.order b.2.2 = .gt) <|
    choices mapping .text fun renderer =>
      TextTrack.select? parameters audioLanguage renderer.groups

/-- The selection of a renderer, if it is the one that was chosen. -/
def selectionAt (renderer : Nat) (choice : Option (Nat × Selection)) : Option Selection :=
  choice.bind fun (i, selection) => if i = renderer then some selection else none

/-- The selections of all renderers, before overrides and switches. -/
def computed (mapping : Mapping) (parameters : Parameters) (systemLanguages : List String) :
    List (Option Selection) :=
  let video := videoChoice? mapping parameters
  let audio := audioChoice? mapping parameters systemLanguages
  let text := textChoice? mapping parameters (audioLanguage mapping parameters systemLanguages)
  mapping.renderers.zipIdx.map fun (renderer, i) =>
    match renderer.trackType with
    | .video => selectionAt i video
    | .audio => selectionAt i (audio.map fun (j, selection, _) => (j, selection))
    | .text => selectionAt i (text.map fun (j, selection, _) => (j, selection))
    | _ => OtherTrack.select? parameters renderer.groups

end TrackSelection.Pass
