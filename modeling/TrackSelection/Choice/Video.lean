import TrackSelection.Choice.Best
import TrackSelection.Choice.Candidate
import TrackSelection.Choice.Viewport

/-!
# Choosing video

Where possible video is adaptive: of the first group with at least two tracks that are worth
showing, handled, within the limits and can be moved between, all these tracks are selected. Unless
MIME types may be mixed they are those of one MIME type. Otherwise a single track is selected:
handled before others, then within the limits before others, then by size and bitrate; larger is
better for a track that is both, and smaller for any other.
-/

namespace TrackSelection.VideoTrack

/-- Whether a format is within the limits on size, frame rate and bitrate. -/
def isWithinLimits (video : VideoParameters) (format : Format) : Bool :=
  isWithin format.width video.maxWidth && isWithin format.height video.maxHeight &&
    format.frameRate.all (fun rate => rate.atMost video.maxFrameRate) &&
    isWithin format.bitrate video.maxBitrate

/-! ## Several tracks -/

/-- How well a renderer must move between tracks. -/
def requiredSupport (video : VideoParameters) : AdaptiveSupport :=
  if video.mayBeNonSeamless then .notSeamless else .seamless

/-- Whether MIME types may be mixed on a renderer that moves between them as well as `mixed`. -/
def mayMix (video : VideoParameters) (mixed : AdaptiveSupport) : Bool :=
  video.mayMixMimeTypes && requiredSupport video ≤ mixed

/-- Whether a track may be one of several that playback moves between as well as `required`.
Without a MIME type to have, any will do. -/
def qualifies (required : AdaptiveSupport) (video : VideoParameters) (mimeType : Option String)
    (track : Format × Capabilities) : Bool :=
  track.2.isHandled && track.2.adaptive ≠ .notSupported && required ≤ track.2.adaptive &&
    mimeType.all (fun type => track.1.sampleMimeType = some type) &&
    isWithinLimits video track.1

def qualifiesAt (required : AdaptiveSupport) (video : VideoParameters) (mapped : MappedGroup)
    (mimeType : Option String) (track : Nat) : Bool :=
  mapped.tracks[track]?.any (qualifies required video mimeType)

/-- The MIME type with most qualifying tracks, the first of equals; `none` when none has any, and
for tracks without a MIME type. -/
def commonMimeType (required : AdaptiveSupport) (video : VideoParameters) (mapped : MappedGroup)
    (tracks : List Nat) : Option String :=
  let types := (tracks.map fun track => mapped.group.formats[track]?.bind Format.sampleMimeType)
  let counted := types.eraseDups.map fun type =>
    (type, tracks.countP (qualifiesAt required video mapped type))
  ((best? (fun a b => b.2 < a.2) (counted.filter fun entry => 0 < entry.2)).map Prod.fst).join

/-- Tracks of which there are at least two, or none. -/
def atLeastTwo (tracks : List Nat) : List Nat :=
  if tracks.length < 2 then [] else tracks

/-- The tracks of a group to move between; none when there are not at least two. -/
def adaptiveTracks (required : AdaptiveSupport) (video : VideoParameters) (mix : Bool)
    (mapped : MappedGroup) : List Nat :=
  let visible := atLeastTwo (video.viewport.worthShowing mapped.group)
  let mimeType := if mix then none else commonMimeType required video mapped visible
  atLeastTwo (visible.filter (qualifiesAt required video mapped mimeType))

def adaptiveSelection? (required : AdaptiveSupport) (video : VideoParameters) (mix : Bool)
    (groupIndex : Nat) (mapped : MappedGroup) : Option Selection :=
  let tracks := adaptiveTracks required video mix mapped
  if tracks.isEmpty then none
  else some { groupIndex := groupIndex, group := mapped.group, tracks := tracks }

/-- The adaptive selection from the first group that has one. -/
def selectAdaptive? (parameters : Parameters) (mixed : AdaptiveSupport)
    (groups : List MappedGroup) : Option Selection :=
  let required := requiredSupport parameters.video
  let mix := mayMix parameters.video mixed
  groups.zipIdx.findSome? fun (mapped, i) =>
    adaptiveSelection? required parameters.video mix i mapped

/-! ## A single track -/

/-- Whether a track is worth showing and within the limits. -/
def isWithinConstraints (video : VideoParameters) (candidate : Candidate) : Bool :=
  (video.viewport.worthShowing candidate.mapped.group).contains candidate.track &&
    isWithinLimits video candidate.format

def isEligible (parameters : Parameters) (candidate : Candidate) : Bool :=
  candidate.capabilities.isSupported parameters.playback.mayExceedCapabilities &&
    (isWithinConstraints parameters.video candidate || parameters.video.mayExceedLimits)

/-- Handled tracks before others, and among them those within the constraints. -/
def score (video : VideoParameters) (candidate : Candidate) : Nat :=
  (if isWithinConstraints video candidate then 2 else 1) +
    (if candidate.capabilities.isHandled then 1000 else 0)

/-- Whether a track is to be preferred to an earlier one. -/
def isBetter (parameters : Parameters) (candidate other : Candidate) : Bool :=
  let mine := score parameters.video candidate
  let theirs := score parameters.video other
  if mine ≠ theirs then theirs < mine
  else
    let byBitrate := compareKnown candidate.format.bitrate other.format.bitrate
    if parameters.playback.forceLowestBitrate ∧ byBitrate ≠ .eq then byBitrate = .lt
    else
      let pixels := candidate.format.pixelCount
      let otherPixels := other.format.pixelCount
      let order := if pixels ≠ otherPixels then compareKnown pixels otherPixels else byBitrate
      let fits := candidate.capabilities.isHandled && isWithinConstraints parameters.video candidate
      order = if fits then .gt else .lt

/-- The best single track. -/
def selectFixed? (parameters : Parameters) (groups : List MappedGroup) : Option Selection :=
  (best? (isBetter parameters) ((Candidate.all groups).filter (isEligible parameters))).map
    Candidate.selection

/-- The selection for a renderer: adaptive when that is allowed and possible, else a single
track. -/
def select? (parameters : Parameters) (mixed : AdaptiveSupport) (allowAdaptive : Bool)
    (groups : List MappedGroup) : Option Selection :=
  let adaptive := if !parameters.forcesBitrate && allowAdaptive
    then selectAdaptive? parameters mixed groups else none
  adaptive <|> selectFixed? parameters groups

end TrackSelection.VideoTrack
