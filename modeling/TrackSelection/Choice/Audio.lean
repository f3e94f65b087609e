import TrackSelection.Choice.AudioScore
import TrackSelection.Choice.Best

/-!
# Choosing audio

The track with the best score decides the group. If audio may be adaptive, all tracks of that group
that share one configuration are selected, for the configuration with most tracks; otherwise the
best track alone.
-/

namespace TrackSelection.AudioTrack

abbrev Scored := Candidate × AudioScore

def isEligible (parameters : Parameters) (scored : Scored) : Bool :=
  scored.1.capabilities.isSupported parameters.playback.mayExceedCapabilities &&
    (scored.2.withinLimits || parameters.audio.mayExceedLimits)

def eligible (parameters : Parameters) (systemLanguages : List String)
    (groups : List MappedGroup) : List Scored :=
  let scored := (Candidate.all groups).map fun candidate =>
    (candidate,
      AudioScore.ofTrack parameters systemLanguages candidate.format candidate.capabilities)
  scored.filter (isEligible parameters)

def bestTrack? (parameters : Parameters) (systemLanguages : List String)
    (groups : List MappedGroup) : Option Scored :=
  best? (fun a b => a.2.order b.2 = .gt) (eligible parameters systemLanguages groups)

/-! ## Several tracks -/

/-- Whether a value is known and equal to that of a reference. -/
def agrees [DecidableEq α] (value reference : Option α) : Bool :=
  value.isSome && value = reference

def sharesConfiguration (audio : AudioParameters) (reference : Format)
    (track : Format × Capabilities) : Bool :=
  track.2.isHandled && isWithin track.1.bitrate audio.maxBitrate &&
    (audio.mayMixChannelCounts || agrees track.1.channelCount reference.channelCount) &&
    (audio.mayMixMimeTypes || agrees track.1.sampleMimeType reference.sampleMimeType) &&
    (audio.mayMixSampleRates || agrees track.1.sampleRate reference.sampleRate)

def sameConfiguration (a b : Format) : Bool :=
  a.channelCount = b.channelCount && a.sampleRate = b.sampleRate &&
    a.sampleMimeType = b.sampleMimeType

/-- How many tracks share the configuration of a reference. -/
def sharers (audio : AudioParameters) (mapped : MappedGroup) (reference : Format) : Nat :=
  mapped.tracks.countP (sharesConfiguration audio reference)

/-- The format whose configuration most tracks share; each configuration is tried once. -/
def commonFormat? (audio : AudioParameters) (mapped : MappedGroup) : Option Format :=
  best? (fun a b => sharers audio mapped b < sharers audio mapped a)
    (mapped.group.formats.eraseDupsBy sameConfiguration)

/-- The tracks to move between; none when no configuration has at least two. -/
def adaptiveTracks (audio : AudioParameters) (mapped : MappedGroup) : List Nat :=
  match commonFormat? audio mapped with
  | none => []
  | some reference =>
    if sharers audio mapped reference < 2 then []
    else (mapped.tracks.zipIdx.filter fun (track, _) =>
      sharesConfiguration audio reference track).map Prod.snd

/-! ## The selection -/

/-- The selection for a renderer and the score of its best track. -/
def select? (parameters : Parameters) (systemLanguages : List String) (allowAdaptive : Bool)
    (groups : List MappedGroup) : Option (Selection × AudioScore) :=
  (bestTrack? parameters systemLanguages groups).map fun (candidate, score) =>
    let tracks := if !parameters.forcesBitrate && allowAdaptive
      then adaptiveTracks parameters.audio candidate.mapped else []
    if 1 < tracks.length then ({ candidate.selection with tracks := tracks }, score)
    else (candidate.selection, score)

end TrackSelection.AudioTrack
