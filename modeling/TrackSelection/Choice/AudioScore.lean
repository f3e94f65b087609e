import TrackSelection.Choice.Candidate
import TrackSelection.Parameters.Basic

/-!
# Scores of audio tracks

The order of scores is a chain of comparisons. Quality counts upwards for a track that is handled
and within the limits, and downwards for any other; bitrates are compared only between tracks of the
same language. The order is therefore not transitive everywhere.
-/

namespace TrackSelection

/-- What counts for an audio track. -/
structure AudioScore where
  withinCapabilities : Bool
  languageScore : Nat
  withinLimits : Bool
  isDefault : Bool
  /-- The first system language that the track answers. -/
  localeIndex : Option Nat
  /-- How well it answers that language. -/
  localeScore : Nat
  channelCount : Option UInt32
  sampleRate : Option UInt32
  bitrate : Option UInt32
  /-- The language, if it is determined. -/
  language : Option String
  /-- Whether lower bitrates win. -/
  forceLowestBitrate : Bool
deriving DecidableEq, Repr

namespace AudioScore

/-- The first system language that a track answers, and how well. -/
def localeMatch (language : Option String) (systemLanguages : List String) : Option (Nat × Nat) :=
  systemLanguages.zipIdx.findSome? fun (locale, i) =>
    let score := Language.matchScore language (some locale) false
    if 0 < score then some (i, score) else none

def ofTrack (parameters : Parameters) (systemLanguages : List String) (format : Format)
    (capabilities : Capabilities) : AudioScore :=
  let locale := localeMatch format.language systemLanguages
  { withinCapabilities := capabilities.isHandled
    languageScore := Language.matchScore format.language parameters.audio.language false
    withinLimits := isWithin format.bitrate parameters.audio.maxBitrate &&
      isWithin format.channelCount parameters.audio.maxChannelCount
    isDefault := format.selectionFlags.isDefault
    localeIndex := locale.map Prod.fst
    localeScore := (locale.map Prod.snd).getD 0
    channelCount := format.channelCount
    sampleRate := format.sampleRate
    bitrate := format.bitrate
    language := Language.determined? format.language
    forceLowestBitrate := parameters.playback.forceLowestBitrate }

/-- Earlier system languages win, and no match loses to any. -/
def localeOrder : Option Nat → Option Nat → Ordering
  | none, none => .eq
  | none, some _ => .lt
  | some _, none => .gt
  | some i, some j => compare j i

/-- The order of qualities: upwards for a track that is handled and within the limits, else
downwards. -/
def towards (score : AudioScore) (order : Ordering) : Ordering :=
  if score.withinLimits && score.withinCapabilities then order else order.swap

def order (a b : AudioScore) : Ordering :=
  (compare a.withinCapabilities b.withinCapabilities).then <|
  (compare a.languageScore b.languageScore).then <|
  (compare a.withinLimits b.withinLimits).then <|
  (if a.forceLowestBitrate then compareKnown b.bitrate a.bitrate else .eq).then <|
  (compare a.isDefault b.isDefault).then <|
  (localeOrder a.localeIndex b.localeIndex).then <|
  (compare a.localeScore b.localeScore).then <|
  (a.towards (compareKnown a.channelCount b.channelCount)).then <|
  (a.towards (compareKnown a.sampleRate b.sampleRate)).then <|
  if a.language = b.language then a.towards (compareKnown a.bitrate b.bitrate) else .eq

end AudioScore

end TrackSelection
