import TrackSelection.Choice.Candidate
import TrackSelection.Parameters.Basic

/-!
# Scores of text tracks

A text track needs a reason to be shown: the preferred language or a preferred role, the default
flag, or being forced in the language of the audio. Forced tracks are preferred only where no
language preference is met.
-/

namespace TrackSelection

/-- What counts for a text track. -/
structure TextScore where
  withinCapabilities : Bool
  isDefault : Bool
  isForced : Bool
  languageScore : Nat
  roleScore : Nat
  hasCaptions : Bool
  audioLanguageScore : Nat
  /-- Whether there is a reason to show the track. -/
  withinConstraints : Bool
deriving DecidableEq, Repr

namespace TextScore

/-- The score of a track beside audio of some language. -/
def ofTrack (parameters : Parameters) (audioLanguage : Option String) (format : Format)
    (capabilities : Capabilities) : TextScore :=
  let text := parameters.text
  let flags := format.selectionFlags.without text.disabledFlags
  let languageScore := Language.matchScore format.language text.language text.selectUndetermined
  let roleScore := format.roleFlags.shared text.roles
  let audioLanguageScore := Language.matchScore format.language audioLanguage
    (Language.determined? audioLanguage).isNone
  { withinCapabilities := capabilities.isHandled
    isDefault := flags.isDefault
    isForced := flags.isForced
    languageScore := languageScore
    roleScore := roleScore
    hasCaptions := format.roleFlags.hasCaptions
    audioLanguageScore := audioLanguageScore
    withinConstraints := 0 < languageScore || (text.language.isNone && 0 < roleScore) ||
      flags.isDefault || (flags.isForced && 0 < audioLanguageScore) }

/-- Whether the track is forced exactly when no language preference is met. -/
def isForcedAsPreferred (score : TextScore) : Bool :=
  (0 < score.languageScore && !score.isForced) || (score.languageScore = 0 && score.isForced)

/-- The order of scores. Captions count against a track only without a preferred role. -/
def order (a b : TextScore) : Ordering :=
  (compare a.withinCapabilities b.withinCapabilities).then <|
  (compare a.languageScore b.languageScore).then <|
  (compare a.roleScore b.roleScore).then <|
  (compare a.isDefault b.isDefault).then <|
  (compare a.isForcedAsPreferred b.isForcedAsPreferred).then <|
  (compare a.audioLanguageScore b.audioLanguageScore).then <|
  if a.roleScore = 0 then compare b.hasCaptions a.hasCaptions else .eq

end TextScore

end TrackSelection
