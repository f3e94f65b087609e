import TrackSelection.Choice.Matrix
import TrackSelection.Main
import TrackSelection.Parameters.Written
import TrackSelection.Proofs.BestOf
import TrackSelection.Proofs.Tracks
import TrackSelection.Proofs.PassResults
import TrackSelection.Proofs.Tunnels
import TrackSelection.Proofs.CheckedChoice
import TrackSelection.Proofs.CheckedPass
import TrackSelection.Proofs.AudioLimits
import TrackSelection.Proofs.MimeTypes
import TrackSelection.Proofs.AudioRank
import TrackSelection.Proofs.AudioOptimum
import TrackSelection.Proofs.Placements
import TrackSelection.Proofs.SupportRule
import TrackSelection.Proofs.DistinctTracks
import TrackSelection.Proofs.Winners
import TrackSelection.Proofs.PlayableTracks
import TrackSelection.Proofs.SupportSummary
import TrackSelection.Proofs.BuiltParameters
import TrackSelection.Proofs.RendererSettings
import TrackSelection.Proofs.AudioLanguage
import TrackSelection.Proofs.SessionHistory
import TrackSelection.Proofs.FailedQuestions
import TrackSelection.Proofs.SingleVideo
import TrackSelection.Proofs.Spellings
import TrackSelection.Proofs.FlagTexts
import TrackSelection.Proofs.ConfigGaps
import TrackSelection.Proofs.LanguageMatches
import TrackSelection.Proofs.AudioOrder
import TrackSelection.Proofs.BestAudio
import TrackSelection.Proofs.FirstText
import TrackSelection.Proofs.AudioConfigurations
import TrackSelection.Proofs.LargerViewports
import TrackSelection.Proofs.AdaptiveVideo
import TrackSelection.Proofs.AdaptiveAgreement
import TrackSelection.Proofs.FilledViewports
import TrackSelection.Proofs.Letterboxes
import TrackSelection.Proofs.OrdinaryGroups
import TrackSelection.Proofs.MaskedFlags
import TrackSelection.Proofs.BuiltOverrides
import TrackSelection.Proofs.NormalTags
import TrackSelection.Proofs.TrackSets
import TrackSelection.Proofs.ConfigVerdicts
import TrackSelection.Proofs.SortedSearch
