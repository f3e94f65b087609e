import TrackSelection.Choice.Best
import TrackSelection.Choice.Candidate
import TrackSelection.Parameters.Basic

/-!
# Choosing other tracks

For renderers of other kinds a single track is selected: handled tracks before others, and default
tracks before others among them.
-/

namespace TrackSelection.OtherTrack

/-- Handled tracks before others, and default tracks before others among them. -/
def score (candidate : Candidate) : Nat :=
  (if candidate.format.selectionFlags.isDefault then 2 else 1) +
    (if candidate.capabilities.isHandled then 1000 else 0)

def isEligible (parameters : Parameters) (candidate : Candidate) : Bool :=
  candidate.capabilities.isSupported parameters.playback.mayExceedCapabilities

def select? (parameters : Parameters) (groups : List MappedGroup) : Option Selection :=
  (best? (fun a b => score b < score a)
    ((Candidate.all groups).filter (isEligible parameters))).map Candidate.selection

end TrackSelection.OtherTrack
