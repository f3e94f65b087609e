import TrackSelection.Choice.Best
import TrackSelection.Choice.TextScore

/-!
# Choosing text

A single track is selected, and only one with a reason to be shown: a subtitle nobody asked for is
never shown.
-/

namespace TrackSelection.TextTrack

abbrev Scored := Candidate × TextScore

def isEligible (parameters : Parameters) (scored : Scored) : Bool :=
  scored.1.capabilities.isSupported parameters.playback.mayExceedCapabilities &&
    scored.2.withinConstraints

def eligible (parameters : Parameters) (audioLanguage : Option String)
    (groups : List MappedGroup) : List Scored :=
  let scored := (Candidate.all groups).map fun candidate =>
    (candidate,
      TextScore.ofTrack parameters audioLanguage candidate.format candidate.capabilities)
  scored.filter (isEligible parameters)

/-- The selection for a renderer and the score of its track. -/
def select? (parameters : Parameters) (audioLanguage : Option String)
    (groups : List MappedGroup) : Option (Selection × TextScore) :=
  (best? (fun a b => a.2.order b.2 = .gt) (eligible parameters audioLanguage groups)).map
    fun (candidate, score) => (candidate.selection, score)

end TrackSelection.TextTrack
