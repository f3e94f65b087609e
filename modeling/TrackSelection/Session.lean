import TrackSelection.Mapping.Assignment
import TrackSelection.Pass.Basic

/-!
# Sessions

A session holds the installed parameters, the languages of the system and the mapping of the
selection in use. Listeners are told when installed parameters change; a new listener takes the
place of the one before.
-/

namespace TrackSelection

/-- The state between selections. -/
structure Session where
  parameters : Parameters := {}
  /-- Languages of the system in normal form, most preferred first. -/
  systemLanguages : List String := []
  /-- How often each listener was told, the current listener first. -/
  notified : List Nat := []
  /-- The mapping of the selection in use. -/
  current : Option Mapping := none

namespace Session

/-- Languages in normal form, without empty ones. -/
def normalLanguages (languages : List String) : List String :=
  (languages.map Language.normalize).filter (· ≠ "")

/-- A session with some parameters and languages of the system. -/
def start (parameters : Parameters) (languages : List String) : Session where
  parameters := parameters
  systemLanguages := normalLanguages languages

def listen (session : Session) : Session :=
  { session with notified := 0 :: session.notified }

/-- Tell the current listener, if there is one. -/
def notify (session : Session) : Session :=
  match session.notified with
  | [] => session
  | count :: earlier => { session with notified := (count + 1) :: earlier }

/-- Install parameters. Bad ones are refused and change nothing; others are installed, and the
listener is told if they differ from those before. -/
def install (session : Session) (parameters : Parameters) : Except Error Session := do
  parameters.check
  let installed := { session with parameters := parameters }
  return if session.parameters.same parameters then installed else installed.notify

/-- Map groups to renderers and select tracks. -/
def select (session : Session) (renderers : List Renderer) (groups : List TrackGroup) :
    Except Error Outcome := do
  let mapping ← Mapping.assign renderers groups
  return Pass.run mapping session.parameters session.systemLanguages

/-- Put an outcome to use. -/
def activate (session : Session) (outcome : Outcome) : Session :=
  { session with current := some outcome.mapping }

end Session

end TrackSelection
