import TrackSelection.Media.GroupId

/-!
# Errors

An error is its cause; the wording stands in one place. Finding no eligible track is not an error.
-/

namespace TrackSelection

inductive ParameterFault where
  | zeroViewport (width height : UInt32)
  | groupOutOfRange (renderer group groups : Nat)
  | noTracks (renderer : Nat)
  | trackOutOfRange (renderer track tracks : Nat)
  | repeatedTrack (renderer track : Nat)
deriving DecidableEq, Repr

def ParameterFault.message : ParameterFault → String
  | .zeroViewport width height => s!"viewport {width}x{height} has a zero dimension"
  | .groupOutOfRange renderer group groups =>
    s!"override for renderer {renderer}: group index {group} out of range ({groups} groups)"
  | .noTracks renderer => s!"override for renderer {renderer}: no tracks selected"
  | .trackOutOfRange renderer track tracks =>
    s!"override for renderer {renderer}: track {track} out of range ({tracks} tracks)"
  | .repeatedTrack renderer track => s!"override for renderer {renderer}: duplicate track {track}"

inductive GroupFault where
  | empty (id : GroupId)
  /-- A group at some position of a scenario, which has no identity of its own. -/
  | emptyAt (position : Nat)
deriving DecidableEq, Repr

def GroupFault.message : GroupFault → String
  | .empty id => s!"track group {id.render} has no formats"
  | .emptyAt position => s!"group {position}: track group <id> has no formats"

/-- The documents that are read from JSON text. -/
inductive Document where
  | config
  | scenario
deriving DecidableEq, Repr

def Document.name : Document → String
  | .config => "config"
  | .scenario => "scenario"

/-- Why a file could not be read as text. -/
inductive FileFault where
  | missing
  | directory
  | notText
deriving DecidableEq, Repr

def FileFault.message : FileFault → String
  | .missing => "No such file or directory (os error 2)"
  | .directory => "Is a directory (os error 21)"
  | .notText => "stream did not contain valid UTF-8"

/-- Everything that can go wrong. -/
inductive Error where
  | capabilityQuery (renderer message : String)
  | invalidParameters (fault : ParameterFault)
  | invalidGroup (fault : GroupFault)
  | malformed (document : Document)
  | file (fault : FileFault)
deriving DecidableEq, Repr

namespace Error

def message : Error → String
  | .capabilityQuery renderer message => s!"Capability query failed [{renderer}]: {message}"
  | .invalidParameters fault => s!"Invalid parameters: {fault.message}"
  | .invalidGroup fault => s!"Invalid track group: {fault.message}"
  | .malformed document => s!"Config error: {document.name} parse error"
  | .file fault => s!"IO error: {fault.message}"

/-- Whether the error aborts a selection pass, rather than being refused at the door. -/
def isFatal : Error → Bool
  | .capabilityQuery .. | .file _ => true
  | _ => false

end Error

end TrackSelection
