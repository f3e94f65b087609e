import TrackSelection.Mapping.Basic
import TrackSelection.Selection.Basic

/-!
# Tunneling

In a tunnel audio and video are rendered through one shared session. It takes one audio and one
video renderer that support tunneling for every track they selected; as soon as a second one of
either type turns up there is no tunnel.
-/

namespace TrackSelection

/-- How an enabled renderer is set up. -/
structure RendererConfiguration where
  /-- The audio session to tunnel with. -/
  tunnelingSession : Option UInt32 := none
deriving DecidableEq, Repr

namespace Tunneling

/-- Whether a renderer supports tunneling for all of some tracks of a group, asked track by track
until one does not; `none` when a track that was asked for is out of range. -/
def supports? (mapping : Mapping) (renderer group : Nat) : List Nat → Option Bool
  | [] => some true
  | track :: rest => match mapping.capabilities? renderer group track with
    | none => none
    | some capabilities =>
      if capabilities.supportsTunneling then supports? mapping renderer group rest else some false

/-- The one audio and the one video renderer that qualify, looked for from renderer `i` on, given
those found before. The outer `none` is a position out of range. -/
def pairFrom? (mapping : Mapping) (i : Nat) (audio video : Option Nat) :
    List (Option Selection) → Option (Option (Nat × Nat))
  | [] => some (audio.bind fun a => video.map fun v => (a, v))
  | selection :: rest => match mapping.renderers[i]?, selection with
    | none, _ => none
    | some _, none => pairFrom? mapping (i + 1) audio video rest
    | some renderer, some selection =>
      if renderer.trackType ≠ .audio ∧ renderer.trackType ≠ .video then
        pairFrom? mapping (i + 1) audio video rest
      else match supports? mapping i selection.groupIndex selection.tracks with
        | none => none
        | some false => pairFrom? mapping (i + 1) audio video rest
        | some true =>
          if renderer.trackType = .audio then
            if audio.isSome then some none else pairFrom? mapping (i + 1) (some i) video rest
          else if video.isSome then some none else pairFrom? mapping (i + 1) audio (some i) rest

/-- The audio and video renderer that can share a tunnel; the outer `none` is a position out of
range. -/
def pair? (mapping : Mapping) (selections : List (Option Selection)) :
    Option (Option (Nat × Nat)) :=
  pairFrom? mapping 0 none none selections

/-- The configurations with a session for the two renderers of a tunnel. -/
def configure (session : UInt32) (pair : Nat × Nat)
    (configurations : List (Option RendererConfiguration)) : List (Option RendererConfiguration) :=
  let tunneling : Option RendererConfiguration := some { tunnelingSession := some session }
  (configurations.set pair.1 tunneling).set pair.2 tunneling

end Tunneling

end TrackSelection
