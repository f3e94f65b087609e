import TrackSelection.Json.Decode

/-!
# Reasons for a selection
-/

namespace TrackSelection

/-- Why tracks were selected. -/
inductive SelectionReason where
  /-- Computed, for no reason more specific. -/
  | unknown
  | initial
  /-- Chosen by the user. -/
  | manual
  | adaptive
  | trickPlay
  /-- A reason of the application. -/
  | custom (code : UInt32)
deriving DecidableEq, Repr

namespace SelectionReason

/-- The reasons without a code. -/
def plain : List SelectionReason :=
  [.unknown, .initial, .manual, .adaptive, .trickPlay]

def render : SelectionReason → String
  | .unknown => "unknown"
  | .initial => "initial"
  | .manual => "manual"
  | .adaptive => "adaptive"
  | .trickPlay => "trick_play"
  | .custom code => s!"custom({code})"

def toJson : SelectionReason → Json
  | .custom code => .record [("custom", .nat code.toNat)]
  | reason => .text reason.render

def ofJson? (value : Json) : Option SelectionReason :=
  match value.variant? with
  | some ("custom", code) => code.uint32?.map .custom
  | some (name, .null) => plain.find? fun reason => reason.render = name
  | _ => none

end SelectionReason

end TrackSelection
