import TrackSelection.Json.Basic

/-!
# Values that count as equal

A negative zero is written with its sign, but counts as equal to zero. Two values are alike when
they are equal but for the signs of their zeros.
-/

namespace TrackSelection.Json

mutual

/-- The value with every zero unsigned. -/
def unsigned : Json → Json
  | .number (some (.real value)) => .number (some (.real value.unsignedZero))
  | .array items => .array (unsignedItems items)
  | .object members => .object (unsignedMembers members)
  | value => value

def unsignedItems : List Json → List Json
  | [] => []
  | item :: rest => unsigned item :: unsignedItems rest

def unsignedMembers : List (Option String × Json) → List (Option String × Json)
  | [] => []
  | (key, value) :: rest => (key, unsigned value) :: unsignedMembers rest

end

end TrackSelection.Json
