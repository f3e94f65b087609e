import TrackSelection.Json.Basic
import TrackSelection.Text.Hex

/-!
# Writing JSON text

One writer serves the compact form and the form with one member or item a line.
-/

namespace TrackSelection.Json

def escaped (c : Char) : List Char :=
  match c with
  | '\x22' => ['\x5c', '\x22']
  | '\x5c' => ['\x5c', '\x5c']
  | '\n' => ['\x5c', 'n']
  | '\r' => ['\x5c', 'r']
  | '\t' => ['\x5c', 't']
  | c =>
    if c.toNat = 8 then ['\x5c', 'b']
    else if c.toNat = 12 then ['\x5c', 'f']
    else if c.toNat < 32 then '\x5c' :: 'u' :: Text.writeHexPadded 4 c.toNat
    else [c]

def quoted (text : String) : String :=
  String.ofList ('\x22' :: text.toList.flatMap escaped ++ ['\x22'])

def Number.render : Number → String
  | .integer value => toString value
  | .real value => value.render

/-- Where a member or item starts: on a new line at some depth, or right there. -/
def lineStart : Option Nat → String
  | none => ""
  | some depth => String.ofList ('\n' :: List.replicate (2 * depth) ' ')

def writeKey (layout : Option Nat) (out : String) (key : Option String) : String :=
  out ++ lineStart layout ++ quoted (key.getD "") ++ (if layout.isSome then ": " else ":")

mutual

/-- Append a value to a text. The layout is the depth of the value, or `none` for the compact
form. -/
def write (layout : Option Nat) (out : String) : Json → String
  | .null => out ++ "null"
  | .bool true => out ++ "true"
  | .bool false => out ++ "false"
  | .number none => out ++ "null"
  | .number (some value) => out ++ value.render
  | .string none => out ++ "null"
  | .string (some value) => out ++ quoted value
  | .array [] => out ++ "[]"
  | .array (item :: rest) =>
    let inner := layout.map (· + 1)
    let first := write inner (out ++ "[" ++ lineStart inner) item
    writeItems inner first rest ++ lineStart layout ++ "]"
  | .object [] => out ++ "\x7b\x7d"
  | .object ((key, value) :: rest) =>
    let inner := layout.map (· + 1)
    let first := write inner (writeKey inner (out ++ "\x7b") key) value
    writeMembers inner first rest ++ lineStart layout ++ "\x7d"

/-- Append the items after the first. -/
def writeItems (layout : Option Nat) (out : String) : List Json → String
  | [] => out
  | item :: rest => writeItems layout (write layout (out ++ "," ++ lineStart layout) item) rest

/-- Append the members after the first. -/
def writeMembers (layout : Option Nat) (out : String) : List (Option String × Json) → String
  | [] => out
  | (key, value) :: rest =>
    writeMembers layout (write layout (writeKey layout (out ++ ",") key) value) rest

end

/-- The compact form. -/
def render (value : Json) : String :=
  write none "" value

/-- The form with one member or item a line, indented by two blanks a level. -/
def renderIndented (value : Json) : String :=
  write (some 0) "" value

end TrackSelection.Json
