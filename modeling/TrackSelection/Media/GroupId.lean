import TrackSelection.Text.Hex

/-!
# Group identities

A group is identified by 128 bits, written as five hyphenated parts of hexadecimal digits. Reading
also accepts the digits without hyphens, and the hyphenated form in braces or as a name in the
`urn:uuid:` scheme, whose letters may be of either case.
-/

namespace TrackSelection

structure GroupId where
  value : BitVec 128
deriving DecidableEq, Repr

namespace GroupId

def ofNat (number : Nat) : GroupId :=
  ⟨BitVec.ofNat 128 number⟩

/-- The hyphenated form in lower case. -/
def render (id : GroupId) : String :=
  let digits := Text.writeHexPadded 32 id.value.toNat
  let part (start length : Nat) := (digits.drop start).take length
  String.ofList (['-'].intercalate [part 0 8, part 8 4, part 12 4, part 16 4, part 20 12])

/-- An identity from exactly 32 digits. -/
def ofDigits? (digits : List Char) : Option GroupId :=
  if digits.length = 32 then (Text.readHex? 0 digits).map ofNat else none

/-- An identity from parts of 8, 4, 4, 4 and 12 digits with hyphens between them. -/
def ofHyphenated? (cs : List Char) : Option GroupId :=
  let parts := cs.splitOn '-'
  if parts.map List.length = [8, 4, 4, 4, 12] then ofDigits? parts.flatten else none

/-- The text that a hyphenated form may follow, in lower case. -/
def scheme : List Char := "urn:uuid:".toList

def parse? (text : String) : Option GroupId :=
  let cs := text.toList
  if cs.length = 32 then ofDigits? cs
  else if cs.length = 38 ∧ cs.head? = some '\x7b' ∧ cs.getLast? = some '\x7d' then
    ofHyphenated? ((cs.drop 1).take 36)
  else if scheme.isPrefixOf (cs.map Char.toLower) then ofHyphenated? (cs.drop scheme.length)
  else ofHyphenated? cs

end GroupId

end TrackSelection
