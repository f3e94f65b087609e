import TrackSelection.Text.Blank
import TrackSelection.Text.Hex

/-!
# Flag sets

A flag set is 32 bits, the lowest of which have names. As text it is the names of its bits in bit
order, then the bits without a name as one hexadecimal number, all separated by bars. Reading
accepts the parts in any order, blanks around them, and any number of hexadecimal parts.
-/

namespace TrackSelection

namespace Flags

def namedParts (names : List String) (bits : UInt32) : List String :=
  names.zipIdx.filterMap fun (name, i) => if bits.toNat.testBit i then some name else none

def unnamedBits (names : List String) (bits : UInt32) : Nat :=
  bits.toNat >>> names.length <<< names.length

def render (names : List String) (bits : UInt32) : String :=
  let unnamed := unnamedBits names bits
  let last := if unnamed = 0 then [] else ["0x" ++ String.ofList (Text.writeHex unnamed)]
  " | ".intercalate (namedParts names bits ++ last)

/-- The number after `0x`: at least one digit, after at most one plus sign, and at most 32 bits. -/
def hexBits? (cs : List Char) : Option UInt32 :=
  let digits := match cs with
    | '+' :: rest => rest
    | rest => rest
  if digits.isEmpty then none
  else (Text.readHex? 0 digits).bind fun number =>
    if number < UInt32.size then some (UInt32.ofNat number) else none

def partBits? (names : List String) (part : List Char) : Option UInt32 :=
  match part with
  | '0' :: 'x' :: digits => hexBits? digits
  | name => (names.idxOf? (String.ofList name)).map fun i => UInt32.ofNat (1 <<< i)

/-- The flag set written by a text; a blank text is the empty set. -/
def parse? (names : List String) (text : String) : Option UInt32 :=
  let cs := text.toList
  if (Text.trimmed cs).isEmpty then some 0
  else do
    let parts ← (cs.splitOn '|').mapM fun part => partBits? names (Text.trimmed part)
    return parts.foldl (· ||| ·) 0

def intersects (a b : UInt32) : Bool :=
  a &&& b ≠ 0

def count (bits : UInt32) : Nat :=
  (List.range 32).countP bits.toNat.testBit

end Flags

/-- How a track asks to be selected. -/
structure SelectionFlags where
  bits : UInt32 := 0
deriving DecidableEq, Repr

namespace SelectionFlags

def names : List String := ["DEFAULT", "FORCED", "AUTOSELECT"]

def render (flags : SelectionFlags) : String :=
  Flags.render names flags.bits

def parse? (text : String) : Option SelectionFlags :=
  (Flags.parse? names text).map (⟨·⟩)

def describe (flags : SelectionFlags) : String :=
  let text := if flags.bits = 0 then "0x0" else flags.render
  s!"SelectionFlags({text})"

/-- Selected unless the user prefers another track. -/
def isDefault (flags : SelectionFlags) : Bool :=
  flags.bits.toNat.testBit 0

/-- Shown in any case, such as subtitles for foreign dialogue. -/
def isForced (flags : SelectionFlags) : Bool :=
  flags.bits.toNat.testBit 1

/-- The flags with a name that a set does not have. -/
def complement (flags : SelectionFlags) : SelectionFlags :=
  ⟨~~~flags.bits &&& UInt32.ofNat (1 <<< names.length - 1)⟩

/-- The flags that are not masked. Flags without a name are dropped with them. -/
def without (flags mask : SelectionFlags) : SelectionFlags :=
  ⟨flags.bits &&& mask.complement.bits⟩

end SelectionFlags

structure RoleFlags where
  bits : UInt32 := 0
deriving DecidableEq, Repr

namespace RoleFlags

def names : List String :=
  ["MAIN", "ALTERNATE", "SUPPLEMENTARY", "COMMENTARY", "DUB", "EMERGENCY", "CAPTION", "SUBTITLE",
   "SIGN", "DESCRIBES_VIDEO", "DESCRIBES_MUSIC_AND_SOUND", "ENHANCED_DIALOG_INTELLIGIBILITY",
   "TRANSCRIBES_DIALOG", "EASY_TO_READ", "TRICK_PLAY"]

def render (flags : RoleFlags) : String :=
  Flags.render names flags.bits

def parse? (text : String) : Option RoleFlags :=
  (Flags.parse? names text).map (⟨·⟩)

def describe (flags : RoleFlags) : String :=
  let text := if flags.bits = 0 then "0x0" else flags.render
  s!"RoleFlags({text})"

/-- Captions, and descriptions of music and sound. -/
def captions : RoleFlags := ⟨64 + 1024⟩

def hasCaptions (flags : RoleFlags) : Bool :=
  Flags.intersects flags.bits captions.bits

def shared (a b : RoleFlags) : Nat :=
  Flags.count (a.bits &&& b.bits)

end RoleFlags

end TrackSelection
