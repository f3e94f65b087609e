import TrackSelection.Text.Blank
import TrackSelection.Text.Extending
import TrackSelection.Text.Formatting
import TrackSelection.Text.Hex
import TrackSelection.Text.Unassigned

/-!
# Quoted text

Text in double quotes, for messages: quotes and backslashes are escaped, and characters that do not
show by themselves are written by their code.
-/

namespace TrackSelection.Text

def isControl (c : Char) : Bool :=
  c.toNat ≤ 0x1F || (0x7F ≤ c.toNat && c.toNat ≤ 0x9F)

/-- The letters that are ignored in display: the fillers of the Korean script. -/
def isFiller (c : Char) : Bool :=
  CodeRanges.contains [(0x115F, 0x1160), (0x3164, 0x3164), (0xFFA0, 0xFFA0)] c

/-- Whether a character shows nothing, or nothing by itself: controls, blanks other than the space,
formatting characters, fillers, characters that extend others, and code points without a
character. -/
def isHidden (c : Char) : Bool :=
  isControl c || (c != ' ' && isBlank c) || formattingRanges.contains c || isFiller c ||
    extendingRanges.contains c || unassignedRanges.contains c

def quotedChar (c : Char) : List Char :=
  if c = '\x22' ∨ c = '\x5c' then ['\x5c', c]
  else if c = '\t' then ['\x5c', 't']
  else if c = '\n' then ['\x5c', 'n']
  else if c = '\r' then ['\x5c', 'r']
  else if c.toNat = 0 then ['\x5c', '0']
  else if isHidden c then '\x5c' :: 'u' :: '\x7b' :: writeHex c.toNat ++ ['\x7d']
  else [c]

def quote (text : String) : String :=
  String.ofList ('\x22' :: text.toList.flatMap quotedChar ++ ['\x22'])

end TrackSelection.Text
