/-!
# Hexadecimal numerals

Digits are read in either case and written in lower case.
-/

namespace TrackSelection.Text

def hexValue? (c : Char) : Option Nat :=
  if c.isDigit then some (c.toNat - 48)
  else if 97 ≤ c.toNat ∧ c.toNat ≤ 102 then some (c.toNat - 87)
  else if 65 ≤ c.toNat ∧ c.toNat ≤ 70 then some (c.toNat - 55)
  else none

/-- The number written by some digits, read on from the number of the digits before them. -/
def readHex? (number : Nat) : List Char → Option Nat
  | [] => some number
  | c :: rest => (hexValue? c).bind fun digit => readHex? (16 * number + digit) rest

def hexDigit (value : Nat) : Char :=
  if value < 10 then Char.ofNat (48 + value) else Char.ofNat (87 + value)

/-- Exactly `width` digits: the number modulo `16 ^ width`. -/
def writeHexPadded (width number : Nat) : List Char :=
  match width with
  | 0 => []
  | width + 1 => writeHexPadded width (number / 16) ++ [hexDigit (number % 16)]

/-- The digits of a number without leading zeros; zero has one digit. -/
def writeHex (number : Nat) : List Char :=
  if number < 16 then [hexDigit number]
  else writeHex (number / 16) ++ [hexDigit (number % 16)]
termination_by number

theorem hexValue?_hexDigit {value : Nat} (below : value < 16) :
    hexValue? (hexDigit value) = some value := by
  have all : ∀ value < 16, hexValue? (hexDigit value) = some value := by decide
  exact all value below

theorem readHex?_append (number : Nat) (first last : List Char) :
    readHex? number (first ++ last) = (readHex? number first).bind (readHex? · last) := by
  induction first generalizing number with
  | nil => rfl
  | cons c rest ih =>
      rw [List.cons_append, readHex?, readHex?]
      cases hexValue? c with
      | none => rfl
      | some digit => exact ih (16 * number + digit)

/-- A number is read back from its digits. -/
theorem readHex?_writeHex (number : Nat) : readHex? 0 (writeHex number) = some number := by
  fun_induction writeHex number with
  | case1 number below => simp [readHex?, hexValue?_hexDigit below]
  | case2 number large ih =>
      have digit : number % 16 < 16 := Nat.mod_lt number (by decide)
      rw [readHex?_append, ih, Option.bind_some, readHex?, hexValue?_hexDigit digit,
        Option.bind_some, readHex?, Nat.div_add_mod]

theorem exists_hexDigit_of_mem_writeHex {number : Nat} {c : Char} (mem : c ∈ writeHex number) :
    ∃ value < 16, c = hexDigit value := by
  fun_induction writeHex number with
  | case1 number below => exact ⟨number, below, List.mem_singleton.mp mem⟩
  | case2 number large ih =>
      rcases List.mem_append.mp mem with front | last
      · exact ih front
      · exact ⟨number % 16, Nat.mod_lt number (by decide), List.mem_singleton.mp last⟩

end TrackSelection.Text
