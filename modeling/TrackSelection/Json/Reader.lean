import TrackSelection.Json.Basic
import TrackSelection.Text.Hex

/-!
# Reading JSON text

A text is cut into tokens, and the tokens are folded into a value over a stack of the containers
that are still open. Nesting is therefore not limited here. Strictness is that of the standard: no
trailing commas, no comments, no leading zeros, blanks are space, tab, line feed and carriage
return.
-/

namespace TrackSelection.Json

/-! ## Numbers -/

/-- The longest run of leading digits of a number that fits 64 bits, and how many digits follow. -/
def leadingDigits (number : Nat) : Nat × Nat :=
  if number < UInt64.size then (number, 0)
  else
    let (leading, dropped) := leadingDigits (number / 10)
    (leading, dropped + 1)
termination_by number
decreasing_by
  rename_i long
  rw [UInt64.size] at long
  omega

/-- Append fraction digits to a significand while it fits 64 bits; the rest is dropped. The second
component counts the digits that were taken. -/
def takeFraction (significand taken : Nat) : List Nat → Nat × Nat
  | [] => (significand, taken)
  | digit :: rest =>
    let longer := 10 * significand + digit
    if longer < UInt64.size then takeFraction longer (taken + 1) rest else (significand, taken)

/-- The number denoted by a literal with the given sign, whole part, fraction digits and exponent.
The fraction is empty and the exponent missing when they are not written. -/
def Number.ofLiteral? (negative : Bool) (whole : Nat) (fraction : List Nat)
    (exponent : Option Int) : Option Number :=
  let value : Int := if negative then -whole else whole
  if fraction.isEmpty ∧ exponent.isNone ∧ -(UInt64.size / 2 : Nat) ≤ value ∧ value < UInt64.size ∧
      (negative → whole ≠ 0) then
    some (.integer value)
  else
    let (leading, dropped) := leadingDigits whole
    let (significand, taken) := takeFraction leading 0 fraction
    let power : Int := dropped - taken + exponent.getD 0
    (Number.Double.ofDecimal? negative significand power).map .real

def decimalValue (digits : List Char) : Nat :=
  digits.foldl (fun number c => 10 * number + (c.toNat - 48)) 0

/-- The exponent written after the mark; at least one digit is needed. -/
def exponent? : List Char → Option Int
  | '+' :: digits => unsigned? digits
  | '-' :: digits => (unsigned? digits).map (- ·)
  | digits => unsigned? digits
where
  /-- Digits only. -/
  unsigned? (digits : List Char) : Option Int :=
    if !digits.isEmpty && digits.all Char.isDigit then some (decimalValue digits) else none

/-- The part of a literal after its whole part: an optional fraction, then an optional exponent. -/
def fractionAndExponent? (cs : List Char) : Option (List Nat × Option Int) :=
  match cs with
  | [] => some ([], none)
  | '.' :: rest =>
    let digits := rest.takeWhile Char.isDigit
    let fraction := digits.map fun c => c.toNat - 48
    if digits.isEmpty then none
    else match rest.dropWhile Char.isDigit with
      | [] => some (fraction, none)
      | mark :: power =>
        if mark = 'e' ∨ mark = 'E' then (exponent? power).map fun e => (fraction, some e) else none
  | mark :: power =>
    if mark = 'e' ∨ mark = 'E' then (exponent? power).map fun e => ([], some e) else none

/-- The number of a literal without its sign. The outer `none` means that it is ill formed. -/
def unsignedLiteral? (negative : Bool) (cs : List Char) : Option (Option Number) :=
  let digits := cs.takeWhile Char.isDigit
  if digits.isEmpty ∨ (digits.head? = some '0' ∧ 1 < digits.length) then none
  else (fractionAndExponent? (cs.dropWhile Char.isDigit)).map fun (fraction, exponent) =>
    Number.ofLiteral? negative (decimalValue digits) fraction exponent

/-! ## Strings -/

/-- Code points with surrogates from escapes joined in pairs; `none` when one is left alone. -/
def joinSurrogates : List Nat → Option (List Char)
  | [] => some []
  | code :: rest =>
    if 0xD800 ≤ code ∧ code < 0xDC00 then
      match rest with
      | low :: rest =>
        if 0xDC00 ≤ low ∧ low < 0xE000 then
          (joinSurrogates rest).map
            (Char.ofNat (0x10000 + (code - 0xD800) * 0x400 + (low - 0xDC00)) :: ·)
        else none
      | [] => none
    else if 0xDC00 ≤ code ∧ code < 0xE000 then none
    else (joinSurrogates rest).map (Char.ofNat code :: ·)

/-- The code point of a one-letter escape. -/
def simpleEscape? (c : Char) : Option Nat :=
  match c with
  | 'b' => some 8
  | 't' => some 9
  | 'n' => some 10
  | 'f' => some 12
  | 'r' => some 13
  | '/' => some 47
  | '\x22' => some 34
  | '\x5c' => some 92
  | _ => none

/-- The code points of a string up to its closing quote, last first, and the text after it. -/
def stringBody (codes : List Nat) : List Char → Option (List Nat × List Char)
  | [] => none
  | '\x22' :: rest => some (codes, rest)
  | '\x5c' :: 'u' :: a :: b :: c :: d :: rest =>
    match Text.readHex? 0 [a, b, c, d] with
    | some code => stringBody (code :: codes) rest
    | none => none
  | '\x5c' :: c :: rest =>
    match simpleEscape? c with
    | some code => stringBody (code :: codes) rest
    | none => none
  | c :: rest => if c.toNat < 32 then none else stringBody (c.toNat :: codes) rest

theorem length_stringBody {codes out : List Nat} {cs rest : List Char}
    (h : stringBody codes cs = some (out, rest)) : rest.length ≤ cs.length := by
  fun_induction stringBody codes cs <;> simp_all <;> omega

theorem length_dropWhile_le (p : Char → Bool) (cs : List Char) :
    (cs.dropWhile p).length ≤ cs.length := by
  induction cs with
  | nil => simp
  | cons c rest ih =>
    rw [List.dropWhile_cons]
    split
    · exact Nat.le_succ_of_le ih
    · exact Nat.le_refl _

/-! ## Tokens -/

/-- The tokens of a JSON text: punctuation, and values that are not containers. -/
inductive Token where
  | comma
  | colon
  | openArray
  | closeArray
  | openObject
  | closeObject
  | scalar (value : Json)

def punctuation? (c : Char) : Option Token :=
  match c with
  | ',' => some .comma
  | ':' => some .colon
  | '[' => some .openArray
  | ']' => some .closeArray
  | '\x7b' => some .openObject
  | '\x7d' => some .closeObject
  | _ => none

/-- The characters of keywords and numbers after the first. -/
def isWordChar (c : Char) : Bool :=
  c.isAlphanum || c == '+' || c == '-' || c == '.'

/-- The value of a keyword or a number. -/
def word? (cs : List Char) : Option Json :=
  match cs with
  | ['n', 'u', 'l', 'l'] => some .null
  | ['t', 'r', 'u', 'e'] => some (.bool true)
  | ['f', 'a', 'l', 's', 'e'] => some (.bool false)
  | '-' :: rest => (unsignedLiteral? true rest).map .number
  | rest => (unsignedLiteral? false rest).map .number

/-- Cut a text into tokens, collected last first. -/
def tokens? (found : List Token) (cs : List Char) : Option (List Token) :=
  match cs with
  | [] => some found.reverse
  | c :: rest =>
    if c = ' ' ∨ c = '\t' ∨ c = '\n' ∨ c = '\r' then tokens? found rest
    else match punctuation? c with
    | some token => tokens? (token :: found) rest
    | none =>
      if c = '\x22' then
        match _body : stringBody [] rest with
        | none => none
        | some (codes, after) =>
          let value := (joinSurrogates codes.reverse).map String.ofList
          tokens? (.scalar (.string value) :: found) after
      else match word? (c :: rest.takeWhile isWordChar) with
        | none => none
        | some value => tokens? (.scalar value :: found) (rest.dropWhile isWordChar)
termination_by cs.length
decreasing_by
  · simp
  · simp
  · have := length_stringBody _body
    simp only [List.length_cons]
    omega
  · have := length_dropWhile_le isWordChar rest
    simp only [List.length_cons]
    omega

/-! ## Values -/

/-- A container that is still open, with what it holds so far, last first. -/
inductive Frame where
  | items (done : List Json)
  | members (done : List (Option String × Json))
  | member (done : List (Option String × Json)) (key : Option String)

inductive Expects where
  /-- A value. -/
  | value
  /-- The first item of an array, or its end. -/
  | firstItem
  /-- The first key of an object, or its end. -/
  | firstKey
  /-- A key. -/
  | key
  /-- The colon after a key. -/
  | colon
  /-- What follows a complete value. -/
  | follow (value : Json)

def begin? (frames : List Frame) : Token → Option (List Frame × Expects)
  | .scalar value => some (frames, .follow value)
  | .openArray => some (.items [] :: frames, .firstItem)
  | .openObject => some (.members [] :: frames, .firstKey)
  | _ => none

def advance? : List Frame → Expects → Token → Option (List Frame × Expects)
  | .items done :: outer, .follow value, .comma => some (.items (value :: done) :: outer, .value)
  | .items done :: outer, .follow value, .closeArray =>
    some (outer, .follow (.array (value :: done).reverse))
  | .member done key :: outer, .follow value, .comma =>
    some (.members ((key, value) :: done) :: outer, .key)
  | .member done key :: outer, .follow value, .closeObject =>
    some (outer, .follow (.object ((key, value) :: done).reverse))
  | _, .follow _, _ => none
  | .items _ :: outer, .firstItem, .closeArray => some (outer, .follow (.array []))
  | .members _ :: outer, .firstKey, .closeObject => some (outer, .follow (.object []))
  | .members done :: outer, .firstKey, .scalar (.string key) =>
    some (.member done key :: outer, .colon)
  | .members done :: outer, .key, .scalar (.string key) => some (.member done key :: outer, .colon)
  | frames, .colon, .colon => some (frames, .value)
  | frames, .value, token => begin? frames token
  | frames, .firstItem, token => begin? frames token
  | _, _, _ => none

/-- Fold tokens into the one value they write. -/
def build? (frames : List Frame) (expects : Expects) : List Token → Option Json
  | [] => match frames, expects with
    | [], .follow value => some value
    | _, _ => none
  | token :: rest => match advance? frames expects token with
    | some (frames, expects) => build? frames expects rest
    | none => none

def read? (text : String) : Option Json :=
  (tokens? [] text.toList).bind (build? [] .value)

end TrackSelection.Json
