import TrackSelection.Number.Rounding

/-!
# Finite double precision numbers

A double is a sign and a count of the least positive double, `2 ^ -1074`. Decimals are read in
double precision throughout: the leading digits are rounded once, the power of ten is rounded once,
and their product or quotient is rounded once more.
-/

namespace TrackSelection.Number

/-- A finite double: a sign and a count of units of `2 ^ -1074`. -/
structure Double where
  negative : Bool
  units : Nat
deriving DecidableEq, Repr

namespace Double

/-- The number one, in units. -/
def one : Nat := 1 <<< 1074

/-- The first count of units beyond the finite doubles, `2 ^ 1024`. -/
def bound : Nat := 1 <<< 2098

/-- The units of the double nearest `num / den`. -/
def nearest (num den : Nat) : Nat :=
  roundRatio 53 (num * one) den

/-- The units of the double nearest a power of ten. -/
def ten (power : Nat) : Nat :=
  nearest (Nat.pow 10 power) 1

/-- Divide by a power of ten, in steps of at most `10 ^ 308`. -/
def overTens (units power : Nat) : Nat :=
  if power ≤ 308 then roundRatio 53 (units * one) (ten power)
  else if units = 0 then 0
  else overTens (roundRatio 53 (units * one) (ten 308)) (power - 308)
termination_by power

/-- Multiply by a power of ten; `none` when the product is not finite. -/
def timesTens? (units power : Nat) : Option Nat :=
  if units = 0 then some 0
  else if 308 < power then none
  else
    let product := roundRatio 53 (units * ten power) one
    if product < bound then some product else none

/-- Read `significand * 10 ^ exponent`; `none` when it is not finite. -/
def ofDecimal? (negative : Bool) (significand : Nat) (exponent : Int) : Option Double :=
  let units := nearest significand 1
  match exponent with
  | .ofNat power => (timesTens? units power).map (⟨negative, ·⟩)
  | .negSucc power => some ⟨negative, overTens units (power + 1)⟩

/-- Zero without a sign; every other number as it is. -/
def unsignedZero (d : Double) : Double :=
  if d.units = 0 then ⟨false, 0⟩ else d

/-- The exact value `digits * 10 ^ exponent` rounded to units, for reading digits back. -/
private def readBack (digits : Nat) (exponent : Int) : Nat :=
  match exponent with
  | .ofNat power => nearest (digits * Nat.pow 10 power) 1
  | .negSucc power => nearest digits (Nat.pow 10 (power + 1))

/-- A count of units over `10 ^ exponent`, as a numerator and a denominator. -/
private def overPower (units : Nat) (exponent : Int) : Nat × Nat :=
  match exponent with
  | .ofNat power => (units, one * Nat.pow 10 power)
  | .negSucc power => (units * Nat.pow 10 (power + 1), one)

/-- The greatest exponent of ten not above a positive count of units, searched downwards. -/
private def leadingExponent (units fuel : Nat) : Int :=
  match fuel with
  | 0 => -324
  | fuel + 1 =>
    let exponent : Int := (fuel : Int) - 324
    let (num, den) := overPower units exponent
    if den ≤ num then exponent else leadingExponent units fuel

/-- A decimal on the grid of `10 ^ exponent` that reads back as a count of units: the nearest one,
or else the one on the other side. -/
private def onGrid? (units : Nat) (exponent : Int) : Option (Nat × Int) :=
  let (num, den) := overPower units exponent
  let near := nearestEven num den
  let far := if near * den ≤ num then near + 1 else near - 1
  ([near, far].find? fun digits => readBack digits exponent == units).map (·, exponent)

/-- Move trailing zeros of the digits into the exponent. -/
private def stripZeros (digits : Nat) (exponent : Int) : Nat × Int :=
  if h : 0 < digits ∧ digits % 10 = 0 then stripZeros (digits / 10) (exponent + 1)
  else (digits, exponent)
termination_by digits
decreasing_by omega

/-- The decimal with the fewest digits that reads back as a positive count of units. -/
def shortest (units : Nat) : Nat × Int :=
  let leading := leadingExponent units 634
  let found := (List.range 17).findSome? fun (digits : Nat) => onGrid? units (leading - digits)
  found.elim (0, 0) fun (digits, exponent) => stripZeros digits exponent

/-- Lay digits out around a decimal point that stands after `point` of them. -/
private def positional (digits : List Char) (point : Int) : List Char :=
  match point with
  | .ofNat 0 => '0' :: '.' :: digits
  | .ofNat point =>
    let fraction := digits.drop point
    digits.take point ++ List.replicate (point - digits.length) '0' ++ '.' ::
      (if fraction.isEmpty then ['0'] else fraction)
  | .negSucc missing => '0' :: '.' :: (List.replicate (missing + 1) '0' ++ digits)

private def scientific (digits : List Char) (exponent : Int) : List Char :=
  let fraction := digits.drop 1
  digits.take 1 ++ (if fraction.isEmpty then [] else '.' :: fraction) ++ 'e' ::
    (toString exponent).toList

/-- The fewest digits that read back. Numbers from `10 ^ -5` up to `10 ^ 16` are written with a
decimal point and at least one digit on both sides of it, others with an exponent. -/
def render (d : Double) : String :=
  let sign := if d.negative then ['-'] else []
  if d.units = 0 then String.ofList (sign ++ ['0', '.', '0'])
  else
    let (digits, exponent) := shortest d.units
    let text := Nat.toDigits 10 digits
    let point := exponent + text.length
    if -5 < point ∧ point ≤ 16 then String.ofList (sign ++ positional text point)
    else String.ofList (sign ++ scientific text (point - 1))

end Double

end TrackSelection.Number
