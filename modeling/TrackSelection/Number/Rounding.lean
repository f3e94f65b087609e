/-!
# Rounding to binary precision

Floating point numbers are counted in units of the least positive one, so that every operation on
them is exact arithmetic on natural numbers followed by one rounding. A rounding keeps a number of
leading bits, never goes below one unit, and sends a half to the even neighbour.
-/

namespace TrackSelection.Number

/-- The natural number nearest `num / den`; a half goes to the even neighbour. -/
def nearestEven (num den : Nat) : Nat :=
  let quotient := num / den
  let twice := 2 * (num % den)
  if twice < den then quotient
  else if den < twice then quotient + 1
  else if quotient % 2 = 0 then quotient
  else quotient + 1

/-- The quotient `num / den` rounded to `precision` leading bits, or to a whole number of units
where that is coarser. -/
def roundRatio (precision num den : Nat) : Nat :=
  let excess := (num / den).log2 + 1 - precision
  nearestEven num (den <<< excess) <<< excess

/-- A natural number rounded to `precision` leading bits. -/
def roundBits (precision num : Nat) : Nat :=
  roundRatio precision num 1

end TrackSelection.Number
