import TrackSelection.Json.Basic

/-!
# Frame rates

A frame rate is a single precision number, kept as its bit pattern: equality is equality of bits.
Its magnitude is counted in units of the least positive single, `2 ^ -149`.
-/

namespace TrackSelection

/-- Frames per second, as the bits of a single precision number. -/
structure FrameRate where
  bits : UInt32
deriving DecidableEq, Repr

namespace FrameRate

def infinityBits : Nat := 0x7F800000

/-- The number with a sign and a magnitude in units; counts from `2 ^ 128` on are infinite. -/
def ofUnits (negative : Bool) (units : Nat) : FrameRate :=
  let shift := units.log2 - 23
  let magnitude := if 1 <<< 277 ≤ units then infinityBits else shift <<< 23 + units >>> shift
  ⟨UInt32.ofNat (magnitude + if negative then 0x80000000 else 0)⟩

/-- The single nearest an integer. -/
def ofInt (value : Int) : FrameRate :=
  ofUnits (value < 0) (Number.roundBits 24 (value.natAbs <<< 149))

/-- The single nearest a double. -/
def ofDouble (value : Number.Double) : FrameRate :=
  ofUnits value.negative (Number.roundRatio 24 value.units (1 <<< 925))

def ofJson? : Json → Option FrameRate
  | .number (some (.integer value)) => some (ofInt value)
  | .number (some (.real value)) => some (ofDouble value)
  | _ => none

def isNegative (rate : FrameRate) : Bool :=
  0x80000000 ≤ rate.bits.toNat

def magnitudeBits (rate : FrameRate) : Nat :=
  rate.bits.toNat % 0x80000000

/-- Whether the number is neither infinite nor undefined. -/
def isFinite (rate : FrameRate) : Bool :=
  rate.magnitudeBits < infinityBits

/-- The magnitude of a finite number in units. -/
def units (rate : FrameRate) : Nat :=
  let exponent := rate.magnitudeBits >>> 23
  let fraction := rate.magnitudeBits % 0x800000
  if exponent = 0 then fraction else (0x800000 + fraction) <<< (exponent - 1)

/-- Whether the rate is at most the single nearest a limit. -/
def atMost (rate : FrameRate) (limit : UInt32) : Bool :=
  if infinityBits < rate.magnitudeBits then false
  else if rate.isNegative then true
  else rate.isFinite && rate.units ≤ Number.roundBits 24 limit.toNat <<< 149

/-- Digits padded with zeros on the left to three places. -/
private def threeDigits (value : Nat) : String :=
  let text := toString value
  String.ofList (List.replicate (3 - text.length) '0') ++ text

/-- The exact value with three decimals; a half goes to the even neighbour. -/
def render (rate : FrameRate) : String :=
  let sign := if rate.isNegative then "-" else ""
  if infinityBits < rate.magnitudeBits then "NaN"
  else if rate.isFinite then
    let thousandths := Number.nearestEven (rate.units * 1000) (1 <<< 149)
    s!"{sign}{thousandths / 1000}.{threeDigits (thousandths % 1000)}"
  else s!"{sign}inf"

end FrameRate

end TrackSelection
