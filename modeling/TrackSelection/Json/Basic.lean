import TrackSelection.Number.Double

/-!
# JSON values

A literal can be well formed and still denote nothing: a number too large for a double, or a string
with an unpaired surrogate escape. Such a literal is kept as `none`, since it does no harm in a
member that nobody reads, and is refused by whoever reads it.
-/

namespace TrackSelection

/-- The number of a JSON literal. Only a literal without fraction and exponent that fits 64 bits is
an integer. -/
inductive Json.Number where
  | integer (value : Int)
  | real (value : Number.Double)
deriving DecidableEq, Repr

/-- A JSON value. Members of an object keep their order and may repeat. -/
inductive Json where
  | null
  | bool (value : Bool)
  | number (value : Option Json.Number)
  | string (value : Option String)
  | array (items : List Json)
  | object (members : List (Option String × Json))

namespace Json

mutual

/-- Equality of values is decided member by member. -/
def decEq : (a b : Json) → Decidable (a = b)
  | .null, b => match b with
    | .null => isTrue rfl
    | .bool _ | .number _ | .string _ | .array _ | .object _ => isFalse (by simp)
  | .bool x, b => match b with
    | .bool y => decidable_of_iff (x = y) (by simp)
    | .null | .number _ | .string _ | .array _ | .object _ => isFalse (by simp)
  | .number x, b => match b with
    | .number y => decidable_of_iff (x = y) (by simp)
    | .null | .bool _ | .string _ | .array _ | .object _ => isFalse (by simp)
  | .string x, b => match b with
    | .string y => decidable_of_iff (x = y) (by simp)
    | .null | .bool _ | .number _ | .array _ | .object _ => isFalse (by simp)
  | .array x, b => match b with
    | .array y => @decidable_of_iff _ (x = y) (by simp) (decEqItems x y)
    | .null | .bool _ | .number _ | .string _ | .object _ => isFalse (by simp)
  | .object x, b => match b with
    | .object y => @decidable_of_iff _ (x = y) (by simp) (decEqMembers x y)
    | .null | .bool _ | .number _ | .string _ | .array _ => isFalse (by simp)

def decEqItems : (a b : List Json) → Decidable (a = b)
  | [], [] => isTrue rfl
  | [], _ :: _ | _ :: _, [] => isFalse (by simp)
  | x :: xs, y :: ys =>
    have := decEq x y
    have := decEqItems xs ys
    decidable_of_iff (x = y ∧ xs = ys) (by simp)

def decEqMembers : (a b : List (Option String × Json)) → Decidable (a = b)
  | [], [] => isTrue rfl
  | [], _ :: _ | _ :: _, [] => isFalse (by simp)
  | (k, x) :: xs, (l, y) :: ys =>
    have := decEq x y
    have := decEqMembers xs ys
    decidable_of_iff ((k = l ∧ x = y) ∧ xs = ys) (by simp)

end

instance : DecidableEq Json := decEq

def text (value : String) : Json :=
  .string (some value)

def int (value : Int) : Json :=
  .number (some (.integer value))

def nat (value : Nat) : Json :=
  int value

/-- An optional value, `null` when it is missing. -/
def orNull (encode : α → Json) : Option α → Json
  | none => .null
  | some value => encode value

def list (encode : α → Json) (items : List α) : Json :=
  .array (items.map encode)

def record (members : List (String × Json)) : Json :=
  .object (members.map fun (name, value) => (some name, value))

end Json

end TrackSelection
