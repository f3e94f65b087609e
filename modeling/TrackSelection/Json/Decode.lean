import TrackSelection.Json.Basic

/-!
# Decoding JSON values

A record comes from an object or from an array that lists its fields in order. In an object an
unknown member is ignored and a known one may stand only once; an array may be short but not long.
Whether a missing field is an error is up to the field. A variant is its name, or an object with
that name as its only key.
-/

namespace TrackSelection.Json

/-! ## Scalars -/

def bool? : Json → Option Bool
  | .bool value => some value
  | _ => none

def text? : Json → Option String
  | .string value => value
  | _ => none

/-- An integer that is not negative and below a bound. -/
def natBelow? (bound : Nat) : Json → Option Nat
  | .number (some (.integer value)) =>
    if 0 ≤ value ∧ value < bound then some value.toNat else none
  | _ => none

def uint32? (value : Json) : Option UInt32 :=
  (natBelow? UInt32.size value).map UInt32.ofNat

def uint64? (value : Json) : Option UInt64 :=
  (natBelow? UInt64.size value).map UInt64.ofNat

/-- An index: an unsigned integer of 64 bits. -/
def index? (value : Json) : Option Nat :=
  natBelow? UInt64.size value

/-- A value or `null`. -/
def optional? (decode : Json → Option α) : Json → Option (Option α)
  | .null => some none
  | value => (decode value).map some

def list? (decode : Json → Option α) : Json → Option (List α)
  | .array items => items.mapM decode
  | _ => none

/-! ## Records -/

/-- The fields of a record that are present, by name. -/
abbrev Fields := List (String × Json)

/-- The fields of a record with the given field names. -/
def fields? (names : List String) : Json → Option Fields
  | .object members => do
    let named ← members.mapM fun (key, value) => key.map fun name => (name, value)
    let known := named.filter fun (name, _) => names.contains name
    if (known.map Prod.fst).Nodup then some known else none
  | .array items => if items.length ≤ names.length then some (names.zip items) else none
  | _ => none

def Fields.required? (fields : Fields) (name : String) (decode : Json → Option α) : Option α :=
  (fields.lookup name).bind decode

/-- A field with a value to use when it is missing. -/
def Fields.withDefault? (fields : Fields) (name : String) (default : α)
    (decode : Json → Option α) : Option α :=
  match fields.lookup name with
  | none => some default
  | some value => decode value

/-- A field that may be missing or `null`. -/
def Fields.optional? (fields : Fields) (name : String) (decode : Json → Option α) :
    Option (Option α) :=
  fields.withDefault? name none (Json.optional? decode)

/-! ## Variants -/

/-- The name of a variant and its payload; a bare name has the payload `null`. -/
def variant? : Json → Option (String × Json)
  | .string name => name.map (·, .null)
  | .object [(some name, payload)] => some (name, payload)
  | _ => none

/-- A variant without payload, looked up by its name. -/
def variantOf? (ofName? : String → Option α) (value : Json) : Option α :=
  match variant? value with
  | some (name, .null) => ofName? name
  | _ => none

/-! ## Free values -/

/-- Put a member into members sorted by key, over one with the same key. -/
def insertMember (key : String) (value : Json) :
    List (Option String × Json) → List (Option String × Json)
  | [] => [(some key, value)]
  | (other, old) :: rest =>
    if some key = other then (some key, value) :: rest
    else if key < other.getD "" then (some key, value) :: (other, old) :: rest
    else (other, old) :: insertMember key value rest

mutual

/-- The free value that a JSON value denotes: literals have a meaning, the members of an object are
sorted by key and the last of equal keys stays. Fails beyond `depth` nested containers. -/
def free? (depth : Nat) : Json → Option Json
  | .null => some .null
  | .bool value => some (.bool value)
  | .number none => none
  | .number (some (.integer value)) => some (.number (some (.integer value)))
  | .number (some (.real value)) => some (.number (some (.real value)))
  | .string none => none
  | .string (some value) => some (.string (some value))
  | .array items => match depth with
    | 0 => none
    | depth + 1 => (freeItems? depth items).map .array
  | .object members => match depth with
    | 0 => none
    | depth + 1 => (freeMembers? depth [] members).map .object

def freeItems? (depth : Nat) : List Json → Option (List Json)
  | [] => some []
  | item :: rest => match free? depth item with
    | none => none
    | some value => (freeItems? depth rest).map (value :: ·)

/-- The members of a free object, put one by one into those before them. -/
def freeMembers? (depth : Nat) (done : List (Option String × Json)) :
    List (Option String × Json) → Option (List (Option String × Json))
  | [] => some done
  | (key, member) :: rest => match key, free? depth member with
    | some key, some value => freeMembers? depth (insertMember key value done) rest
    | _, _ => none

end

end TrackSelection.Json
