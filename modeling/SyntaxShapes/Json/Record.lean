import SyntaxShapes.Json.ReadError

/-!
# `SyntaxShapes.Json.Record` — records as JSON objects

A record type is described by its fields: each has a key, a type taken from some universe of field types,
and perhaps a default. From that description follow reading and writing, so that both sides, and the order
in which faults are found, are fixed in one place.

Reading an object first checks the fields that are present, in the order of the object's keys; then it
looks for each field in declaration order, and the first one that is absent without a default is the
fault. Keys that name no field are ignored.

## Contents
- **Descriptions.** `Field`, `Values`.
- **Objects.** `checkPresent`, `fill`, `readObject`, `members`.
- **Arrays.** `readArray`, for records that may also be written as the list of their fields.
-/

namespace SyntaxShapes.Json

/-- A field of a record, its type taken from the universe `El`. -/
structure Field {τ : Type} (El : τ → Type) where
  /-- The key under which the field stands. -/
  key : String
  /-- The type of its values. -/
  type : τ
  /-- The value that it has when it is absent, if it may be. -/
  default? : Option (El type)

/-- A value for each field. -/
def Values {τ : Type} {El : τ → Type} : List (Field El) → Type
  | [] => Unit
  | f :: fs => El f.type × Values fs

section

variable {τ : Type} {El : τ → Type}

/-! ## Objects -/

/-- Checks the fields that are present in an object, in the order of its keys. -/
def checkPresent (read : (t : τ) → Value → Except ReadError (El t)) (fields : List (Field El)) :
    Members → Except ReadError Unit
  | [] => .ok ()
  | (k, v) :: ms =>
    match fields.find? (fun f => f.key == k) with
    | none => checkPresent read fields ms
    | some f =>
      match read f.type v with
      | .error e => .error e
      | .ok _ => checkPresent read fields ms

/-- The value of each field of an object, in declaration order. -/
def fill (read : (t : τ) → Value → Except ReadError (El t)) :
    (fields : List (Field El)) → Members → Except ReadError (Values fields)
  | [], _ => .ok ()
  | f :: fs, ms =>
    match ms.get? f.key, f.default? with
    | some v, _ => do return (← read f.type v, ← fill read fs ms)
    | none, some d => do return (d, ← fill read fs ms)
    | none, none => .error (.missingField f.key)

/-- Reads a record from an object. -/
def readObject (read : (t : τ) → Value → Except ReadError (El t)) (fields : List (Field El))
    (ms : Members) : Except ReadError (Values fields) := do
  checkPresent read fields ms
  fill read fields ms

/-- The members of a record's object, in declaration order. -/
def members (write : (t : τ) → El t → Value) : (fields : List (Field El)) → Values fields → Members
  | [], _ => []
  | f :: fs, (x, xs) => (f.key, write f.type x) :: members write fs xs

theorem keys_members (write : (t : τ) → El t → Value) (fields : List (Field El)) (xs : Values fields) :
    (members write fields xs).map (·.1) = fields.map (·.key) := by
  induction fields with
  | nil => rfl
  | cons f fs ih =>
    obtain ⟨x, xs⟩ := xs
    simp [members, ih]

/-! ## Arrays -/

/-- Reads fields from the items of an array, in declaration order; `short` is the fault when a field
without a default is not reached, given its place among the fields. -/
def readItems (read : (t : τ) → Value → Except ReadError (El t)) (short : Nat → ReadError) :
    (fields : List (Field El)) → (position : Nat) → List Value → Except ReadError (Values fields)
  | [], _, _ => .ok ()
  | f :: fs, i, [] =>
    match f.default? with
    | some d => do return (d, ← readItems read short fs (i + 1) [])
    | none => .error (short i)
  | f :: fs, i, v :: vs => do return (← read f.type v, ← readItems read short fs (i + 1) vs)

/-- Reads a record from an array of its fields. -/
def readArray (read : (t : τ) → Value → Except ReadError (El t)) (place : Place) (name : String)
    (fields : List (Field El)) (vs : List Value) : Except ReadError (Values fields) := do
  let xs ← readItems read (fun i => .tooShort i name fields.length) fields 0 vs
  if fields.length < vs.length then .error (.tooLong place vs.length fields.length) else return xs

end

end SyntaxShapes.Json
