import SyntaxShapes.Decimal.Binary64

/-!
# `SyntaxShapes.Json.Value` — JSON values

A JSON value as a tree. Integers and floating-point numbers are kept apart, and an object keeps the
order of its members, because both show in what is reported about a value.

## Contents
- **`Number`, `Value`, `Members`.** The tree.
- **`Members.put`, `Members.get?`.** A repeated key keeps its first place (`keys_put`) and takes the last value.
- **`typeName`.** The six types of value.
-/

namespace SyntaxShapes.Json

/-- A number: an integer, or a floating-point number. -/
inductive Number
  | int (i : Int)
  | float (x : Binary64)
  deriving DecidableEq, Repr

/-- A JSON value. -/
inductive Value
  | null
  | bool (b : Bool)
  | number (n : Number)
  | string (s : String)
  | array (items : List Value)
  | object (members : List (String × Value))
  deriving Repr

/-- The members of an object, in order. -/
abbrev Members := List (String × Value)

namespace Members

/-- The value under a key. -/
def get? (key : String) (ms : Members) : Option Value :=
  ms.lookup key

/-- The members with a value put under a key: in the place of the value that was there, else last. -/
def put (key : String) (v : Value) : Members → Members
  | [] => [(key, v)]
  | (k, w) :: ms => if k = key then (k, v) :: ms else (k, w) :: put key v ms

/-- A key is added at the end, and only when it is new. -/
theorem keys_put (key : String) (v : Value) (ms : Members) :
    (put key v ms).map (·.1) =
      if key ∈ ms.map (·.1) then ms.map (·.1) else ms.map (·.1) ++ [key] := by
  induction ms with
  | nil => simp [put]
  | cons m ms ih =>
    obtain ⟨k, w⟩ := m
    by_cases h : k = key
    · simp [put, h]
    · have h' : ¬key = k := fun e => h e.symm
      simp only [put, h, if_false, List.map_cons, ih, List.mem_cons, h', false_or]
      split <;> simp_all

end Members

namespace Value

/-- The name of a value's type. -/
def typeName : Value → String
  | .null => "null"
  | .bool _ => "bool"
  | .number _ => "number"
  | .string _ => "string"
  | .array _ => "array"
  | .object _ => "object"

/-- A natural number as a value. -/
def nat (n : Nat) : Value := .number (.int n)

/-- A floating-point number as a value. What is no real number has no JSON form and becomes `null`. -/
def ofBinary64 (x : Binary64) : Value :=
  if x.isFinite then .number (.float x) else .null

end Value

end SyntaxShapes.Json
