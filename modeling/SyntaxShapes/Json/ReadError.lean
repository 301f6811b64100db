import SyntaxShapes.Json.Value
import SyntaxShapes.Decimal.Shortest
import SyntaxShapes.Text.Quoted

/-!
# `SyntaxShapes.Json.ReadError` — why a JSON value could not be read

Reading a JSON value as a typed one fails for one of a few causes. The cause is data; its wording is one
function.

## Contents
- **Causes.** `Found` (what stood there), `Expectation` (what should have), `ReadError`.
- **Wording.** `ReadError.message`.
-/

namespace SyntaxShapes.Json

/-- What kind of value stood in a place, with the value itself when it is a scalar. -/
inductive Found
  | null
  | boolean (b : Bool)
  | integer (i : Int)
  | float (x : Binary64)
  | string (s : String)
  | sequence
  | map
  deriving DecidableEq, Repr

/-- What kind of value a value is. -/
def Value.found : Value → Found
  | .null => .null
  | .bool b => .boolean b
  | .number (.int i) => .integer i
  | .number (.float x) => .float x
  | .string s => .string s
  | .array _ => .sequence
  | .object _ => .map

/-- What was expected in a place. -/
inductive Expectation
  | u16 | u32 | size | f64 | boolean | string | sequence | unit | stringOrMap | variantIdentifier
  /-- The position of one of some alternatives. -/
  | variantIndex (count : Nat)
  /-- A record with named fields. -/
  | record (name : String)
  /-- An alternative that names itself under one of its keys. -/
  | tagged (name : String)
  deriving DecidableEq, Repr

/-- The wording of an expectation. -/
def Expectation.text : Expectation → String
  | .u16 => "u16"
  | .u32 => "u32"
  | .size => "usize"
  | .f64 => "f64"
  | .boolean => "a boolean"
  | .string => "a string"
  | .sequence => "a sequence"
  | .unit => "unit"
  | .stringOrMap => "string or map"
  | .variantIdentifier => "variant identifier"
  | .variantIndex count => "variant index 0 <= i < " ++ toString count
  | .record name => "struct " ++ name
  | .tagged name => "internally tagged enum " ++ name

/-- Where a value is read: by itself, or as a field inside a node. Inside a node an empty object counts
as nothing, and a list that is too long is reported differently. -/
inductive Place
  | alone | inNode
  deriving DecidableEq, Repr

/-- Why a JSON value could not be read. -/
inductive ReadError
  /-- A value of another type stood there. -/
  | wrongType (found : Found) (expected : Expectation)
  /-- An integer stood there that is too small or too large. -/
  | outOfRange (i : Int) (expected : Expectation)
  /-- A name stood there that is none of the known ones. -/
  | unknownVariant (name : String) (known : List String)
  /-- An object stood for an alternative without having exactly one key. -/
  | notSingleKey
  /-- A field that has no default is absent. -/
  | missingField (key : String)
  /-- An array ends before a field that has no default. -/
  | tooShort (length : Nat) (record : String) (fields : Nat)
  /-- An array has more elements than the record has fields. -/
  | tooLong (place : Place) (length : Nat) (fields : Nat)
  deriving DecidableEq, Repr

/-- The wording of a kind of value. -/
def Found.text : Found → String
  | .null => "null"
  | .boolean true => "boolean `true`"
  | .boolean false => "boolean `false`"
  | .integer i => "integer `" ++ toString i ++ "`"
  | .float x => "floating point `" ++ x.text ++ "`"
  | .string s => "string " ++ Text.quoted s
  | .sequence => "sequence"
  | .map => "map"

/-- A number of elements, in words. -/
def elementCount (n : Nat) : String :=
  toString n ++ (if n = 1 then " element" else " elements")

/-- The wording of a cause. A name that is not known stands in it as it is. -/
def ReadError.message : ReadError → String
  | .wrongType found expected => "invalid type: " ++ found.text ++ ", expected " ++ expected.text
  | .outOfRange i expected => "invalid value: integer `" ++ toString i ++ "`, expected " ++ expected.text
  | .unknownVariant name known =>
    "unknown variant `" ++ name ++ "`, expected one of `" ++ "`, `".intercalate known ++ "`"
  | .notSingleKey => "invalid value: map, expected map with a single key"
  | .missingField key => "missing field `" ++ key ++ "`"
  | .tooShort length record fields =>
    "invalid length " ++ toString length ++ ", expected struct " ++ record ++ " with "
      ++ elementCount fields
  | .tooLong .inNode length fields =>
    "invalid length " ++ toString length ++ ", expected " ++ elementCount fields ++ " in sequence"
  | .tooLong .alone length _ =>
    "invalid length " ++ toString length ++ ", expected fewer elements in array"

end SyntaxShapes.Json
