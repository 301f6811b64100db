import SyntaxShapes.Json.ReadError
import SyntaxShapes.Named

/-!
# `SyntaxShapes.Json.Reader` — reading scalars from JSON

Each reader takes exactly one kind of JSON value. Floating-point numbers are never read as integers, not
even whole ones; integers are read as floating-point numbers by rounding.

## Contents
- **Numbers.** `readU16`, `readU32`, `readSize`, `readFloat?`.
- **Others.** `readBool`, `readString`, and `readVariant` for the members of a vocabulary.
-/

namespace SyntaxShapes.Json

/-- Reads an integer of sixteen bits. -/
def readU16 : Value → Except ReadError UInt16
  | .number (.int i) =>
    if 0 ≤ i ∧ i < 2 ^ 16 then .ok (.ofNat i.toNat) else .error (.outOfRange i .u16)
  | v => .error (.wrongType v.found .u16)

/-- Reads an integer of thirty-two bits. -/
def readU32 : Value → Except ReadError UInt32
  | .number (.int i) =>
    if 0 ≤ i ∧ i < 2 ^ 32 then .ok (.ofNat i.toNat) else .error (.outOfRange i .u32)
  | v => .error (.wrongType v.found .u32)

/-- Reads a number of things, an integer of sixty-four bits. -/
def readSize : Value → Except ReadError UInt64
  | .number (.int i) =>
    if 0 ≤ i ∧ i < 2 ^ 64 then .ok (.ofNat i.toNat) else .error (.outOfRange i .size)
  | v => .error (.wrongType v.found .size)

/-- Reads a number that may be absent, as a floating-point number. -/
def readFloat? : Value → Except ReadError (Option Binary64)
  | .null => .ok none
  | .number (.int i) => .ok (some (.ofInt i))
  | .number (.float x) => .ok (some x)
  | v => .error (.wrongType v.found .f64)

/-- Reads a truth value. -/
def readBool : Value → Except ReadError Bool
  | .bool b => .ok b
  | v => .error (.wrongType v.found .boolean)

/-- Reads a text. -/
def readString : Value → Except ReadError String
  | .string s => .ok s
  | v => .error (.wrongType v.found .string)

/-- Reads the name of a member of a vocabulary. -/
def readName {α : Type} [Named α] (s : String) : Except ReadError α :=
  match Named.ofName? s with
  | some a => .ok a
  | none => .error (.unknownVariant s (Named.names α))

/-- Reads a value that carries nothing. -/
def readUnit : Place → Value → Except ReadError Unit
  | _, .null => .ok ()
  | .inNode, .object [] => .ok ()
  | _, v => .error (.wrongType v.found .unit)

/-- Reads a member of a vocabulary: its name, or an object whose only key is its name and whose value
there carries nothing. -/
def readVariant {α : Type} [Named α] (place : Place) : Value → Except ReadError α
  | .string s => readName s
  | .object [(k, v)] => do
    let a ← readName k
    readUnit place v
    return a
  | .object _ => .error .notSingleKey
  | v => .error (.wrongType v.found .stringOrMap)

/-- Reads each item of an array. -/
def readList {α : Type} (read : Value → Except ReadError α) : Value → Except ReadError (List α)
  | .array vs => vs.mapM read
  | v => .error (.wrongType v.found .sequence)

end SyntaxShapes.Json
