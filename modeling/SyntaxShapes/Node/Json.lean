import SyntaxShapes.Node.Basic
import SyntaxShapes.Node.Field

/-!
# `SyntaxShapes.Node.Json` — nodes as JSON objects

A node is one flat object: the fields of its header, its kind under `kind`, and the fields of its payload.
A payload by itself may also be an array: its kind, then its fields in declaration order.

Reading checks the header first, then the kind, then the payload, each by the rules of
`SyntaxShapes.Json.Record`; a key that belongs to none of them is ignored.

## Contents
- **Kind.** `Kind.read`: a name, or inside a node also a position.
- **Payload.** `Payload.readData`, `Payload.read`, `Payload.members`.
- **Node.** `headerFields`, `Node.read`, `Node.toJson`.
-/

namespace SyntaxShapes

open Json (Value Field Values ReadError Place Members)

/-! ## Kind -/

/-- Reads the kind that a payload names: by name, or inside a node also by position. -/
def Kind.read (place : Place) : Value → Except ReadError Kind
  | .string s => Json.readName s
  | .number (.int i) =>
    if place = .inNode ∧ 0 ≤ i then
      match Kind.ofPosition? i.toNat with
      | some k => .ok k
      | none => .error (.outOfRange i (.variantIndex Kind.all.length))
    else .error (.wrongType (.integer i) .variantIdentifier)
  | v => .error (.wrongType v.found .variantIdentifier)

/-- Reads the kind from the members of an object. -/
def Kind.readFrom (place : Place) (ms : Members) : Except ReadError Kind :=
  match ms.get? "kind" with
  | some v => Kind.read place v
  | none => .error (.missingField "kind")

/-! ## Payload -/

namespace Payload

/-- Reads the data of a kind from the members of an object. -/
def readData (k : Kind) (ms : Members) : Except ReadError Payload :=
  ofData k <$> Record.read .inNode ms

/-- Reads a payload that stands by itself: an object, or an array of the kind and the fields. The kind is
given by its name. -/
def read : Value → Except ReadError Payload
  | .object ms => do readData (← Kind.readFrom .alone ms) ms
  | .array [] => .error (.missingField "kind")
  | .array (v :: vs) => do
    let k ← Kind.read .alone v
    ofData k <$> Record.readArray .inNode vs
  | v => .error (.wrongType v.found (.tagged "NodeData"))

/-- The members of a payload's object: its kind and its fields. -/
def members (number : Binary64 → Value) (p : Payload) : Members :=
  ("kind", .string p.kind.name) :: Record.members number p.data

/-- Reads the data of a function that stands by itself, from an object or from an array of its fields. -/
def Function.read : Value → Except ReadError Function
  | .object ms => Record.read .alone ms
  | .array vs => Record.readArray .alone vs
  | v => .error (.wrongType v.found (.record "FunctionData"))

end Payload

/-! ## Node -/

namespace Node

/-- The fields of a header. -/
def headerFields : List (Field Slot.Value) :=
  [defaulted "flags" .flags (0 : UInt16), required "pos" .offset, required "end" .offset,
   defaulted "parent" .index NodeIndex.absent]

/-- The node with given header fields and payload. -/
def ofHeader (payload : Payload) : Values headerFields → Node
  | (flags, pos, stop, parent, ()) => { flags, pos, stop, parent, payload }

/-- The header fields of a node. -/
def header (n : Node) : Values headerFields :=
  (n.flags, n.pos, n.stop, n.parent, ())

theorem ofHeader_header (n : Node) : ofHeader n.payload n.header = n := rfl

/-- Reads a node. -/
def read : Value → Except ReadError Node
  | .object ms => do
    let header ← Json.readObject (Slot.read .alone) headerFields ms
    let kind ← Kind.readFrom .inNode ms
    let payload ← Payload.readData kind ms
    return ofHeader payload header
  | v => .error (.wrongType v.found (.record "Node"))

/-- A node as a JSON object; how the value of a literal is written is the caller's choice. -/
def toJsonWith (number : Binary64 → Value) (n : Node) : Value :=
  .object (Json.members (Slot.write number) headerFields n.header ++ n.payload.members number)

/-- A node as a JSON object. -/
def toJson (n : Node) : Value :=
  n.toJsonWith .ofBinary64

end Node

end SyntaxShapes
