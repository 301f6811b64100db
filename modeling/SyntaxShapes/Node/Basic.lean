import SyntaxShapes.Node.Access

/-!
# `SyntaxShapes.Node.Basic` — nodes

Every node has the same header (flags, span, parent) and a payload that depends on its kind.

## Contents
- **`Flags`.** The flag bits; they are carried along and decide no shape.
- **`Node`.** `kind`, `children`, `hasFlag`, and the `placeholder` for a node that could not be read.
- **Comparison.** `sameAs`, equality with literal values compared as numbers.
-/

namespace SyntaxShapes

/-- Flag bits of a node. -/
abbrev Flags := UInt16

namespace Flags

/-- No flag. -/
def none : Flags := 0

/-- Declared with `let`. -/
def letBit : Flags := 1

/-- Declared with `const`. -/
def constBit : Flags := 2

/-- Declared with `using`. -/
def usingBit : Flags := 4

/-- Declared with `await using`. -/
def awaitUsing : Flags := constBit ||| usingBit

/-- The bits of the declarations whose scope is a block. -/
def blockScoped : Flags := letBit ||| constBit ||| usingBit

/-- Created by a transformation instead of read from a source. -/
def synthesized : Flags := 16

/-- Part of an optional chain. -/
def optionalChain : Flags := 64

end Flags

/-- A node: a header, and the payload of its kind. -/
structure Node where
  /-- The flag bits. -/
  flags : Flags := 0
  /-- Where the node starts in the source. -/
  pos : UInt32
  /-- Where the node ends in the source. -/
  stop : UInt32
  /-- The node around this one, absent at a root. -/
  parent : NodeIndex := .absent
  /-- What the node holds besides. -/
  payload : Payload
  deriving DecidableEq, Repr

namespace Node

/-- The kind of a node. -/
def kind (n : Node) : Kind := n.payload.kind

/-- The children of a node, in source order. -/
def children (n : Node) : List NodeIndex := n.payload.children

/-- Whether a node has one of some flag bits. -/
def hasFlag (n : Node) (f : Flags) : Bool := n.flags &&& f != 0

/-- The node that stands in for one that could not be read: an unknown token without a span. -/
def placeholder : Node :=
  { pos := 0, stop := 0, payload := .token ⟨.unknown⟩ }

end Node

/-! ## Comparison -/

namespace Payload

/-- The payload without the value of a literal. -/
def withoutValue : Payload → Payload
  | .numericLiteral d => .numericLiteral { d with value? := none }
  | .bigIntLiteral d => .bigIntLiteral { d with value? := none }
  | .stringLiteral d => .stringLiteral { d with value? := none }
  | .regularExpressionLiteral d => .regularExpressionLiteral { d with value? := none }
  | .noSubstitutionTemplateLiteral d => .noSubstitutionTemplateLiteral { d with value? := none }
  | p => p

/-- Whether two values are both absent or equal as numbers. -/
def sameValue : Option Binary64 → Option Binary64 → Bool
  | none, none => true
  | some x, some y => x.numEq y
  | _, _ => false

end Payload

/-- Whether two nodes are the same, the values of literals being compared as numbers. -/
def Node.sameAs (m n : Node) : Bool :=
  { m with payload := m.payload.withoutValue } = { n with payload := n.payload.withoutValue }
    && Payload.sameValue (m.payload.literal?.bind (·.value?)) (n.payload.literal?.bind (·.value?))

end SyntaxShapes
