import SyntaxShapes.Arena.Builder

/-!
# `SyntaxShapes.Proofs.Arena.Span` — where the ends of a span come from

A call is given an end of the span of its node, or takes it from an operand, or computes it from what else it is
given. `Call.posFrom` and `Call.stopFrom` say which, without an arena; an arena is looked at only for the ends of
operands (`Call.pos_eq`, `Call.stop_eq`).

## Contents
- **Ends.** `SpanEnd`, with `SpanEnd.offset`, the end itself.
- **Calls.** `Call.posFrom`, `Call.stopFrom`; `Call.pos_eq`, `Call.stop_eq`.
-/

namespace SyntaxShapes

/-! ## Ends -/

/-- Where a call takes an end of the span of its node from. -/
inductive SpanEnd
  /-- It is given. -/
  | given (offset : UInt32)
  /-- It is an end of an operand. -/
  | operand (i : NodeIndex)
  /-- It follows from what else the call is given. -/
  | computed (offset : UInt32)

namespace SpanEnd

/-- The end, where it is given. -/
def given? : SpanEnd → Option UInt32
  | given offset => some offset
  | _ => none

-- looks at the end itself, not at each of the numbers that it may be
instance {p : UInt32 → Prop} [DecidablePred p] (e : SpanEnd) : Decidable (∀ offset ∈ e.given?, p offset) :=
  e.given?.decidableForallMem

/-- The operand that the end is taken from, if there is one. -/
def operand? : SpanEnd → Option NodeIndex
  | operand i => some i
  | _ => none

/-- The end itself, when the ends of operands are known. -/
def offset (look : NodeIndex → UInt32) : SpanEnd → UInt32
  | given offset | computed offset => offset
  | operand i => look i

end SpanEnd

/-! ## Calls -/

namespace Call

/-- Where a call takes the start of its node from. -/
def posFrom : Call → SpanEnd
  | node pos _ _ _ | identifier pos _ _ | numericLiteral pos _ _ | stringLiteral pos _ _
  | regexLiteral pos _ _ | keyword pos _ | token pos _ _ | prefixUnary pos _ _ | new pos _ _ _
  | function pos _ _ | arrowFunction pos _ _ | delete pos _ | parenthesized pos _ _
  | block pos _ _ | declarationList pos _ _ _ | objectBindingPattern pos _ _
  | arrayBindingPattern pos _ _ | forOf pos _ _ _ | forIn pos _ _ _ => .given pos
  | binary first _ _ | postfixUnary first _ _ | call first _ _ | propertyAccess first _
  | elementAccess first _ _ | expressionStatement first _ | declaration first _
  | variableStatement first _ | bindingElement first | parameter first => .operand first
  | sourceFile _ _ _ => .computed 0

/-- Where a call takes the end of its node from. -/
def stopFrom : Call → SpanEnd
  | node _ stop _ _ | identifier _ stop _ | numericLiteral _ stop _ | stringLiteral _ stop _
  | regexLiteral _ stop _ | token _ stop _ | postfixUnary _ _ stop | call _ _ stop
  | new _ _ _ stop | elementAccess _ _ stop | function _ stop _ | arrowFunction _ stop _
  | parenthesized _ _ stop | expressionStatement _ stop | block _ stop _
  | declarationList _ stop _ _ | variableStatement _ stop | objectBindingPattern _ stop _
  | arrayBindingPattern _ stop _ | sourceFile _ stop _ => .given stop
  | binary _ _ last | prefixUnary _ _ last | propertyAccess _ last | delete _ last
  | bindingElement last | parameter last | forOf _ _ _ last | forIn _ _ _ last => .operand last
  | declaration name initializer => .operand (if initializer.isAbsent then name else initializer)
  | keyword pos k => .computed (addClamped pos k.text.length)

/-- The start of a new node, from where its call takes it. -/
theorem pos_eq (a : Arena) (c : Call) : c.pos a = c.posFrom.offset a.posOf := by
  cases c <;> rfl

/-- The end of a new node, from where its call takes it. -/
theorem stop_eq (a : Arena) (c : Call) : c.stop a = c.stopFrom.offset a.stopOf := by
  cases c with
  | declaration name initializer => exact (apply_ite a.stopOf _ _ _).symm
  | _ => rfl

end Call

end SyntaxShapes
