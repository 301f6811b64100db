import SyntaxShapes.Named

/-!
# `SyntaxShapes.Shape.Basic` — the names of the shapes

A shape is a syntactic form that a node may have in its place in the tree. There are fifteen, in a fixed
order, each with a name in lower case and hyphens.

## Contents
- **`Shape`.** The shapes, `all` of them in order, `name`.
- **Serialised names.** `Shape.serialName`, made from the `identifier` of a shape; `serialName_eq_name` says
  that this gives the same names.
- **`Shape.ofText`.** The shape that a text names, or the text that names none.
-/

namespace SyntaxShapes

/-- The syntactic shapes of nodes. -/
inductive Shape
  /-- `a = b`. -/
  | equalsExpression
  /-- `a += b` and the like. -/
  | compoundAssignmentExpression
  /-- `receiver.name(arguments)`. -/
  | methodCall
  /-- A function as the first argument of a method call. -/
  | functionArgInMethodCall
  /-- `a[b]`, not called. -/
  | fieldElementAccess
  /-- `a.b`, not called. -/
  | fieldPropertyAccess
  /-- A number, string, regular expression, `true` or `false`. -/
  | literal
  /-- `-a`, `!a`, `++a`, `a--` and the like. -/
  | unaryExpression
  /-- `delete a.b` or `delete a[b]`. -/
  | deleteExpression
  /-- `this`. -/
  | thisKeyword
  /-- `null`, `undefined` or `NaN`. -/
  | nullOrUndefinedOrNaN
  /-- `for (let x of xs)`. -/
  | forOfWithSimpleInitializer
  /-- `for (x of xs)`. -/
  | forOfWithIdentifierInitializer
  /-- A binary expression whose operator makes its operands numbers. -/
  | numericCoercingOperator
  /-- A binary expression whose operator makes its operands 32-bit integers. -/
  | integerCoercingOperator
  deriving DecidableEq, Repr

namespace Shape

/-- Every shape, in order. -/
def all : List Shape :=
  [.equalsExpression, .compoundAssignmentExpression, .methodCall, .functionArgInMethodCall,
   .fieldElementAccess, .fieldPropertyAccess, .literal, .unaryExpression, .deleteExpression,
   .thisKeyword, .nullOrUndefinedOrNaN, .forOfWithSimpleInitializer,
   .forOfWithIdentifierInitializer, .numericCoercingOperator, .integerCoercingOperator]

/-- The name of a shape. -/
def name : Shape → String
  | .equalsExpression => "equals-expression"
  | .compoundAssignmentExpression => "compound-assignment-expression"
  | .methodCall => "method-call"
  | .functionArgInMethodCall => "function-arg-in-method-call"
  | .fieldElementAccess => "field-element-access"
  | .fieldPropertyAccess => "field-property-access"
  | .literal => "literal"
  | .unaryExpression => "unary-expression"
  | .deleteExpression => "delete-expression"
  | .thisKeyword => "this-keyword"
  | .nullOrUndefinedOrNaN => "null-or-undefined-or-nan"
  | .forOfWithSimpleInitializer => "for-of-with-simple-initializer"
  | .forOfWithIdentifierInitializer => "for-of-with-identifier-initializer"
  | .numericCoercingOperator => "numeric-coercing-operator"
  | .integerCoercingOperator => "integer-coercing-operator"

instance : Named Shape where
  all := all
  name := name
  find?_name s := by cases s <;> decide +kernel

/-! ## Serialised names -/

/-- The identifier of a shape, in words that start with a capital. -/
def identifier : Shape → String
  | .equalsExpression => "EqualsExpression"
  | .compoundAssignmentExpression => "CompoundAssignmentExpression"
  | .methodCall => "MethodCall"
  | .functionArgInMethodCall => "FunctionArgInMethodCall"
  | .fieldElementAccess => "FieldElementAccess"
  | .fieldPropertyAccess => "FieldPropertyAccess"
  | .literal => "Literal"
  | .unaryExpression => "UnaryExpression"
  | .deleteExpression => "DeleteExpression"
  | .thisKeyword => "ThisKeyword"
  | .nullOrUndefinedOrNaN => "NullOrUndefinedOrNaN"
  | .forOfWithSimpleInitializer => "ForOfWithSimpleInitializer"
  | .forOfWithIdentifierInitializer => "ForOfWithIdentifierInitializer"
  | .numericCoercingOperator => "NumericCoercingOperator"
  | .integerCoercingOperator => "IntegerCoercingOperator"

/-- An identifier in lower case, with a hyphen before each of its capitals but the first. -/
def hyphenated : List Char → List Char
  | [] => []
  | c :: cs => c.toLower :: cs.flatMap fun d => if d.isUpper then ['-', d.toLower] else [d]

/-- The name of a shape in serialised form: its identifier with hyphens. Capitals that follow each other would
be cut apart, so the only shape that has some is named by itself. -/
def serialName : Shape → String
  | .nullOrUndefinedOrNaN => "null-or-undefined-or-nan"
  | s => String.ofList (hyphenated s.identifier.toList)

theorem serialName_eq_name (s : Shape) : s.serialName = s.name := by
  cases s <;> decide +kernel

/-! ## Texts -/

/-- A text that names no shape. -/
structure UnknownName where
  /-- The text. -/
  text : String
  deriving DecidableEq, Repr

/-- What is said about a text that names no shape. -/
def UnknownName.message (e : UnknownName) : String :=
  "unknown shape '" ++ e.text ++ "'"

/-- The shape that a text names. -/
def ofText (s : String) : Except UnknownName Shape :=
  match Named.ofName? s with
  | some shape => .ok shape
  | none => .error ⟨s⟩

theorem ofText_eq_ok_iff {s : String} {shape : Shape} : ofText s = .ok shape ↔ s = shape.name := by
  rw [show shape.name = Named.name shape from rfl, ← Named.ofName?_eq_some_iff]
  unfold ofText
  split <;> simp_all

end Shape

end SyntaxShapes
