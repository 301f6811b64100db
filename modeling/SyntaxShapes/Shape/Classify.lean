import SyntaxShapes.Shape.Basic
import SyntaxShapes.Shape.View
import SyntaxShapes.Token.Operator

/-!
# `SyntaxShapes.Shape.Classify` — which shapes a node has

One test for each shape, over an arena and a position. A test reads the node, its parent and a few nodes
below it; a position without a node has no shape.

## Contents
- **Operators.** `binaryOperator?`, `coercion?`, `isEqualsExpression`, `isCompoundAssignment`.
- **Accesses.** `isCalleeOfParent`, `isFieldPropertyAccess`, `isFieldElementAccess`.
- **Words.** `keywordAt?`, `isLiteral`, `isThis`, `isNullish`, `isUnary`.
- **All shapes.** `Shape.holds` and `classify`; `mem_classify` ties them together.
-/

namespace SyntaxShapes

namespace Arena

/-! ## Operators -/

/-- The operator of a binary expression. -/
def binaryOperator? (a : Arena) (i : NodeIndex) : Option Token := do
  return (← (← a.payload? i).binary?).operator

/-- The conversion that a binary expression forces on its operands. -/
def coercion? (a : Arena) (i : NodeIndex) : Option Coercion :=
  (a.binaryOperator? i).bind Token.coercion?

/-- Whether a node is a plain assignment. -/
def isEqualsExpression (a : Arena) (i : NodeIndex) : Bool :=
  a.binaryOperator? i == some .equals

/-- Whether a node is a compound assignment. -/
def isCompoundAssignment (a : Arena) (i : NodeIndex) : Bool :=
  (a.binaryOperator? i).any Token.isCompoundAssignment

/-! ## Accesses -/

/-- Whether a node is what its parent calls. The same access is the method of a call in that place and a
field everywhere else. -/
def isCalleeOfParent (a : Arena) (i : NodeIndex) : Bool :=
  match a.payload? (a.parentOf i) with
  | some (.call call) => call.callee == i
  | _ => false

/-- Whether a node is a property access that is not called. -/
def isFieldPropertyAccess (a : Arena) (i : NodeIndex) : Bool :=
  match a.payload? i with
  | some (.propertyAccess _) => !a.isCalleeOfParent i
  | _ => false

/-- Whether a node is an element access that is not called. -/
def isFieldElementAccess (a : Arena) (i : NodeIndex) : Bool :=
  match a.payload? i with
  | some (.elementAccess _) => !a.isCalleeOfParent i
  | _ => false

/-! ## Words -/

/-- The keyword that a node stands for. -/
def keywordAt? (a : Arena) (i : NodeIndex) : Option Keyword := do
  (← a.payload? i).keyword?

/-- Whether a node is a number, a string, a regular expression, `true` or `false`. -/
def isLiteral (a : Arena) (i : NodeIndex) : Bool :=
  match a.payload? i with
  | some (.numericLiteral _) | some (.stringLiteral _) | some (.regularExpressionLiteral _) =>
    true
  | _ => a.keywordAt? i == some .true || a.keywordAt? i == some .false

/-- Whether a node is `this`. -/
def isThis (a : Arena) (i : NodeIndex) : Bool :=
  a.keywordAt? i == some .this

/-- Whether a node is `null`, `undefined` or `NaN`. -/
def isNullish (a : Arena) (i : NodeIndex) : Bool :=
  a.keywordAt? i == some .null || a.keywordAt? i == some .undefined || a.keywordAt? i == some .nan

/-- Whether a node is a unary expression, prefix or postfix. -/
def isUnary (a : Arena) (i : NodeIndex) : Bool :=
  ((a.payload? i).bind Payload.unary?).isSome

end Arena

/-! ## All shapes -/

/-- Whether a node has a shape. -/
def Shape.holds (a : Arena) (i : NodeIndex) : Shape → Bool
  | .equalsExpression => a.isEqualsExpression i
  | .compoundAssignmentExpression => a.isCompoundAssignment i
  | .methodCall => (a.methodCall? i).isSome
  | .functionArgInMethodCall => (a.functionArg? i).isSome
  | .fieldElementAccess => a.isFieldElementAccess i
  | .fieldPropertyAccess => a.isFieldPropertyAccess i
  | .literal => a.isLiteral i
  | .unaryExpression => a.isUnary i
  | .deleteExpression => (a.deletion? i).isSome
  | .thisKeyword => a.isThis i
  | .nullOrUndefinedOrNaN => a.isNullish i
  | .forOfWithSimpleInitializer => (a.simpleForOf? i).isSome
  | .forOfWithIdentifierInitializer => (a.identifierForOf? i).isSome
  | .numericCoercingOperator => a.coercion? i == some .numeric
  | .integerCoercingOperator => a.coercion? i == some .integer

/-- The shapes of a node, in order. -/
def Arena.classify (a : Arena) (i : NodeIndex) : List Shape :=
  Shape.all.filter (Shape.holds a i)

theorem Shape.mem_all (s : Shape) : s ∈ Shape.all :=
  Named.mem_all s

theorem Arena.mem_classify {a : Arena} {i : NodeIndex} {s : Shape} :
    s ∈ a.classify i ↔ s.holds a i = true := by
  simp [classify, Shape.mem_all]

end SyntaxShapes
