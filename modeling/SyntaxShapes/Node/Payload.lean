import SyntaxShapes.Decimal.Binary64
import SyntaxShapes.Keyword
import SyntaxShapes.Node.Index
import SyntaxShapes.Node.Kind

/-!
# `SyntaxShapes.Node.Payload` — what a node holds besides its header

Each kind of node holds data of one type; several kinds share a type. A payload is a kind together with
data of that kind's type, so code that needs a call's callee matches on the constructor.

## Contents
- **Data.** One structure for each form of node.
- **`Payload`.** One constructor for each kind; `kind`, `Kind.Data`, `data`, `ofData` and the laws that
  tie them together.
- **Children.** `childSlots`, the places for child nodes in source order, and `children`, those of them
  that are not absent.
-/

namespace SyntaxShapes

namespace Payload

/-! ## Data -/

/-- A name. -/
structure Identifier where
  /-- The name, with escapes resolved. -/
  text : String
  deriving DecidableEq, Repr

/-- A literal of any kind. -/
structure Literal where
  /-- The text of the literal. -/
  text : String
  /-- The value, for numeric literals. -/
  value? : Option Binary64 := none
  deriving DecidableEq, Repr

/-- A keyword that stands as an expression. -/
structure KeywordUse where
  /-- The keyword. -/
  keyword : Keyword
  deriving DecidableEq, Repr

/-- A bare token kept as a node. -/
structure TokenUse where
  /-- The token. -/
  token : Token
  deriving DecidableEq, Repr

/-- A binary expression. -/
structure Binary where
  /-- The left operand. -/
  left : NodeIndex
  /-- The operator. -/
  operator : Token
  /-- The right operand. -/
  right : NodeIndex
  deriving DecidableEq, Repr

/-- A unary expression, with its operator before or after the operand. -/
structure Unary where
  /-- The operator. -/
  operator : Token
  /-- The operand. -/
  operand : NodeIndex
  deriving DecidableEq, Repr

/-- The operand of `delete`, `typeof` or `void`. -/
structure Operand where
  /-- The operand. -/
  expression : NodeIndex
  deriving DecidableEq, Repr

/-- A call, with or without `new`. -/
structure Call where
  /-- What is called. -/
  callee : NodeIndex
  /-- The arguments. -/
  arguments : NodeList := {}
  deriving DecidableEq, Repr

/-- An access to a property or an element. -/
structure Access where
  /-- What is accessed. -/
  receiver : NodeIndex
  /-- The name of the property, or the expression between the brackets. -/
  selector : NodeIndex
  /-- Whether the access is written with `?.`. -/
  isOptional : Bool := false
  deriving DecidableEq, Repr

/-- A function expression or an arrow function. -/
structure Function where
  /-- Whether it is asynchronous. -/
  isAsync : Bool := false
  /-- Whether it is a generator. -/
  isGenerator : Bool := false
  /-- Its name, if it has one. -/
  name : NodeIndex := .absent
  /-- Its parameters. -/
  parameters : NodeList := {}
  /-- Its body. -/
  body : NodeIndex
  deriving DecidableEq, Repr

/-- A parameter of a function. -/
structure Parameter where
  /-- Whether it takes all remaining arguments. -/
  isRest : Bool := false
  /-- Its name or pattern. -/
  name : NodeIndex
  /-- Its default, if it has one. -/
  initializer : NodeIndex := .absent
  deriving DecidableEq, Repr

/-- An expression between parentheses. -/
structure Parenthesized where
  /-- The expression. -/
  expression : NodeIndex
  deriving DecidableEq, Repr

/-- An expression that stands as a statement. -/
structure ExpressionStatement where
  /-- The expression. -/
  expression : NodeIndex
  deriving DecidableEq, Repr

/-- A block of statements. -/
structure Block where
  /-- The statements. -/
  statements : NodeList := {}
  deriving DecidableEq, Repr

/-- A statement that declares variables. -/
structure VariableStatement where
  /-- The declarations, as one node. -/
  declarationList : NodeIndex
  deriving DecidableEq, Repr

/-- The declarations after one `let`, `const` or `var`. -/
structure DeclarationList where
  /-- The declarations. -/
  declarations : NodeList := {}
  deriving DecidableEq, Repr

/-- The declaration of one variable or pattern. -/
structure Declaration where
  /-- The name or pattern. -/
  name : NodeIndex
  /-- The initial value, if there is one. -/
  initializer : NodeIndex := .absent
  deriving DecidableEq, Repr

/-- A destructuring pattern of an object or an array. -/
structure BindingPattern where
  /-- The elements. -/
  elements : NodeList := {}
  deriving DecidableEq, Repr

/-- An element of a destructuring pattern. -/
structure BindingElement where
  /-- Whether it takes everything that remains. -/
  isRest : Bool := false
  /-- The property that it is taken from, when named. -/
  propertyName : NodeIndex := .absent
  /-- Its name or pattern. -/
  name : NodeIndex
  /-- Its default, if it has one. -/
  initializer : NodeIndex := .absent
  deriving DecidableEq, Repr

/-- A loop over the values or the keys of something. -/
structure ForLoop where
  /-- Whether each step is awaited. -/
  isAwait : Bool := false
  /-- What takes each value in turn. -/
  initializer : NodeIndex
  /-- What is looped over. -/
  expression : NodeIndex
  /-- The body of the loop. -/
  statement : NodeIndex
  deriving DecidableEq, Repr

/-- A whole source file. -/
structure SourceFile where
  /-- The name of the file. -/
  fileName : String
  /-- Its statements. -/
  statements : NodeList := {}
  deriving DecidableEq, Repr

end Payload

/-- The data of a node, under its kind. -/
inductive Payload
  | identifier (data : Payload.Identifier)
  | privateIdentifier (data : Payload.Identifier)
  | numericLiteral (data : Payload.Literal)
  | bigIntLiteral (data : Payload.Literal)
  | stringLiteral (data : Payload.Literal)
  | regularExpressionLiteral (data : Payload.Literal)
  | noSubstitutionTemplateLiteral (data : Payload.Literal)
  | keyword (data : Payload.KeywordUse)
  | token (data : Payload.TokenUse)
  | binary (data : Payload.Binary)
  | prefixUnary (data : Payload.Unary)
  | postfixUnary (data : Payload.Unary)
  | call (data : Payload.Call)
  | new (data : Payload.Call)
  | propertyAccess (data : Payload.Access)
  | elementAccess (data : Payload.Access)
  | functionExpression (data : Payload.Function)
  | arrowFunction (data : Payload.Function)
  | delete (data : Payload.Operand)
  | typeOf (data : Payload.Operand)
  | void (data : Payload.Operand)
  | parenthesized (data : Payload.Parenthesized)
  | expressionStatement (data : Payload.ExpressionStatement)
  | block (data : Payload.Block)
  | variableStatement (data : Payload.VariableStatement)
  | forOf (data : Payload.ForLoop)
  | forIn (data : Payload.ForLoop)
  | declarationList (data : Payload.DeclarationList)
  | declaration (data : Payload.Declaration)
  | objectBindingPattern (data : Payload.BindingPattern)
  | arrayBindingPattern (data : Payload.BindingPattern)
  | bindingElement (data : Payload.BindingElement)
  | parameter (data : Payload.Parameter)
  | sourceFile (data : Payload.SourceFile)
  deriving DecidableEq, Repr

/-- The type of the data that a kind of node holds. -/
abbrev Kind.Data : Kind → Type
  | .identifier | .privateIdentifier => Payload.Identifier
  | .numericLiteral | .bigIntLiteral | .stringLiteral | .regularExpressionLiteral
  | .noSubstitutionTemplateLiteral => Payload.Literal
  | .keyword => Payload.KeywordUse
  | .token => Payload.TokenUse
  | .binary => Payload.Binary
  | .prefixUnary | .postfixUnary => Payload.Unary
  | .call | .new => Payload.Call
  | .propertyAccess | .elementAccess => Payload.Access
  | .functionExpression | .arrowFunction => Payload.Function
  | .delete | .typeOf | .void => Payload.Operand
  | .parenthesized => Payload.Parenthesized
  | .expressionStatement => Payload.ExpressionStatement
  | .block => Payload.Block
  | .variableStatement => Payload.VariableStatement
  | .forOf | .forIn => Payload.ForLoop
  | .declarationList => Payload.DeclarationList
  | .declaration => Payload.Declaration
  | .objectBindingPattern | .arrayBindingPattern => Payload.BindingPattern
  | .bindingElement => Payload.BindingElement
  | .parameter => Payload.Parameter
  | .sourceFile => Payload.SourceFile

namespace Payload

/-- The kind of a payload. -/
def kind : Payload → Kind
  | .identifier _ => .identifier
  | .privateIdentifier _ => .privateIdentifier
  | .numericLiteral _ => .numericLiteral
  | .bigIntLiteral _ => .bigIntLiteral
  | .stringLiteral _ => .stringLiteral
  | .regularExpressionLiteral _ => .regularExpressionLiteral
  | .noSubstitutionTemplateLiteral _ => .noSubstitutionTemplateLiteral
  | .keyword _ => .keyword
  | .token _ => .token
  | .binary _ => .binary
  | .prefixUnary _ => .prefixUnary
  | .postfixUnary _ => .postfixUnary
  | .call _ => .call
  | .new _ => .new
  | .propertyAccess _ => .propertyAccess
  | .elementAccess _ => .elementAccess
  | .functionExpression _ => .functionExpression
  | .arrowFunction _ => .arrowFunction
  | .delete _ => .delete
  | .typeOf _ => .typeOf
  | .void _ => .void
  | .parenthesized _ => .parenthesized
  | .expressionStatement _ => .expressionStatement
  | .block _ => .block
  | .variableStatement _ => .variableStatement
  | .forOf _ => .forOf
  | .forIn _ => .forIn
  | .declarationList _ => .declarationList
  | .declaration _ => .declaration
  | .objectBindingPattern _ => .objectBindingPattern
  | .arrayBindingPattern _ => .arrayBindingPattern
  | .bindingElement _ => .bindingElement
  | .parameter _ => .parameter
  | .sourceFile _ => .sourceFile

/-- The data of a payload. -/
def data : (p : Payload) → p.kind.Data
  | .identifier d => d
  | .privateIdentifier d => d
  | .numericLiteral d => d
  | .bigIntLiteral d => d
  | .stringLiteral d => d
  | .regularExpressionLiteral d => d
  | .noSubstitutionTemplateLiteral d => d
  | .keyword d => d
  | .token d => d
  | .binary d => d
  | .prefixUnary d => d
  | .postfixUnary d => d
  | .call d => d
  | .new d => d
  | .propertyAccess d => d
  | .elementAccess d => d
  | .functionExpression d => d
  | .arrowFunction d => d
  | .delete d => d
  | .typeOf d => d
  | .void d => d
  | .parenthesized d => d
  | .expressionStatement d => d
  | .block d => d
  | .variableStatement d => d
  | .forOf d => d
  | .forIn d => d
  | .declarationList d => d
  | .declaration d => d
  | .objectBindingPattern d => d
  | .arrayBindingPattern d => d
  | .bindingElement d => d
  | .parameter d => d
  | .sourceFile d => d

/-- The payload of a kind with given data. -/
def ofData : (k : Kind) → k.Data → Payload
  | .identifier, d => .identifier d
  | .privateIdentifier, d => .privateIdentifier d
  | .numericLiteral, d => .numericLiteral d
  | .bigIntLiteral, d => .bigIntLiteral d
  | .stringLiteral, d => .stringLiteral d
  | .regularExpressionLiteral, d => .regularExpressionLiteral d
  | .noSubstitutionTemplateLiteral, d => .noSubstitutionTemplateLiteral d
  | .keyword, d => .keyword d
  | .token, d => .token d
  | .binary, d => .binary d
  | .prefixUnary, d => .prefixUnary d
  | .postfixUnary, d => .postfixUnary d
  | .call, d => .call d
  | .new, d => .new d
  | .propertyAccess, d => .propertyAccess d
  | .elementAccess, d => .elementAccess d
  | .functionExpression, d => .functionExpression d
  | .arrowFunction, d => .arrowFunction d
  | .delete, d => .delete d
  | .typeOf, d => .typeOf d
  | .void, d => .void d
  | .parenthesized, d => .parenthesized d
  | .expressionStatement, d => .expressionStatement d
  | .block, d => .block d
  | .variableStatement, d => .variableStatement d
  | .forOf, d => .forOf d
  | .forIn, d => .forIn d
  | .declarationList, d => .declarationList d
  | .declaration, d => .declaration d
  | .objectBindingPattern, d => .objectBindingPattern d
  | .arrayBindingPattern, d => .arrayBindingPattern d
  | .bindingElement, d => .bindingElement d
  | .parameter, d => .parameter d
  | .sourceFile, d => .sourceFile d

theorem ofData_kind_data (p : Payload) : ofData p.kind p.data = p := by
  cases p <;> rfl

theorem kind_ofData (k : Kind) (d : k.Data) : (ofData k d).kind = k := by
  cases k <;> rfl

/-! ## Children -/

/-- The places for child nodes, in source order. -/
def childSlots : Payload → List NodeIndex
  | .identifier _ | .privateIdentifier _ => []
  | .numericLiteral _ | .bigIntLiteral _ | .stringLiteral _ | .regularExpressionLiteral _
  | .noSubstitutionTemplateLiteral _ => []
  | .keyword _ | .token _ => []
  | .binary d => [d.left, d.right]
  | .prefixUnary d | .postfixUnary d => [d.operand]
  | .call d | .new d => d.callee :: d.arguments.nodes
  | .propertyAccess d | .elementAccess d => [d.receiver, d.selector]
  | .functionExpression d | .arrowFunction d => d.name :: d.parameters.nodes ++ [d.body]
  | .delete d | .typeOf d | .void d => [d.expression]
  | .parenthesized d => [d.expression]
  | .expressionStatement d => [d.expression]
  | .block d => d.statements.nodes
  | .variableStatement d => [d.declarationList]
  | .forOf d | .forIn d => [d.initializer, d.expression, d.statement]
  | .declarationList d => d.declarations.nodes
  | .declaration d => [d.name, d.initializer]
  | .objectBindingPattern d | .arrayBindingPattern d => d.elements.nodes
  | .bindingElement d => [d.propertyName, d.name, d.initializer]
  | .parameter d => [d.name, d.initializer]
  | .sourceFile d => d.statements.nodes

/-- The child nodes, in source order; absent ones are left out. -/
def children (p : Payload) : List NodeIndex :=
  p.childSlots.filter (!·.isAbsent)

theorem mem_children {p : Payload} {i : NodeIndex} :
    i ∈ p.children ↔ i ∈ p.childSlots ∧ i ≠ .absent := by
  simp [children, NodeIndex.isAbsent]

end Payload

end SyntaxShapes
