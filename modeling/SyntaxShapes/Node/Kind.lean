import SyntaxShapes.Named

/-!
# `SyntaxShapes.Node.Kind` — the kinds of node

The thirty-four syntactic kinds, in a fixed order, and the names that serialised trees and reports use
for them.

## Contents
- **`Kind`.** The kinds, `all` of them in order, `name`, and the position `ofPosition?`.
-/

namespace SyntaxShapes

/-- The syntactic kinds of node. -/
inductive Kind
  -- names
  | identifier | privateIdentifier
  -- literals
  | numericLiteral | bigIntLiteral | stringLiteral | regularExpressionLiteral
  | noSubstitutionTemplateLiteral
  -- words
  | keyword | token
  -- expressions
  | binary | prefixUnary | postfixUnary | call | new | propertyAccess | elementAccess
  | functionExpression | arrowFunction | delete | typeOf | void | parenthesized
  -- statements
  | expressionStatement | block | variableStatement | forOf | forIn
  -- declarations
  | declarationList | declaration | objectBindingPattern | arrayBindingPattern | bindingElement
  | parameter
  -- whole files
  | sourceFile
  deriving DecidableEq, Repr

namespace Kind

/-- Every kind, in order. -/
def all : List Kind :=
  [.identifier, .privateIdentifier, .numericLiteral, .bigIntLiteral, .stringLiteral,
   .regularExpressionLiteral, .noSubstitutionTemplateLiteral, .keyword, .token, .binary,
   .prefixUnary, .postfixUnary, .call, .new, .propertyAccess, .elementAccess,
   .functionExpression, .arrowFunction, .delete, .typeOf, .void, .parenthesized,
   .expressionStatement, .block, .variableStatement, .forOf, .forIn, .declarationList,
   .declaration, .objectBindingPattern, .arrayBindingPattern, .bindingElement, .parameter,
   .sourceFile]

/-- The name of a kind. -/
def name : Kind → String
  | .identifier => "Identifier"
  | .privateIdentifier => "PrivateIdentifier"
  | .numericLiteral => "NumericLiteral"
  | .bigIntLiteral => "BigIntLiteral"
  | .stringLiteral => "StringLiteral"
  | .regularExpressionLiteral => "RegularExpressionLiteral"
  | .noSubstitutionTemplateLiteral => "NoSubstitutionTemplateLiteral"
  | .keyword => "Keyword"
  | .token => "Token"
  | .binary => "BinaryExpression"
  | .prefixUnary => "PrefixUnaryExpression"
  | .postfixUnary => "PostfixUnaryExpression"
  | .call => "CallExpression"
  | .new => "NewExpression"
  | .propertyAccess => "PropertyAccessExpression"
  | .elementAccess => "ElementAccessExpression"
  | .functionExpression => "FunctionExpression"
  | .arrowFunction => "ArrowFunction"
  | .delete => "DeleteExpression"
  | .typeOf => "TypeOfExpression"
  | .void => "VoidExpression"
  | .parenthesized => "ParenthesizedExpression"
  | .expressionStatement => "ExpressionStatement"
  | .block => "Block"
  | .variableStatement => "VariableStatement"
  | .forOf => "ForOfStatement"
  | .forIn => "ForInStatement"
  | .declarationList => "VariableDeclarationList"
  | .declaration => "VariableDeclaration"
  | .objectBindingPattern => "ObjectBindingPattern"
  | .arrayBindingPattern => "ArrayBindingPattern"
  | .bindingElement => "BindingElement"
  | .parameter => "Parameter"
  | .sourceFile => "SourceFile"

instance : Named Kind where
  all := all
  name := name
  find?_name k := by cases k <;> decide +kernel

/-- The kind at a position of `all`. -/
def ofPosition? (n : Nat) : Option Kind := all[n]?

end Kind

end SyntaxShapes
