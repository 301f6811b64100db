import SyntaxShapes.Node.Payload

/-!
# `SyntaxShapes.Node.Access` — data of a given form

Several kinds of node hold data of the same form. Each function here gives that data for all of its kinds
and nothing for the others, so that look-ups can be chained.

## Contents
- **Data by form.** `identifier?`, `literal?`, `binary?`, `unary?`, `call?`, `function?`,
  `declarationList?`, `declaration?`, `sourceFile?`.
- **Keywords.** `keyword?`, which treats a keyword's token like the keyword.
-/

namespace SyntaxShapes.Payload

/-- The data of a name. -/
def identifier? : Payload → Option Identifier
  | .identifier d | .privateIdentifier d => some d
  | _ => none

/-- The data of a literal, of whatever kind. -/
def literal? : Payload → Option Literal
  | .numericLiteral d | .bigIntLiteral d | .stringLiteral d | .regularExpressionLiteral d
  | .noSubstitutionTemplateLiteral d => some d
  | _ => none

/-- The keyword of a keyword node, or of a token that stands for a keyword. -/
def keyword? : Payload → Option Keyword
  | .keyword d => some d.keyword
  | .token d => Keyword.ofToken? d.token
  | _ => none

/-- The data of a binary expression. -/
def binary? : Payload → Option Binary
  | .binary d => some d
  | _ => none

/-- The data of a unary expression, prefix or postfix. -/
def unary? : Payload → Option Unary
  | .prefixUnary d | .postfixUnary d => some d
  | _ => none

/-- The data of a call, with or without `new`. -/
def call? : Payload → Option Call
  | .call d | .new d => some d
  | _ => none

/-- The data of a function expression or an arrow function. -/
def function? : Payload → Option Function
  | .functionExpression d | .arrowFunction d => some d
  | _ => none

/-- The data of a list of declarations. -/
def declarationList? : Payload → Option DeclarationList
  | .declarationList d => some d
  | _ => none

/-- The data of a declaration. -/
def declaration? : Payload → Option Declaration
  | .declaration d => some d
  | _ => none

/-- The data of a source file. -/
def sourceFile? : Payload → Option SourceFile
  | .sourceFile d => some d
  | _ => none

/-- A keyword other than `NaN` and its token stand for the same keyword. -/
theorem keyword?_token {k : Keyword} {t : Token} (h : k.token? = some t) :
    (Payload.token ⟨t⟩).keyword? = (Payload.keyword ⟨k⟩).keyword? :=
  Keyword.ofToken?_eq_some_iff.mpr h

end SyntaxShapes.Payload
