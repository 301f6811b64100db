import SyntaxShapes.Token.Basic

/-!
# `SyntaxShapes.Keyword` — keywords that are expressions

Seven keywords stand alone as expressions. Six of them are tokens too; `NaN` has no token of its own
and is a keyword so that it can be treated exactly like `null` and `undefined`.

## Contents
- **Vocabulary.** `Keyword`, its `name` and source `text`.
- **Tokens.** `token?` and `ofToken?`, which undo each other (`ofToken?_eq_some_iff`).
-/

namespace SyntaxShapes

/-- Keywords that appear as expressions of their own. -/
inductive Keyword
  | true | false | null | undefined | nan | this | super
  deriving DecidableEq, Repr

namespace Keyword

/-- Every keyword, in order. -/
def all : List Keyword :=
  [.true, .false, .null, .undefined, .nan, .this, .super]

/-- The name under which a keyword is written in a serialised tree. -/
def name : Keyword → String
  | .true => "True"
  | .false => "False"
  | .null => "Null"
  | .undefined => "Undefined"
  | .nan => "NaN"
  | .this => "This"
  | .super => "Super"

instance : Named Keyword where
  all := all
  name := name
  find?_name k := by cases k <;> decide +kernel

/-- The source text of a keyword. -/
def text : Keyword → String
  | .true => "true"
  | .false => "false"
  | .null => "null"
  | .undefined => "undefined"
  | .nan => "NaN"
  | .this => "this"
  | .super => "super"

/-- The token of a keyword; `NaN` has none. -/
def token? : Keyword → Option Token
  | .true => some .trueKeyword
  | .false => some .falseKeyword
  | .null => some .nullKeyword
  | .undefined => some .undefinedKeyword
  | .nan => none
  | .this => some .thisKeyword
  | .super => some .superKeyword

/-- The keyword of a token that has an expression form. -/
def ofToken? : Token → Option Keyword
  | .trueKeyword => some .true
  | .falseKeyword => some .false
  | .nullKeyword => some .null
  | .undefinedKeyword => some .undefined
  | .thisKeyword => some .this
  | .superKeyword => some .super
  | _ => none

/-- A token stands for a keyword exactly when it is that keyword's token. -/
theorem ofToken?_eq_some_iff {t : Token} {k : Keyword} : ofToken? t = some k ↔ k.token? = some t := by
  cases t <;> cases k <;> simp [ofToken?, token?]

end Keyword

end SyntaxShapes
