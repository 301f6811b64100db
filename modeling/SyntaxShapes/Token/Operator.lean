import SyntaxShapes.Token.Basic

/-!
# `SyntaxShapes.Token.Operator` — what operators do to their operands

`-`, `*`, `/` and `%` convert both operands to numbers; shifts, `|` and `&` convert them to 32-bit
integers; their compound assignments do the same. `+`, `**`, `^`, `++`, `--` and the logical
assignments convert to neither.

## Contents
- **Coercion.** `Coercion` and `Token.coercion?`; `Token.isUncoerced`, the operators that convert to neither.
- **Compound assignments.** `Token.compoundBase?`, the operator that a compound assignment applies.
-/

namespace SyntaxShapes

/-- How an operator converts its operands. -/
inductive Coercion
  /-- Both operands become numbers. -/
  | numeric
  /-- Both operands become 32-bit integers. -/
  | integer
  deriving DecidableEq, Repr

namespace Token

/-- The conversion that an operator forces on its operands, if it forces one. -/
def coercion? : Token → Option Coercion
  | .minus | .minusEquals | .asterisk | .asteriskEquals
  | .slash | .slashEquals | .percent | .percentEquals => some .numeric
  | .lessThanLessThan | .lessThanLessThanEquals
  | .greaterThanGreaterThan | .greaterThanGreaterThanEquals
  | .greaterThanGreaterThanGreaterThan | .greaterThanGreaterThanGreaterThanEquals
  | .bar | .barEquals | .ampersand | .ampersandEquals => some .integer
  | _ => none

/-- Whether an operator converts its operands to numbers. -/
def isNumeric (t : Token) : Bool := t.coercion? == some .numeric

/-- Whether an operator converts its operands to 32-bit integers. -/
def isInteger (t : Token) : Bool := t.coercion? == some .integer

/-- The operators of the arithmetic, bitwise and compound-assignment families that force no
conversion. -/
def isUncoerced : Token → Bool
  | .plus | .plusEquals | .asteriskAsterisk | .asteriskAsteriskEquals | .plusPlus | .minusMinus
  | .caret | .caretEquals | .barBarEquals | .ampersandAmpersandEquals
  | .questionQuestionEquals => true
  | _ => false

/-- The operator that a compound assignment applies (`-=` applies `-`). -/
def compoundBase? : Token → Option Token
  | .plusEquals => some .plus
  | .minusEquals => some .minus
  | .asteriskEquals => some .asterisk
  | .asteriskAsteriskEquals => some .asteriskAsterisk
  | .slashEquals => some .slash
  | .percentEquals => some .percent
  | .lessThanLessThanEquals => some .lessThanLessThan
  | .greaterThanGreaterThanEquals => some .greaterThanGreaterThan
  | .greaterThanGreaterThanGreaterThanEquals => some .greaterThanGreaterThanGreaterThan
  | .ampersandEquals => some .ampersand
  | .barEquals => some .bar
  | .barBarEquals => some .barBar
  | .ampersandAmpersandEquals => some .ampersandAmpersand
  | .questionQuestionEquals => some .questionQuestion
  | .caretEquals => some .caret
  | _ => none

end Token

end SyntaxShapes
