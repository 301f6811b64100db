import SyntaxShapes.Named

/-!
# `SyntaxShapes.Token.Basic` — the token vocabulary

The eighty-four kinds of token, in a fixed order. Several families are contiguous in that order
(literals, punctuation, keywords, assignments, arithmetic and bitwise operators), so membership in a
family is a two-sided comparison of positions.

## Contents
- **Vocabulary.** `Token`, its `name`, the fixed `text?` of punctuation and keywords.
- **Positions.** `code`, `ofCode?`.
- **Families.** `isBetween`, `Family`, and one range for each family.
-/

namespace SyntaxShapes

/-- The kinds of token, in the order that the families below are cut from. -/
inductive Token
  -- ends of the vocabulary
  | unknown | endOfFile
  -- literals
  | numericLiteral | bigIntLiteral | stringLiteral | regularExpressionLiteral
  | noSubstitutionTemplateLiteral
  -- punctuation
  | openBrace | closeBrace | openParen | closeParen | openBracket | closeBracket | dot
  | dotDotDot | semicolon | comma | questionDot | lessThan | greaterThan | lessThanEquals
  | greaterThanEquals | equalsEquals | exclamationEquals | equalsEqualsEquals
  | exclamationEqualsEquals | equalsGreaterThan
  -- arithmetic and bitwise operators
  | plus | minus | asterisk | asteriskAsterisk | slash | percent | plusPlus | minusMinus
  | lessThanLessThan | greaterThanGreaterThan | greaterThanGreaterThanGreaterThan | ampersand
  | bar | caret
  -- other operators
  | exclamation | tilde | ampersandAmpersand | barBar | question | colon | questionQuestion
  -- assignments
  | equals | plusEquals | minusEquals | asteriskEquals | asteriskAsteriskEquals | slashEquals
  | percentEquals | lessThanLessThanEquals | greaterThanGreaterThanEquals
  | greaterThanGreaterThanGreaterThanEquals | ampersandEquals | barEquals | barBarEquals
  | ampersandAmpersandEquals | questionQuestionEquals | caretEquals
  -- identifiers
  | identifier | privateIdentifier
  -- keywords
  | breakKeyword | constKeyword | deleteKeyword | falseKeyword | forKeyword | functionKeyword
  | inKeyword | letKeyword | newKeyword | nullKeyword | ofKeyword | superKeyword | thisKeyword
  | trueKeyword | typeOfKeyword | undefinedKeyword | varKeyword | voidKeyword
  deriving DecidableEq, Repr

namespace Token

/-- Every kind of token, in order. -/
def all : List Token :=
  [.unknown, .endOfFile, .numericLiteral, .bigIntLiteral, .stringLiteral,
   .regularExpressionLiteral, .noSubstitutionTemplateLiteral, .openBrace, .closeBrace,
   .openParen, .closeParen, .openBracket, .closeBracket, .dot, .dotDotDot, .semicolon, .comma,
   .questionDot, .lessThan, .greaterThan, .lessThanEquals, .greaterThanEquals, .equalsEquals,
   .exclamationEquals, .equalsEqualsEquals, .exclamationEqualsEquals, .equalsGreaterThan,
   .plus, .minus, .asterisk, .asteriskAsterisk, .slash, .percent, .plusPlus, .minusMinus,
   .lessThanLessThan, .greaterThanGreaterThan, .greaterThanGreaterThanGreaterThan, .ampersand,
   .bar, .caret, .exclamation, .tilde, .ampersandAmpersand, .barBar, .question, .colon,
   .questionQuestion, .equals, .plusEquals, .minusEquals, .asteriskEquals,
   .asteriskAsteriskEquals, .slashEquals, .percentEquals, .lessThanLessThanEquals,
   .greaterThanGreaterThanEquals, .greaterThanGreaterThanGreaterThanEquals, .ampersandEquals,
   .barEquals, .barBarEquals, .ampersandAmpersandEquals, .questionQuestionEquals, .caretEquals,
   .identifier, .privateIdentifier, .breakKeyword, .constKeyword, .deleteKeyword,
   .falseKeyword, .forKeyword, .functionKeyword, .inKeyword, .letKeyword, .newKeyword,
   .nullKeyword, .ofKeyword, .superKeyword, .thisKeyword, .trueKeyword, .typeOfKeyword,
   .undefinedKeyword, .varKeyword, .voidKeyword]

/-- The name under which a kind is written in a serialised tree. -/
def name : Token → String
  | .unknown => "Unknown"
  | .endOfFile => "EndOfFileToken"
  | .numericLiteral => "NumericLiteral"
  | .bigIntLiteral => "BigIntLiteral"
  | .stringLiteral => "StringLiteral"
  | .regularExpressionLiteral => "RegularExpressionLiteral"
  | .noSubstitutionTemplateLiteral => "NoSubstitutionTemplateLiteral"
  | .openBrace => "OpenBraceToken"
  | .closeBrace => "CloseBraceToken"
  | .openParen => "OpenParenToken"
  | .closeParen => "CloseParenToken"
  | .openBracket => "OpenBracketToken"
  | .closeBracket => "CloseBracketToken"
  | .dot => "DotToken"
  | .dotDotDot => "DotDotDotToken"
  | .semicolon => "SemicolonToken"
  | .comma => "CommaToken"
  | .questionDot => "QuestionDotToken"
  | .lessThan => "LessThanToken"
  | .greaterThan => "GreaterThanToken"
  | .lessThanEquals => "LessThanEqualsToken"
  | .greaterThanEquals => "GreaterThanEqualsToken"
  | .equalsEquals => "EqualsEqualsToken"
  | .exclamationEquals => "ExclamationEqualsToken"
  | .equalsEqualsEquals => "EqualsEqualsEqualsToken"
  | .exclamationEqualsEquals => "ExclamationEqualsEqualsToken"
  | .equalsGreaterThan => "EqualsGreaterThanToken"
  | .plus => "PlusToken"
  | .minus => "MinusToken"
  | .asterisk => "AsteriskToken"
  | .asteriskAsterisk => "AsteriskAsteriskToken"
  | .slash => "SlashToken"
  | .percent => "PercentToken"
  | .plusPlus => "PlusPlusToken"
  | .minusMinus => "MinusMinusToken"
  | .lessThanLessThan => "LessThanLessThanToken"
  | .greaterThanGreaterThan => "GreaterThanGreaterThanToken"
  | .greaterThanGreaterThanGreaterThan => "GreaterThanGreaterThanGreaterThanToken"
  | .ampersand => "AmpersandToken"
  | .bar => "BarToken"
  | .caret => "CaretToken"
  | .exclamation => "ExclamationToken"
  | .tilde => "TildeToken"
  | .ampersandAmpersand => "AmpersandAmpersandToken"
  | .barBar => "BarBarToken"
  | .question => "QuestionToken"
  | .colon => "ColonToken"
  | .questionQuestion => "QuestionQuestionToken"
  | .equals => "EqualsToken"
  | .plusEquals => "PlusEqualsToken"
  | .minusEquals => "MinusEqualsToken"
  | .asteriskEquals => "AsteriskEqualsToken"
  | .asteriskAsteriskEquals => "AsteriskAsteriskEqualsToken"
  | .slashEquals => "SlashEqualsToken"
  | .percentEquals => "PercentEqualsToken"
  | .lessThanLessThanEquals => "LessThanLessThanEqualsToken"
  | .greaterThanGreaterThanEquals => "GreaterThanGreaterThanEqualsToken"
  | .greaterThanGreaterThanGreaterThanEquals => "GreaterThanGreaterThanGreaterThanEqualsToken"
  | .ampersandEquals => "AmpersandEqualsToken"
  | .barEquals => "BarEqualsToken"
  | .barBarEquals => "BarBarEqualsToken"
  | .ampersandAmpersandEquals => "AmpersandAmpersandEqualsToken"
  | .questionQuestionEquals => "QuestionQuestionEqualsToken"
  | .caretEquals => "CaretEqualsToken"
  | .identifier => "Identifier"
  | .privateIdentifier => "PrivateIdentifier"
  | .breakKeyword => "BreakKeyword"
  | .constKeyword => "ConstKeyword"
  | .deleteKeyword => "DeleteKeyword"
  | .falseKeyword => "FalseKeyword"
  | .forKeyword => "ForKeyword"
  | .functionKeyword => "FunctionKeyword"
  | .inKeyword => "InKeyword"
  | .letKeyword => "LetKeyword"
  | .newKeyword => "NewKeyword"
  | .nullKeyword => "NullKeyword"
  | .ofKeyword => "OfKeyword"
  | .superKeyword => "SuperKeyword"
  | .thisKeyword => "ThisKeyword"
  | .trueKeyword => "TrueKeyword"
  | .typeOfKeyword => "TypeOfKeyword"
  | .undefinedKeyword => "UndefinedKeyword"
  | .varKeyword => "VarKeyword"
  | .voidKeyword => "VoidKeyword"

instance : Named Token where
  all := all
  name := name
  find?_name t := by cases t <;> decide +kernel

/-- The source text of a kind whose text is fixed: punctuation and keywords. -/
def text? : Token → Option String
  | .openBrace => some "\x7b"
  | .closeBrace => some "\x7d"
  | .openParen => some "("
  | .closeParen => some ")"
  | .openBracket => some "["
  | .closeBracket => some "]"
  | .dot => some "."
  | .dotDotDot => some "..."
  | .semicolon => some ";"
  | .comma => some ","
  | .questionDot => some "?."
  | .lessThan => some "<"
  | .greaterThan => some ">"
  | .lessThanEquals => some "<="
  | .greaterThanEquals => some ">="
  | .equalsEquals => some "=="
  | .exclamationEquals => some "!="
  | .equalsEqualsEquals => some "==="
  | .exclamationEqualsEquals => some "!=="
  | .equalsGreaterThan => some "=>"
  | .plus => some "+"
  | .minus => some "-"
  | .asterisk => some "*"
  | .asteriskAsterisk => some "**"
  | .slash => some "/"
  | .percent => some "%"
  | .plusPlus => some "++"
  | .minusMinus => some "--"
  | .lessThanLessThan => some "<<"
  | .greaterThanGreaterThan => some ">>"
  | .greaterThanGreaterThanGreaterThan => some ">>>"
  | .ampersand => some "&"
  | .bar => some "|"
  | .caret => some "^"
  | .exclamation => some "!"
  | .tilde => some "~"
  | .ampersandAmpersand => some "&&"
  | .barBar => some "||"
  | .question => some "?"
  | .colon => some ":"
  | .questionQuestion => some "??"
  | .equals => some "="
  | .plusEquals => some "+="
  | .minusEquals => some "-="
  | .asteriskEquals => some "*="
  | .asteriskAsteriskEquals => some "**="
  | .slashEquals => some "/="
  | .percentEquals => some "%="
  | .lessThanLessThanEquals => some "<<="
  | .greaterThanGreaterThanEquals => some ">>="
  | .greaterThanGreaterThanGreaterThanEquals => some ">>>="
  | .ampersandEquals => some "&="
  | .barEquals => some "|="
  | .barBarEquals => some "||="
  | .ampersandAmpersandEquals => some "&&="
  | .questionQuestionEquals => some "??="
  | .caretEquals => some "^="
  | .breakKeyword => some "break"
  | .constKeyword => some "const"
  | .deleteKeyword => some "delete"
  | .falseKeyword => some "false"
  | .forKeyword => some "for"
  | .functionKeyword => some "function"
  | .inKeyword => some "in"
  | .letKeyword => some "let"
  | .newKeyword => some "new"
  | .nullKeyword => some "null"
  | .ofKeyword => some "of"
  | .superKeyword => some "super"
  | .thisKeyword => some "this"
  | .trueKeyword => some "true"
  | .typeOfKeyword => some "typeof"
  | .undefinedKeyword => some "undefined"
  | .varKeyword => some "var"
  | .voidKeyword => some "void"
  | _ => none

/-! ## Positions -/

/-- The position of a kind in `all`. -/
def code (t : Token) : Nat := t.ctorIdx

/-- The kind at a position. -/
def ofCode? (n : Nat) : Option Token := all[n]?

instance : Ord Token := ⟨fun s t => compare s.code t.code⟩

/-! ## Families -/

/-- Whether a kind lies between two others, both included. -/
def isBetween (t first last : Token) : Bool :=
  first.code ≤ t.code && t.code ≤ last.code

/-- A family of consecutive kinds, given by its two ends. -/
structure Family where
  /-- The first kind of the family. -/
  first : Token
  /-- The last kind of the family. -/
  last : Token

namespace Family

/-- Whether a kind belongs to the family. -/
def has (f : Family) (t : Token) : Bool :=
  t.isBetween f.first f.last

/-- Literals. -/
def literals : Family := ⟨.numericLiteral, .noSubstitutionTemplateLiteral⟩

/-- Punctuation, operators and assignments included. -/
def punctuation : Family := ⟨.openBrace, .caretEquals⟩

/-- Arithmetic and bitwise operators, `++` and `--` included. -/
def arithmeticOrBitwise : Family := ⟨.plus, .caret⟩

/-- Plain assignment and every compound assignment. -/
def assignments : Family := ⟨.equals, .caretEquals⟩

/-- Compound assignments. -/
def compoundAssignments : Family := ⟨.plusEquals, .caretEquals⟩

/-- Keywords. -/
def keywords : Family := ⟨.breakKeyword, .voidKeyword⟩

end Family

/-- Whether a kind is a literal. -/
def isLiteral (t : Token) : Bool := Family.literals.has t

/-- Whether a kind is punctuation. -/
def isPunctuation (t : Token) : Bool := Family.punctuation.has t

/-- Whether a kind is a keyword. -/
def isKeyword (t : Token) : Bool := Family.keywords.has t

/-- Whether a kind assigns: `=` or a compound assignment. -/
def isAssignment (t : Token) : Bool := Family.assignments.has t

/-- Whether a kind is in the arithmetic and bitwise family. -/
def isArithmeticOrBitwise (t : Token) : Bool := Family.arithmeticOrBitwise.has t

/-- Whether a kind is a compound assignment. -/
def isCompoundAssignment (t : Token) : Bool := Family.compoundAssignments.has t

end Token

end SyntaxShapes
