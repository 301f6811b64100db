import SyntaxShapes.Text.CharSet

/-!
# `SyntaxShapes.Text.Pattern.Basic` — patterns of text

## Contents
- **Places.** `Place`, a position in a text; `Anchor`, a condition on one; `Anchor.holdsEarly`, what is known of a place
  before its next character is read.
- **Patterns.** `Pattern`, the ways to put one together.
-/

namespace SyntaxShapes.Text

/-! ## Places -/

/-- A position in a text. -/
structure Place where
  /-- The character in front of it. -/
  before? : Option Char
  /-- The character after it. -/
  after? : Option Char
  deriving DecidableEq, Repr

/-- A condition on a place in a text. -/
inductive Anchor
  /-- The start of the text. -/
  | textStart
  /-- The end of the text. -/
  | textEnd
  /-- The start of a line; a carriage return may end lines too. -/
  | lineStart (carriage : Bool)
  /-- The end of a line; a carriage return may end lines too. -/
  | lineEnd (carriage : Bool)
  /-- The edge of a word. -/
  | wordEdge
  /-- Anywhere but at the edge of a word. -/
  | noWordEdge
  /-- The start of a word. -/
  | wordStart
  /-- The end of a word. -/
  | wordEnd
  deriving DecidableEq, Repr

namespace Anchor

/-- Whether a condition asks what belongs to a word. -/
def asksWord : Anchor → Bool
  | wordEdge | noWordEdge | wordStart | wordEnd => true
  | _ => false

/-- Whether a neighbour of a place belongs to a word. -/
def isWord (c? : Option Char) : Bool := c?.any CharSet.word.mem

/-- Whether a place meets a condition. The two characters of a line end are not parted. -/
def holds (a : Anchor) (p : Place) : Bool :=
  let b? := p.before?
  let a? := p.after?
  match a with
  | textStart => b?.isNone
  | textEnd => a?.isNone
  | lineStart false => b?.isNone || b? == some '\n'
  | lineEnd false => a?.isNone || a? == some '\n'
  | lineStart true => b?.isNone || b? == some '\n' || (b? == some '\r' && a? != some '\n')
  | lineEnd true => a?.isNone || a? == some '\r' || (a? == some '\n' && b? != some '\r')
  | wordEdge => isWord b? != isWord a?
  | noWordEdge => isWord b? == isWord a?
  | wordStart => !isWord b? && isWord a?
  | wordEnd => isWord b? && !isWord a?

/-- Whether a place is known to meet a condition from the character in front of it alone. -/
def holdsEarly (a : Anchor) (before? : Option Char) : Bool :=
  match a with
  | textStart => before?.isNone
  | lineStart _ => before?.isNone || before? == some '\n'
  | _ => false

end Anchor

/-! ## Patterns -/

/-- A pattern of text. Where it can match in several ways it prefers some to others. -/
inductive Pattern
  /-- The empty text. -/
  | empty
  /-- One character of a set. -/
  | char (s : CharSet)
  /-- The empty text, at places that meet a condition. -/
  | anchor (a : Anchor)
  /-- One pattern after another. -/
  | seq (p q : Pattern)
  /-- One of two patterns, the first one rather than the second. -/
  | alt (p q : Pattern)
  /-- A pattern or nothing; the pattern rather than nothing if it is greedy. -/
  | optional (p : Pattern) (greedy : Bool)
  /-- A pattern any number of times; more often rather than less if it is greedy. -/
  | star (p : Pattern) (greedy : Bool)
  /-- A pattern once or more; more often rather than less if it is greedy. -/
  | repeated (p : Pattern) (greedy : Bool)
  deriving DecidableEq, Repr

namespace Pattern

/-- Patterns one after the other. -/
def seqs : List Pattern → Pattern
  | [] => empty
  | [x] => x
  | x :: xs => seq x (seqs xs)

/-- One of several patterns, the earlier ones rather than the later. -/
def alts : List Pattern → Pattern
  | [] => empty
  | [x] => x
  | x :: xs => alt x (alts xs)

/-- Whether a pattern is built so that each match takes some character. -/
def takesSome : Pattern → Bool
  | empty | anchor _ | optional _ _ | star _ _ => false
  | char _ => true
  | seq x y => x.takesSome || y.takesSome
  | alt x y => x.takesSome && y.takesSome
  | repeated x _ => x.takesSome

end Pattern

end SyntaxShapes.Text
