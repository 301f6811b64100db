import SyntaxShapes.Json.Text
import SyntaxShapes.Text.Pattern.Basic
import SyntaxShapes.Text.Pattern.Settings

/-!
# `SyntaxShapes.Text.Pattern.Escape` — what a backslash stands for

## Contents
- **`Escape`.** A character, an anchor, or one of the short sets.
- **`scanEscape?`.** Reads an escape from the character after the backslash.
- **Sets under settings.** `Settings.fold`, `Settings.others?`, `Settings.range?`, `Settings.member?` and
  `Settings.short?`.
-/

namespace SyntaxShapes.Text.Pattern

/-- What an escape stands for. -/
inductive Escape
  /-- A character. -/
  | char (c : Char)
  /-- A character that is given by two hexadecimal digits. -/
  | byte (c : Char)
  /-- A condition on a place. -/
  | anchor (a : Anchor)
  /-- The digits, the white space or the characters of words, or all others. -/
  | short (s : CharSet) (others : Bool)
  deriving DecidableEq, Repr

/-- The character with a code point, if there is one. -/
def charOfCode? (n : Nat) : Option Char :=
  if n.isValidChar then some (.ofNat n) else none

/-- The value of a number of hexadecimal digits at the front of a text, and what follows them. -/
def scanHex? (t : Settings) (value : Nat) : Nat → List Char → Option (Nat × List Char)
  | 0, cs => some (value, cs)
  | n + 1, cs =>
    match t.skip cs with
    | [] => none
    | c :: cs => do scanHex? t (value * 16 + (← Json.hexDigit? c)) n cs

/-- The character that a letter after a backslash stands for. -/
def control? : Char → Option Char
  | 'a' => some '\x07'
  | 'f' => some '\x0c'
  | 't' => some '\t'
  | 'n' => some '\n'
  | 'r' => some '\r'
  | 'v' => some '\x0b'
  | _ => none

/-- The condition that a character after a backslash stands for. -/
def anchor? : Char → Option Anchor
  | 'A' => some .textStart
  | 'z' => some .textEnd
  | 'b' => some .wordEdge
  | 'B' => some .noWordEdge
  | '<' => some .wordStart
  | '>' => some .wordEnd
  | _ => none

/-- The set that a letter after a backslash stands for, or whose other characters it stands for. -/
def short? : Char → Option Escape
  | 'd' => some (.short .digits false)
  | 'D' => some (.short .digits true)
  | 's' => some (.short .space false)
  | 'S' => some (.short .space true)
  | 'w' => some (.short .word false)
  | 'W' => some (.short .word true)
  | _ => none

/-- How many hexadecimal digits follow a letter after a backslash. -/
def hexDigits? : Char → Option Nat
  | 'x' => some 2
  | 'u' => some 4
  | 'U' => some 8
  | _ => none

/-- Whether a character may be escaped without need: any ASCII character but letters, digits and the two
that stand for edges of words. -/
def isEscapable (c : Char) : Bool :=
  c.toNat < 128 && !c.isAlphanum && c != '<' && c != '>'

/-- Reads an escape from the character after its backslash, and gives what follows. The edge of a word may
not be narrowed by a name in braces. -/
def scanEscape? (t : Settings) : List Char → Option (Escape × List Char)
  | [] => none
  | c :: cs =>
    match hexDigits? c with
    | some n => do
      let (value, rest) ← scanHex? t 0 n cs
      let d ← charOfCode? value
      return (if c = 'x' then .byte d else .char d, t.skip rest)
    | none =>
      if isEscapable c then some (.char c, cs)
      else if c = 'b' ∧ cs.head? = some '\x7b' then none
      else
        ((control? c).map .char).or (((anchor? c).map .anchor).or (short? c)) |>.map (·, cs)

/-! ## Sets under settings

Beyond ASCII the cases of letters are not known, nor what counts as a digit, as white space or as part of a
word. Under settings that would ask for them there is no set. -/

namespace Settings

/-- A set with both cases of its letters, if cases do not count. -/
def fold (t : Settings) (s : CharSet) : CharSet :=
  if t.caseless then .caseless s else s

/-- The characters outside of a set; without characters beyond ASCII there are none to be had. -/
def others? (t : Settings) (s : CharSet) : Option CharSet :=
  if t.unicode then some (.compl s) else none

/-- Whether a character may stand in a set. -/
def admits (t : Settings) (c : Char) : Bool :=
  if t.unicode then !t.caseless else c.toNat < 128

/-- The set of the characters from one to another, as it is listed in a set. -/
def range? (t : Settings) (first last : Char) : Option CharSet :=
  if first ≤ last ∧ t.admits first ∧ t.admits last then some (t.fold (.range first last)) else none

/-- The set of a character that is listed in a set. -/
def member? (t : Settings) (c : Char) : Option CharSet := t.range? c c

/-- The set of a short escape, which has both cases of its letters anyway. -/
def short? (t : Settings) (s : CharSet) (others : Bool) : Option CharSet :=
  if t.unicode || others then none else some s

end Settings

end SyntaxShapes.Text.Pattern
