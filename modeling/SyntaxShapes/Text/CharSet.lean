/-!
# `SyntaxShapes.Text.CharSet` — sets of characters

A set of characters as it is put together in a pattern: from ranges, by union, intersection, symmetric
difference and complement, and by letting ASCII letters stand for both of their cases.

## Contents
- **`CharSet`.** The ways to put a set together; `mem` says what is in it.
- **Named sets.** `CharSet.any`, `CharSet.named?`, the classes of ASCII characters with a name.
-/

namespace SyntaxShapes.Text

/-- A set of characters. -/
inductive CharSet
  /-- No character. -/
  | empty
  /-- The characters from one to another, both included. -/
  | range (first last : Char)
  /-- All other characters. -/
  | compl (s : CharSet)
  /-- The characters in either set. -/
  | union (s t : CharSet)
  /-- The characters in both sets. -/
  | inter (s t : CharSet)
  /-- The characters in just one of two sets. -/
  | symmDiff (s t : CharSet)
  /-- The characters of a set, and its ASCII letters in the other case. -/
  | caseless (s : CharSet)
  deriving DecidableEq, Repr

/-- An ASCII letter in its other case, and any other character as it is. -/
def otherCase (c : Char) : Char :=
  if c.isUpper then c.toLower else c.toUpper

namespace CharSet

/-- Whether a character is in a set. -/
def mem : CharSet → Char → Bool
  | empty, _ => false
  | range first last, c => first ≤ c && c ≤ last
  | compl s, c => !s.mem c
  | union s t, c => s.mem c || t.mem c
  | inter s t, c => s.mem c && t.mem c
  | symmDiff s t, c => s.mem c != t.mem c
  | caseless s, c => s.mem c || s.mem (otherCase c)

/-- The set of one character. -/
def single (c : Char) : CharSet := range c c

@[simp] theorem mem_single {c d : Char} : (single c).mem d = true ↔ d = c := by
  simp only [single, mem, Bool.and_eq_true, decide_eq_true_eq]
  exact ⟨fun h => Char.le_antisymm h.2 h.1, fun h => h ▸ ⟨Char.le_refl _, Char.le_refl _⟩⟩

/-- Every character. -/
def any : CharSet := compl empty

/-- The characters of one set that are not in another. -/
def diff (s t : CharSet) : CharSet := inter s (compl t)

/-- The characters in any of some sets. -/
def unions : List CharSet → CharSet :=
  List.foldr union empty

/-! ## Named sets -/

/-- The ASCII digits. -/
def digits : CharSet := range '0' '9'

/-- The ASCII letters that are small. -/
def lower : CharSet := range 'a' 'z'

/-- The ASCII letters that are capital. -/
def upper : CharSet := range 'A' 'Z'

/-- The ASCII letters. -/
def letters : CharSet := union upper lower

/-- The ASCII characters that words are made of. -/
def word : CharSet := unions [digits, letters, single '_']

/-- The ASCII white space. -/
def space : CharSet := union (range '\t' '\r') (single ' ')

/-- The ASCII characters that have a glyph. -/
def graph : CharSet := range '!' '~'

/-- The ASCII characters with a name. -/
def named? : String → Option CharSet
  | "alnum" => some (union digits letters)
  | "alpha" => some letters
  | "ascii" => some (range '\x00' '\x7f')
  | "blank" => some (union (single '\t') (single ' '))
  | "cntrl" => some (union (range '\x00' '\x1f') (single '\x7f'))
  | "digit" => some digits
  | "graph" => some graph
  | "lower" => some lower
  | "print" => some (range ' ' '~')
  | "punct" => some (diff graph (union digits letters))
  | "space" => some space
  | "upper" => some upper
  | "word" => some word
  | "xdigit" => some (unions [digits, range 'A' 'F', range 'a' 'f'])
  | _ => none

end CharSet

end SyntaxShapes.Text
