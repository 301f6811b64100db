import SyntaxShapes.Json.Number
import SyntaxShapes.Json.Text

/-!
# `SyntaxShapes.Json.Lexeme` — the words of JSON text

JSON text is a sequence of marks, strings and other scalars, with blanks between them.

## Contents
- **`Lexeme`.** The words.
- **`Lexeme.next?`.** The word at the front of a text; `length_of_next?` says that it takes something.
-/

namespace SyntaxShapes.Json

/-- A word of JSON text. -/
inductive Lexeme
  | openArray | closeArray | openObject | closeObject | comma | colon
  /-- A string, which is a value or the key of a member. -/
  | text (s : String)
  /-- A value that is neither a string nor a container. -/
  | scalar (v : Value)

/-- Whether a character may stand between words. -/
def isSpace (c : Char) : Bool :=
  c == ' ' || c == '\n' || c == '\r' || c == '\t'

namespace Lexeme

/-- The word at the front of a text, and what follows it. -/
def next? : List Char → Option (Lexeme × List Char)
  | '[' :: cs => some (.openArray, cs)
  | ']' :: cs => some (.closeArray, cs)
  | '\x7b' :: cs => some (.openObject, cs)
  | '\x7d' :: cs => some (.closeObject, cs)
  | ',' :: cs => some (.comma, cs)
  | ':' :: cs => some (.colon, cs)
  | '"' :: cs => (scanText? [] none cs).map fun (s, rest) => (.text s, rest)
  | 'n' :: 'u' :: 'l' :: 'l' :: cs => some (.scalar .null, cs)
  | 't' :: 'r' :: 'u' :: 'e' :: cs => some (.scalar (.bool true), cs)
  | 'f' :: 'a' :: 'l' :: 's' :: 'e' :: cs => some (.scalar (.bool false), cs)
  | cs => (scanNumeral? cs).bind fun (n, rest) =>
      (Number.ofNumeral? n).map fun x => (.scalar (.number x), rest)

/-- A word takes at least one character. -/
theorem length_of_next? {cs rest : List Char} {l : Lexeme} (h : next? cs = some (l, rest)) :
    rest.length < cs.length := by
  unfold next? at h
  split at h
  case h_7 =>
    obtain ⟨⟨s, r⟩, hs, h⟩ := Option.map_eq_some_iff.mp h
    have := length_of_scanText? hs
    simp only [Prod.mk.injEq] at h
    simp only [← h.2, List.length_cons]
    omega
  case h_11 =>
    obtain ⟨⟨n, r⟩, hn, h⟩ := Option.bind_eq_some_iff.mp h
    obtain ⟨x, -, h⟩ := Option.map_eq_some_iff.mp h
    simp only [Prod.mk.injEq] at h
    exact h.2 ▸ length_of_scanNumeral? hn
  all_goals
    simp only [Option.some.injEq, Prod.mk.injEq] at h
    simp only [← h.2, List.length_cons]
    omega

end Lexeme

end SyntaxShapes.Json
