import SyntaxShapes.Text.Pattern.Escape
import SyntaxShapes.Text.Pattern.Nested

/-!
# `SyntaxShapes.Text.Pattern.Bracket` — sets of characters in brackets

Brackets hold characters, ranges, escapes, named ASCII sets and further brackets, which are taken together. A
caret in front stands for all other characters. Doubled signs between such lists make an intersection, a
difference or a symmetric difference; they are read from the left.

## Contents
- **Parts.** `scanNamed?`, `scanMember?`, `scanStart?`.
- **Nesting.** `Bracket`, one that is open; `Brackets`, all that are, and their steps.
- **`scanBrackets?`.** Reads a set from the character after its bracket.
-/

namespace SyntaxShapes.Text.Pattern

/-! ## Parts -/

/-- A named set, with colons inside of its own brackets, from the character after the bracket. -/
def scanNamed? : List Char → Option (CharSet × Bool × List Char)
  | ':' :: cs =>
    let others := cs.head? == some '^'
    let cs := if others then cs.tail else cs
    match cs.dropWhile (· ≠ ':') with
    | ':' :: ']' :: rest =>
      (CharSet.named? (String.ofList (cs.takeWhile (· ≠ ':')))).map (·, others, rest)
    | _ => none
  | _ => none

/-- A character by itself or as an escape, or a short set. -/
def scanAtom? (t : Settings) : List Char → Option (Escape × List Char)
  | [] => none
  | '\\' :: cs => scanEscape? t cs
  | c :: cs => some (.char c, cs)

/-- The character that an atom stands for. -/
def Escape.char? : Escape → Option Char
  | .char c | .byte c => some c
  | _ => none

/-- The set of an atom by itself. -/
def Escape.member? (t : Settings) : Escape → Option CharSet
  | .char c | .byte c => t.member? c
  | .short s others => t.short? s others
  | .anchor _ => none

/-- The set of a range between two atoms. -/
def range? (t : Settings) (x y : Escape) : Option CharSet := do
  t.range? (← x.char?) (← y.char?)

/-- A member of a set: an atom, or two with a hyphen between them. A hyphen before the closing bracket or
before another hyphen makes no range. -/
def scanMember? (t : Settings) (cs : List Char) : Option (CharSet × List Char) := do
  let (x, rest) ← scanAtom? t cs
  match t.skip rest with
  | [] => none
  | '-' :: tail =>
    match t.skip tail with
    | ']' :: _ | '-' :: _ => return (← x.member? t, '-' :: tail)
    | tail => do
      let (y, rest) ← scanAtom? t tail
      return (← range? t x y, rest)
  | rest => return (← x.member? t, rest)

/-- How many hyphens there are at the front of a text, and the text without them. -/
def dropHyphens (t : Settings) : List Char → Nat × List Char
  | '-' :: cs =>
    let (n, rest) := dropHyphens t (t.skip cs)
    (n + 1, rest)
  | cs => (0, cs)
termination_by cs => cs.length
decreasing_by
  have := t.length_skip_le cs
  simp only [List.length_cons]
  omega

/-- The start of a set, from the character after its bracket: whether a caret stands there, the sets of the
hyphens or of the closing bracket in front, which stand for themselves, and what follows. -/
def scanStart? (t : Settings) (cs : List Char) : Option (Bool × List CharSet × List Char) := do
  let cs := t.skip cs
  let others := cs.head? == some '^'
  let cs := if others then t.skip cs.tail else cs
  match dropHyphens t cs with
  | (0, ']' :: cs) => return (others, [← t.member? ']'], t.skip cs)
  | (0, cs) => return (others, [], cs)
  | (n, cs) => return (others, .replicate n (← t.member? '-'), cs)

/-! ## Nesting -/

/-- What a doubled sign makes of the sets before and after it. -/
inductive Junction
  /-- The characters in both. -/
  | inter
  /-- Those in the first but not in the second. -/
  | diff
  /-- Those in just one of them. -/
  | symmDiff
  deriving DecidableEq, Repr

namespace Junction

/-- The junction that a doubled sign stands for. -/
def ofSign? : Char → Option Junction
  | '&' => some inter
  | '-' => some diff
  | '~' => some symmDiff
  | _ => none

/-- Joins two sets. -/
def join : Junction → CharSet → CharSet → CharSet
  | inter => .inter
  | diff => .diff
  | symmDiff => .symmDiff

end Junction

/-- A bracket that is open. -/
structure Bracket where
  /-- What the enclosing bracket has listed before it, the last one first. -/
  outer : List (Nested CharSet)
  /-- Whether all other characters are meant. -/
  others : Bool
  /-- What stands before the last doubled sign, and that sign. -/
  joined? : Option (Nested CharSet × Junction) := none
  deriving DecidableEq, Repr

/-- The set of all that has been read in a bracket, with what was listed last. -/
def Bracket.content (b : Bracket) (listed : List (Nested CharSet)) : Nested CharSet :=
  let last := Nested.together .unions listed.reverse
  match b.joined? with
  | none => last
  | some (s, junction) => s.joined junction.join last

/-- The set of a bracket that is closed. -/
def Bracket.close? (t : Settings) (b : Bracket) (listed : List (Nested CharSet)) :
    Option (Nested CharSet) :=
  let s := (b.content listed).within id
  if b.others then (t.others? s.value).map (⟨·, s.depth⟩) else some s

/-- All brackets that are open. -/
structure Brackets where
  /-- The brackets, the innermost first. -/
  opened : List Bracket := []
  /-- What the innermost one has listed since its last doubled sign, the last one first. -/
  listed : List (Nested CharSet) := []
  deriving DecidableEq, Repr

namespace Brackets

/-- Lists a set. -/
def list (bs : Brackets) (s : CharSet) : Brackets :=
  { bs with listed := ⟨s, 0⟩ :: bs.listed }

/-- Goes on after a doubled sign. -/
def join (bs : Brackets) (junction : Junction) : Brackets :=
  match bs.opened with
  | [] => bs
  | b :: outer => { opened := { b with joined? := some (b.content bs.listed, junction) } :: outer }

/-- Closes the innermost bracket. -/
def close? (t : Settings) (bs : Brackets) : Option Brackets :=
  match bs.opened with
  | [] => none
  | b :: outer => (b.close? t bs.listed).map fun s => { opened := outer, listed := s :: b.outer }

/-- Opens a bracket, from the character after it. -/
def open? (t : Settings) (bs : Brackets) (cs : List Char) : Option (Brackets × List Char) :=
  (scanStart? t cs).map fun (others, listed, rest) =>
    ({ opened := { outer := bs.listed, others } :: bs.opened, listed := listed.map (⟨·, 0⟩) }, rest)

/-- The set of a named one under settings. -/
def named? (t : Settings) (s : CharSet) (others : Bool) : Option CharSet :=
  if t.unicode && t.caseless then none
  else if others then t.others? s
  else some (t.fold s)

/-- Reads one part between brackets. -/
def step? (t : Settings) (bs : Brackets) (c : Char) (cs : List Char) : Option (Brackets × List Char) :=
  if c = '[' then
    match scanNamed? cs with
    | some (s, others, rest) => (named? t s others).map fun s => (bs.list s, rest)
    | none => bs.open? t cs
  else if c = ']' then (bs.close? t).map (·, cs)
  else
    match Junction.ofSign? c with
    | some junction =>
      if cs.head? = some c then some (bs.join junction, cs.tail)
      else (scanMember? t (c :: cs)).map fun (s, rest) => (bs.list s, rest)
    | none => (scanMember? t (c :: cs)).map fun (s, rest) => (bs.list s, rest)

/-- Reads until all brackets are closed. A part that takes no character is none. -/
def scan? (t : Settings) (bs : Brackets) (cs : List Char) : Option (Nested CharSet × List Char) :=
  match _h : t.skip cs with
  | [] => none
  | c :: tail =>
    match bs.step? t c tail with
    | none => none
    | some (bs, rest) =>
      if bs.opened.isEmpty then bs.listed.head?.map (·, rest)
      else if rest.length ≤ tail.length then scan? t bs rest
      else none
termination_by cs.length
decreasing_by
  have := t.length_skip_le cs
  rw [_h, List.length_cons] at this
  omega

end Brackets

/-- Reads a set in brackets, from the character after the first one. -/
def scanBrackets? (t : Settings) (cs : List Char) : Option (Nested CharSet × List Char) := do
  let (bs, rest) ← Brackets.open? t {} cs
  bs.scan? t rest

end SyntaxShapes.Text.Pattern
