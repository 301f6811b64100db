import SyntaxShapes.Text.Alphanumeric
import SyntaxShapes.Text.Pattern.Bracket

/-!
# `SyntaxShapes.Text.Pattern.Parser` — patterns as they are written

A pattern is written as alternatives with bars between them, each a sequence of pieces: characters, dots,
anchors, escapes, sets in brackets, and groups in parentheses, any of them repeated by a sign after it.

## Contents
- **Pieces.** `literal?`, `dot?`, `lineStart`, `lineEnd`, `ofEscape?`.
- **Groups.** `scanGroupName?`, `scanOpening?`, `Alternatives`.
- **`Reading`.** What has been read so far, and its steps.
- **`Pattern.ofText?`.** Reads a pattern.
-/

namespace SyntaxShapes.Text

namespace Pattern

/-! ## Pieces -/

/-- The pattern of a character that stands for itself. -/
def literal? (t : Settings) (c : Char) : Option Pattern :=
  if !t.caseless then some (.char (.single c))
  else if t.unicode then none
  else some (.char (.caseless (.single c)))

/-- The pattern of a dot. -/
def dot? (t : Settings) : Option Pattern :=
  if !t.unicode then none
  else if t.dotAll then some (.char .any)
  else if t.carriage then some (.char (.compl (.union (.single '\r') (.single '\n'))))
  else some (.char (.compl (.single '\n')))

/-- The pattern of a caret. -/
def lineStart (t : Settings) : Pattern :=
  .anchor (if t.perLine then .lineStart t.carriage else .textStart)

/-- The pattern of a dollar sign. -/
def lineEnd (t : Settings) : Pattern :=
  .anchor (if t.perLine then .lineEnd t.carriage else .textEnd)

/-- The pattern of an escape. Words beyond ASCII are not known. -/
def ofEscape? (t : Settings) : Escape → Option Pattern
  | .char c => literal? t c
  | .byte c => if !t.unicode && 128 ≤ c.toNat then none else literal? t c
  | .anchor a => if t.unicode && a.asksWord then none else some (.anchor a)
  | .short s others => (t.short? s others).map .char

/-! ## Groups -/

/-- Whether a character may stand in the name of a group, at its start or further on. -/
def isNameChar (c : Char) (first : Bool) : Bool :=
  if first then c == '_' || isAlphabetic c
  else c == '_' || c == '.' || c == '[' || c == ']' || isAlphanumeric c

/-- The name of a group, from its first character up to the angle bracket that ends it, and what follows
that. -/
def scanGroupName? (cs : List Char) : Option (List Char × List Char) :=
  let name := cs.takeWhile (· ≠ '>')
  match name, cs.drop name.length with
  | c :: cs', '>' :: rest =>
    if isNameChar c true && cs'.all (isNameChar · false) then some (name, rest) else none
  | _, _ => none

/-- How a parenthesis opens. -/
inductive Opening
  /-- A group, read under settings. -/
  | group (t : Settings)
  /-- A group with a name. -/
  | named (name : List Char)
  /-- No group but settings for the rest of the one that it stands in. -/
  | settings (t : Settings)
  deriving DecidableEq, Repr

/-- Reads how a parenthesis opens, from the character after it, and gives what follows. -/
def scanOpening? (t : Settings) (cs : List Char) : Option (Opening × List Char) :=
  match t.skip cs with
  | '?' :: 'P' :: '<' :: rest | '?' :: '<' :: rest =>
    (scanGroupName? rest).map fun (name, rest) => (.named name, rest)
  | '?' :: ')' :: _ => none
  | '?' :: rest =>
    (t.scan? [] rest).map fun (t, mark, rest) => (if mark = ')' then .settings t else .group t, rest)
  | rest => some (.group t, rest)

/-- The alternatives of a group that is open. -/
structure Alternatives where
  /-- Those that are complete, the last one first. -/
  complete : List (Nested Pattern) := []
  /-- The pieces of the one that is being read, the last one first; a change of settings is a piece without
  a pattern. -/
  pieces : List (Nested (Option Pattern)) := []
  deriving DecidableEq, Repr

namespace Alternatives

/-- Adds a piece. -/
def push (a : Alternatives) (x? : Nested (Option Pattern)) : Alternatives :=
  { a with pieces := x? :: a.pieces }

/-- The last alternative as a pattern. -/
def last (a : Alternatives) : Nested Pattern :=
  .together (fun xs => .seqs (xs.filterMap id)) a.pieces.reverse

/-- Begins another alternative. -/
def next (a : Alternatives) : Alternatives := { complete := a.last :: a.complete }

/-- All alternatives as a pattern. -/
def pattern (a : Alternatives) : Nested Pattern := .together .alts (a.last :: a.complete).reverse

/-- Repeats the last piece, if there is one with a pattern. -/
def repeatLast? (a : Alternatives) (loop : Pattern → Pattern) : Option Alternatives :=
  match a.pieces with
  | ⟨some x, depth⟩ :: xs => some { a with pieces := (Nested.mk x depth).within (some ∘ loop) :: xs }
  | _ => none

end Alternatives

/-! ## Reading -/

/-- What has been read of a pattern. -/
structure Reading where
  /-- The settings at this point. -/
  settings : Settings := {}
  /-- The names of groups that have been met. -/
  names : List (List Char) := []
  /-- The innermost open group. -/
  current : Alternatives := {}
  /-- The groups around it, the innermost first, each with its own settings. -/
  outer : List (Alternatives × Settings) := []
  deriving DecidableEq, Repr

namespace Reading

/-- Adds a piece. -/
def push (r : Reading) (x? : Nested (Option Pattern)) : Reading :=
  { r with current := r.current.push x? }

/-- Adds a piece that has no parts. -/
def pushSimple (r : Reading) (x : Pattern) : Reading := r.push ⟨some x, 0⟩

/-- Opens a group under settings. -/
def enter (r : Reading) (t : Settings) : Reading :=
  { r with settings := t, current := {}, outer := (r.current, r.settings) :: r.outer }

/-- Opens a parenthesis. No two groups have one name. -/
def open? (r : Reading) : Opening → Option Reading
  | .group t => some (r.enter t)
  | .named name =>
    if name ∈ r.names then none else some { r.enter r.settings with names := name :: r.names }
  | .settings t => some { r.push ⟨none, 0⟩ with settings := t }

/-- Closes the innermost group. -/
def close? (r : Reading) : Option Reading :=
  match r.outer with
  | [] => none
  | (a, t) :: outer =>
    some { r with settings := t, current := a.push (r.current.pattern.within some), outer }

/-- Repeats the last piece; a question mark after the sign makes it reluctant. -/
def repeat? (r : Reading) (loop : Pattern → Bool → Pattern) (cs : List Char) :
    Option (Reading × List Char) :=
  let reluctant := cs.head? == some '?'
  (r.current.repeatLast? (loop · (reluctant == r.settings.swapGreed))).map fun a =>
    ({ r with current := a }, if reluctant then cs.tail else cs)

/-- Reads one part of a pattern. A brace would count repetitions, and nothing closes it. -/
def step? (r : Reading) (c : Char) (cs : List Char) : Option (Reading × List Char) :=
  match c with
  | '(' => do
    let (opening, rest) ← scanOpening? r.settings cs
    return (← r.open? opening, rest)
  | ')' => r.close?.map (·, cs)
  | '|' => some ({ r with current := r.current.next }, cs)
  | '[' => (scanBrackets? r.settings cs).map fun (s, rest) => (r.push (s.map (some ∘ .char)), rest)
  | '?' => r.repeat? .optional cs
  | '*' => r.repeat? .star cs
  | '+' => r.repeat? .repeated cs
  | '\x7b' => none
  | '\\' => do
    let (e, rest) ← scanEscape? r.settings cs
    return (r.pushSimple (← ofEscape? r.settings e), rest)
  | '.' => (dot? r.settings).map fun x => (r.pushSimple x, cs)
  | '^' => some (r.pushSimple (lineStart r.settings), cs)
  | '$' => some (r.pushSimple (lineEnd r.settings), cs)
  | c => (literal? r.settings c).map fun x => (r.pushSimple x, cs)

/-- Reads the rest of a pattern. A part that takes no character is none. -/
def finish? (r : Reading) (cs : List Char) : Option (Nested Pattern) :=
  match _h : r.settings.skip cs with
  | [] => if r.outer.isEmpty then some r.current.pattern else none
  | c :: tail =>
    match r.step? c tail with
    | none => none
    | some (next, rest) => if rest.length ≤ tail.length then finish? next rest else none
termination_by cs.length
decreasing_by
  have := r.settings.length_skip_le cs
  rw [_h, List.length_cons] at this
  omega

end Reading

/-- Reads a pattern. One that is nested too deep is none. -/
def ofText? (s : String) : Option Pattern :=
  (Reading.finish? {} s.toList).bind Nested.limited?

end Pattern

end SyntaxShapes.Text
