import SyntaxShapes.Decimal.Numeral
import SyntaxShapes.Log.Level
import SyntaxShapes.Text.Alphanumeric
import SyntaxShapes.Text.Blank
import SyntaxShapes.Text.Pattern.Machine
import SyntaxShapes.Text.Pattern.Parser

/-!
# `SyntaxShapes.Log.Directive` — one rule of what is logged

A directive is written as `target[span{field=value}]=level`, and all but one of its parts may be missing: a
level by itself is for everything, and a target without a level lets everything through. With a span it is
for what happens inside that span, with a field for what carries that field.

## Contents
- **Limits.** `Limit`, `parseLimit?`.
- **Values.** `ValueRule`, `FieldRule`: what a field has to hold.
- **Directives.** `Directive`, with the tests of what one is for.
- **Cutting.** `cut`, a part of a text by the bytes at its ends.
- **Reading.** `Draft`, its steps, and `Directive.ofText`; `DirectiveFault`, why a text is no directive.
-/

namespace SyntaxShapes.Log

/-! ## Limits -/

/-- The most detailed level that a directive lets through, as a rank; zero lets nothing through. -/
abbrev Limit := Nat

/-- The limit that a number in decimal stands for, if it is one. -/
def limitOfNumber? (cs : List Char) : Option Limit :=
  let ds := if cs.head? = some '+' then cs.tail else cs
  let n := Nat.ofDigitChars 10 ds 0
  if ds ≠ [] ∧ ds.all Char.isDigit ∧ n ≤ Level.trace.rank then some n else none

/-- The limit that a word stands for, in letters of either case. -/
def limitOfName? (cs : List Char) : Option Limit :=
  let name := String.ofList (cs.map Char.toLower)
  if name = "off" then some 0
  else if name = "error" then some Level.error.rank
  else if name = "warn" then some Level.warn.rank
  else if name = "info" then some Level.info.rank
  else if name = "debug" then some Level.debug.rank
  else if name = "trace" then some Level.trace.rank
  else none

/-- The limit that a text stands for: a number up to five, a level, or `off`. -/
def parseLimit? (cs : List Char) : Option Limit :=
  (limitOfNumber? cs).or (limitOfName? cs)

/-! ## Values -/

/-- What a field has to hold. -/
inductive ValueRule
  /-- A truth value or a number. A text is neither, whatever it reads as. -/
  | constant (text : String)
  /-- A text that fits a pattern. -/
  | pattern (text : String) (pattern : Text.Pattern)
  deriving DecidableEq, Repr

namespace ValueRule

/-- Reads a rule for a value. -/
def ofText? (s : String) : Option ValueRule :=
  if s = "true" ∨ s = "false" ∨ (Numeral.ofLiteralText? s).isSome then some (.constant s)
  else (Text.Pattern.ofText? s).map (.pattern s)

/-- Whether a text is what a field has to hold. -/
def fits : ValueRule → String → Bool
  | constant _, _ => false
  | pattern _ p, s => p.fits s

end ValueRule

/-- A field that something has to carry, and perhaps what it has to hold. -/
structure FieldRule where
  /-- The name of the field. -/
  name : String
  /-- What it has to hold. -/
  value? : Option ValueRule
  deriving DecidableEq, Repr

/-- Reads a field rule. An equals sign sets the value off, another one ends it. -/
def FieldRule.ofText? (s : String) : Option FieldRule :=
  match s.splitOn "=" with
  | name :: value :: _ => (ValueRule.ofText? value).map fun v => ⟨name, some v⟩
  | _ => some ⟨s, none⟩

/-! ## Directives -/

/-- One rule of what is logged. -/
structure Directive where
  /-- The start of the targets that the rule is for; without one it is for all. -/
  target? : Option String := none
  /-- The name of the spans that the rule is for, if it is for spans with a name. -/
  span? : Option String := none
  /-- The field that the rule asks for. -/
  field? : Option FieldRule := none
  /-- What the rule lets through. -/
  limit : Limit
  deriving DecidableEq, Repr

namespace Directive

/-- Whether a rule is for what happens inside of spans. -/
def isScoped (d : Directive) : Bool :=
  d.span?.isSome || d.field?.isSome

/-- Whether a rule asks what a field holds. -/
def asksValue (d : Directive) : Bool :=
  d.field?.any (·.value?.isSome)

/-- Whether a rule is for lines by themselves, wherever they come from. A rule for a field without a value is
for lines with that field and for spans with it. -/
def isPlain (d : Directive) : Bool :=
  d.span?.isNone && !d.asksValue

/-- Whether two rules are for the same, so that the later one stands in for the earlier one. -/
def sameScope (d e : Directive) : Bool :=
  d.target? == e.target? && d.span? == e.span? && d.field? == e.field?

/-- Whether a rule is for a target. -/
def fitsTarget (d : Directive) (target : String) : Bool :=
  d.target?.all fun t => t.toList.isPrefixOf target.toList

/-- Whether some fields include the one that a rule asks for. -/
def fitsFields (d : Directive) (names : List String) : Bool :=
  d.field?.all fun f => names.contains f.name

/-- Whether a name comes before another one; no name comes before all of them. -/
def precedes : Option String → Option String → Bool
  | _, none => false
  | none, some _ => true
  | some a, some b => a < b

/-- Whether the first of two rules for lines is more specific than the second: it has a longer target, or
it asks for a field and the other does not, or for one whose name comes later. -/
def isMoreSpecific (d e : Directive) : Bool :=
  let size := fun (x : Directive) => x.target?.map (·.utf8ByteSize + 1) |>.getD 0
  let name := fun (x : Directive) => x.field?.map (·.name)
  size e < size d || (size d == size e && precedes (name e) (name d))

end Directive

/-! ## Cutting -/

/-- Why a text is no directive. -/
inductive DirectiveFault
  /-- It does not have the form of one. -/
  | malformed
  /-- What stands for a level is none. -/
  | unknownLevel
  /-- What a field has to hold is given by a pattern that cannot be read. -/
  | unreadablePattern
  /-- One of its marks is where the text around it cannot be cut, inside of a character. -/
  | splitsCharacter
  deriving DecidableEq, Repr

/-- What is said about a text that is no directive. -/
def DirectiveFault.message : DirectiveFault → String
  | malformed => "invalid filter directive"
  | unknownLevel =>
    "error parsing level filter: expected one of \"off\", \"error\", \"warn\", \"info\", \"debug\", "
      ++ "\"trace\", or a number 0-5"
  | unreadablePattern => "invalid field filter: error building NFA"
  | splitsCharacter => "the text cannot be cut inside of a character"

/-- A text without a number of bytes at its front, if that many bytes end with a character. -/
def dropBytes? : Nat → List Char → Option (List Char)
  | 0, cs => some cs
  | _ + 1, [] => none
  | n + 1, c :: cs => if c.utf8Size ≤ n + 1 then dropBytes? (n + 1 - c.utf8Size) cs else none

/-- The front of a text with a number of bytes, if that many bytes end with a character. -/
def takeBytes? : Nat → List Char → Option (List Char)
  | 0, _ => some []
  | _ + 1, [] => none
  | n + 1, c :: cs =>
    if c.utf8Size ≤ n + 1 then (takeBytes? (n + 1 - c.utf8Size) cs).map (c :: ·) else none

/-- The part of a text from one byte to another, or to the end. -/
def cut (text : List Char) (first : Nat) (past? : Option Nat) : Except DirectiveFault (List Char) :=
  let rest? := dropBytes? first text
  let part? := match past? with
    | none => rest?
    | some past => rest?.bind (takeBytes? (past - first))
  match part? with
  | some cs => .ok cs
  | none => .error .splitsCharacter

/-! ## Reading -/

/-- Where the reading of a directive stands; parts that are open come with the byte at which they begin. -/
inductive Stage
  /-- Nothing has been read. -/
  | start
  /-- In a level or a target. -/
  | name (first : Nat)
  /-- In the name of a span. -/
  | span (first : Nat)
  /-- In a field. -/
  | field (first : Nat)
  /-- After a field. -/
  | fieldDone
  /-- After a span. -/
  | spanDone
  /-- In a level. -/
  | level (first : Nat)
  deriving DecidableEq, Repr

/-- A directive that is being read. -/
structure Draft where
  /-- Where the reading stands. -/
  stage : Stage := .start
  /-- The target, if it has been read. -/
  target? : Option String := none
  /-- The name of the span, if it has been read. -/
  span? : Option String := none
  /-- The field, if it has been read. -/
  field? : Option FieldRule := none
  deriving DecidableEq, Repr

namespace Draft

/-- Whether a directive may start with a character. -/
def mayStart (c : Char) : Bool :=
  c == '-' || c == ':' || c == '_' || Text.isAlphanumeric c

/-- Reads the next character of a text, at a byte. -/
def step (text : List Char) (d : Draft) (place : Nat) (c : Char) : Except DirectiveFault Draft :=
  match d.stage with
  | .start =>
    if c = '[' then .ok { d with stage := .span (place + 1) }
    else if mayStart c then .ok { d with stage := .name place }
    else .error .malformed
  | .name first =>
    if c = '=' ∨ c = '[' then do
      let target := String.ofList (← cut text first (some place))
      let stage := if c = '=' then Stage.level (place + 1) else .span (place + 1)
      return { d with target? := some target, stage }
    else .ok d
  | .span first =>
    if c = ']' then do
      let name := String.ofList (← cut text first (some place))
      return { d with span? := some name, stage := .spanDone }
    else if c = '\x7b' then do
      let name := String.ofList (← cut text first (some place))
      return { d with span? := if name = "" then none else some name, stage := .field (place + 1) }
    else .ok d
  | .field first =>
    if c = '\x7d' then do
      let rule := String.ofList (← cut text first (some place))
      if rule = "" then .error .malformed
      else match FieldRule.ofText? rule with
        | some f => return { d with field? := some f, stage := .fieldDone }
        | none => .error .unreadablePattern
    else .ok d
  | .fieldDone => if c = ']' then .ok { d with stage := .spanDone } else .error .malformed
  | .spanDone => if c = '=' then .ok { d with stage := .level (place + 1) } else .error .malformed
  | .level _ => .ok d

/-- Reads characters of a text from a byte on. -/
def steps (text : List Char) (d : Draft) (place : Nat) : List Char → Except DirectiveFault Draft
  | [] => .ok d
  | c :: cs => do steps text (← d.step text place c) (place + c.utf8Size) cs

/-- The directive that has been read when a text ends. A name by itself is a level if it can be one. -/
def finish (text : List Char) (d : Draft) : Except DirectiveFault Directive :=
  let directive := { target? := d.target?, span? := d.span?, field? := d.field?, limit := Level.trace.rank }
  match d.stage with
  | .name first => do
    let name ← cut text first none
    return match parseLimit? name with
      | some limit => { limit }
      | none => { directive with target? := some (String.ofList name) }
  | .level first => do
    let level ← cut text first none
    if level = [] then return directive
    else match parseLimit? level with
      | some limit => return { directive with limit }
      | none => .error .unknownLevel
  | .spanDone => .ok directive
  | _ => .error .malformed

end Draft

/-- Reads a directive. Its marks are looked for without the white space at its ends, but its parts are cut
from the text as it stands, at the places that the marks then have. -/
def Directive.ofText (s : String) : Except DirectiveFault Directive := do
  (← Draft.steps s.toList {} 0 (Text.trim s).toList).finish s.toList

end SyntaxShapes.Log
