import SyntaxShapes.Log.Directive

/-!
# `SyntaxShapes.Log.Filter` — what is logged

A filter is a list of directives with commas between them. Plain rules decide on a line by itself: the most
specific one that is for it. Scoped rules decide on spans, and let through what happens inside of those that
they are for. Nothing is logged that is more detailed than the most detailed of all rules.

## Contents
- **What is asked about.** `Site`, where a line comes from; `Span`, what it happens in.
- **Filters.** `Filter`, `Filter.ofText`.
- **Decisions.** `Filter.ceiling`, `Filter.admitsSite`, `Filter.showsSpan` and `Filter.admits`.
-/

namespace SyntaxShapes.Log

/-! ## What is asked about -/

/-- Where a line comes from. -/
structure Site where
  /-- The part of the program. -/
  target : String
  /-- How much the line matters. -/
  level : Level
  /-- The names of the values that the line carries. -/
  fields : List String
  deriving DecidableEq, Repr

/-- Something that takes a while, in which lines are logged. -/
structure Span where
  /-- The part of the program. -/
  target : String
  /-- How much it matters. -/
  level : Level
  /-- Its name. -/
  name : String
  /-- The texts that it carries, with their names. -/
  fields : List (String × String)
  deriving DecidableEq, Repr

namespace Directive

/-- Whether a plain rule is for a line. -/
def isForSite (d : Directive) (s : Site) : Bool :=
  d.fitsTarget s.target && d.fitsFields s.fields

/-- Whether a scoped rule is for a span. -/
def isForSpan (d : Directive) (s : Span) : Bool :=
  d.fitsTarget s.target && d.span?.all (· == s.name) && d.fitsFields (s.fields.map (·.1))

/-- Whether a span carries the value that a rule asks for, if it asks for one. -/
def fitsValues (d : Directive) (s : Span) : Bool :=
  d.field?.all fun f => f.value?.all fun v => (s.fields.lookup f.name).any v.fits

end Directive

/-! ## Filters -/

/-- The rules of what is logged, and the texts that were no rules. -/
structure Filter where
  /-- The rules, in the order given. -/
  directives : List Directive
  /-- The texts that were no rules, each with what is wrong with it. -/
  ignored : List (String × DirectiveFault) := []
  deriving DecidableEq, Repr

namespace Filter

/-- The filter without a rule of its own: it lets errors through and nothing else. -/
def base : Filter := { directives := [{ limit := Level.error.rank }] }

/-- Reads parts of a filter, each a directive. -/
def ofParts : List String → Except DirectiveFault Filter
  | [] => .ok { directives := [] }
  | part :: parts =>
    match Directive.ofText part with
    | .error .splitsCharacter => .error .splitsCharacter
    | .error fault => (ofParts parts).map fun f => { f with ignored := (part, fault) :: f.ignored }
    | .ok d => (ofParts parts).map fun f => { f with directives := d :: f.directives }

/-- Reads a filter. What is no directive is noted and left out, but a text that cannot be cut at its marks
makes the whole filter unusable. -/
def ofText (s : String) : Except DirectiveFault Filter :=
  (ofParts ((s.splitOn ",").filter (· ≠ ""))).map fun f =>
    if f.directives.isEmpty then { base with ignored := f.ignored } else f

/-! ## Decisions -/

/-- The rules of a list without those that a later one stands in for. -/
def latest : List Directive → List Directive
  | [] => []
  | d :: ds => if ds.any d.sameScope then latest ds else d :: latest ds

/-- The largest of some limits, and zero of none. -/
def largest (limits : List Limit) : Limit :=
  limits.foldl max 0

/-- The most detailed level that is let through at all. When values of spans are asked for, that is any. -/
def ceiling (f : Filter) : Limit :=
  if f.directives.any (·.asksValue) then Level.trace.rank
  else largest (f.directives.map (·.limit))

/-- The rule that decides among some plain rules: the most specific of them. -/
def decisive? (rules : List Directive) : Option Directive :=
  rules.foldl
    (fun best? d => match best? with
      | some b => if d.isMoreSpecific b then some d else some b
      | none => some d)
    none

/-- Whether one of some plain rules decides that a level is let through. -/
def admitsBy (rules : List Directive) (level : Level) : Bool :=
  (decisive? rules).any fun d => level.rank ≤ d.limit

/-- The rules for lines by themselves. -/
def plainRules (f : Filter) : List Directive :=
  latest (f.directives.filter (·.isPlain))

/-- The rules for what happens in spans. -/
def scopedRules (f : Filter) : List Directive :=
  latest (f.directives.filter (·.isScoped))

/-- Whether the plain rules let a line through. -/
def admitsSite (f : Filter) (s : Site) : Bool :=
  admitsBy (f.plainRules.filter (·.isForSite s)) s.level

/-- Whether the plain rules let a span through. They do not ask for its fields. -/
def admitsSpan (f : Filter) (s : Span) : Bool :=
  admitsBy (f.plainRules.filter (·.fitsTarget s.target)) s.level

/-- The scoped rules for a span. -/
def spanRules (f : Filter) (s : Span) : List Directive :=
  f.scopedRules.filter (·.isForSpan s)

/-- Whether a span is logged: when a scoped rule is for it, whatever its value, or plain rules let it
through. -/
def showsSpan (f : Filter) (s : Span) : Bool :=
  s.level.rank ≤ f.ceiling && (!(f.spanRules s).isEmpty || f.admitsSpan s)

/-- The limit for what happens in a span that is logged. -/
def spanLimit (f : Filter) (s : Span) : Limit :=
  let rules := (f.spanRules s).filter (·.fitsValues s)
  if s.level.rank ≤ f.ceiling then largest (rules.map (·.limit)) else 0

/-- Whether a line is let through in a span. -/
def admits (f : Filter) (span : Span) (s : Site) : Bool :=
  s.level.rank ≤ f.ceiling && (f.admitsSite s || s.level.rank ≤ f.spanLimit span)

end Filter

end SyntaxShapes.Log
