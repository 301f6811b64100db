/-!
# `SyntaxShapes.Text.Pattern.Nested` — how deep parts of a pattern are nested

A pattern may not have parts within parts without end: a group, a repetition, a set in brackets, and any two
or more parts that are put together take a level each, and there is a limit to the levels one within another.

## Contents
- **`Nested`.** A part with its levels; `Nested.within`, `Nested.together` and `Nested.joined` add one.
- **`Nested.limited?`.** A part that keeps to the limit.
-/

namespace SyntaxShapes.Text.Pattern

/-- A part of a pattern. -/
structure Nested (α : Type) where
  /-- The part. -/
  value : α
  /-- How many levels there are in it, counted one within another. -/
  depth : Nat := 0
  deriving DecidableEq, Repr

namespace Nested

variable {α β γ : Type}

/-- The same levels around something else. -/
def map (f : α → β) (x : Nested α) : Nested β := ⟨f x.value, x.depth⟩

/-- A part within another level. -/
def within (f : α → β) (x : Nested α) : Nested β := ⟨f x.value, x.depth + 1⟩

/-- Two parts in one level. -/
def joined (f : α → β → γ) (x : Nested α) (y : Nested β) : Nested γ :=
  ⟨f x.value y.value, max x.depth y.depth + 1⟩

/-- How deep parts are nested that are put together: they share a level, but a part by itself needs none. -/
def depthOf : List (Nested α) → Nat
  | [] => 0
  | [x] => x.depth
  | xs => (xs.map (·.depth)).max?.getD 0 + 1

/-- Parts put together. -/
def together (f : List α → β) (xs : List (Nested α)) : Nested β :=
  ⟨f (xs.map (·.value)), depthOf xs⟩

/-- How many levels there may be one within another. -/
def limit : Nat := 250

/-- A part that is not nested too deep. -/
def limited? (x : Nested α) : Option α :=
  if x.depth ≤ limit then some x.value else none

@[simp] theorem limited?_eq_some_iff {x : Nested α} {a : α} :
    x.limited? = some a ↔ x.depth ≤ limit ∧ x.value = a := by
  simp [limited?]

end Nested

end SyntaxShapes.Text.Pattern
