import SyntaxShapes.Json.Value

/-!
# `SyntaxShapes.Load.Guard` — is this value a node at all

Values from outside are looked at before anything reads their fields. A value passes when it is an object
in which four header keys are present and not null. Every value gets an answer.

## Contents
- **`guardFault?`.** The first thing that is wrong with a value; `isNode` when there is none.
- **`isNode_iff`.** What passing means.
-/

namespace SyntaxShapes.Load

open Json (Value)

/-- The keys that every serialised node carries. -/
def requiredKeys : List String := ["kind", "flags", "pos", "end"]

/-- Why a value is no node. -/
inductive GuardFault
  /-- It is no object but a value of another type. -/
  | notObject (typeName : String)
  /-- A required key is absent or null. -/
  | missing (key : String)
  deriving DecidableEq, Repr

/-- Whether an object has something other than null under a key. -/
def isPresent (ms : Json.Members) (key : String) : Bool :=
  match ms.get? key with
  | none | some .null => false
  | some _ => true

/-- The first thing that is wrong with a value, if it is no node. -/
def guardFault? : Value → Option GuardFault
  | .object ms => (requiredKeys.find? fun key => !isPresent ms key).map .missing
  | v => some (.notObject v.typeName)

/-- Whether a value may be a node. -/
def isNode (v : Value) : Bool := (guardFault? v).isNone

theorem isNode_iff {v : Value} :
    isNode v = true ↔ ∃ ms, v = .object ms ∧ ∀ key ∈ requiredKeys, isPresent ms key = true := by
  cases v <;> simp [isNode, guardFault?]

end SyntaxShapes.Load
