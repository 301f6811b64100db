import SyntaxShapes.Json.Lexeme

/-!
# `SyntaxShapes.Json.Parser` — reading JSON text

The reader is a machine that takes one word at a time. It holds the containers that are still open, from
the innermost out, and what may come next. A finished value goes to the innermost open container, or is
the answer when none is open. At most one hundred and twenty-seven containers may be open at once.

## Contents
- **Machine.** `Frame`, `State`, `State.deliver`, `State.step`.
- **Reading.** `run` over the characters of a text, and `parse?`.
-/

namespace SyntaxShapes.Json

/-- A container that is still open around the value being read. -/
inductive Frame
  /-- An array, with the items before this one in reverse. -/
  | items (done : List Value)
  /-- An object, with the members before this one and this one's key. -/
  | member (done : Members) (key : String)

/-- What the machine waits for, inside which open containers. -/
inductive State
  /-- A value must follow. -/
  | value (opened : List Frame)
  /-- An array has just been opened: a value or its end. -/
  | firstItem (opened : List Frame)
  /-- An array has items, in reverse: a comma or its end. -/
  | afterItem (done : List Value) (opened : List Frame)
  /-- An object has just been opened: a key or its end. -/
  | firstKey (opened : List Frame)
  /-- An object has members and a comma: a key must follow. -/
  | key (done : Members) (opened : List Frame)
  /-- A key has been read: a colon must follow. -/
  | colon (key : String) (done : Members) (opened : List Frame)
  /-- An object has members: a comma or its end. -/
  | afterMember (done : Members) (opened : List Frame)
  /-- The text is complete. -/
  | complete (v : Value)

namespace State

/-- The most containers that may be open at once. -/
def maxOpen : Nat := 127

/-- The state after a value is complete. -/
def deliver (v : Value) : List Frame → State
  | [] => .complete v
  | .items done :: fs => .afterItem (v :: done) fs
  | .member done k :: fs => .afterMember (Members.put k v done) fs

/-- The open containers around a value that may start now, if one may. -/
def awaiting? : State → Option (List Frame)
  | .value fs => some fs
  | .firstItem fs => some (.items [] :: fs)
  | _ => none

/-- The state after one more word, none when that word may not come. -/
def step (s : State) (l : Lexeme) : Option State :=
  match l, s with
  | .scalar v, s => s.awaiting?.map (deliver v)
  | .openArray, s => s.awaiting?.bind fun fs =>
      if fs.length < maxOpen then some (.firstItem fs) else none
  | .openObject, s => s.awaiting?.bind fun fs =>
      if fs.length < maxOpen then some (.firstKey fs) else none
  | .closeArray, .firstItem fs => some (deliver (.array []) fs)
  | .closeArray, .afterItem done fs => some (deliver (.array done.reverse) fs)
  | .closeObject, .firstKey fs => some (deliver (.object []) fs)
  | .closeObject, .afterMember done fs => some (deliver (.object done) fs)
  | .comma, .afterItem done fs => some (.value (.items done :: fs))
  | .comma, .afterMember done fs => some (.key done fs)
  | .colon, .colon k done fs => some (.value (.member done k :: fs))
  | .text k, .firstKey fs => some (.colon k [] fs)
  | .text k, .key done fs => some (.colon k done fs)
  | .text t, s => s.awaiting?.map (deliver (.string t))
  | _, _ => none

end State

/-- The state after a text, word by word, none when some word may not come or is none. -/
def run (s : State) (cs : List Char) : Option State :=
  match cs with
  | [] => some s
  | c :: cs =>
    if isSpace c then run s cs
    else
      match _hl : Lexeme.next? (c :: cs) with
      | none => none
      | some (l, rest) =>
        match s.step l with
        | none => none
        | some s => run s rest
  termination_by cs.length
  decreasing_by
    · exact Nat.lt_succ_self _
    · exact Lexeme.length_of_next? _hl

/-- The value that a text is, if it is one. -/
def parse? (text : String) : Option Value :=
  match run (.value []) text.toList with
  | some (.complete v) => some v
  | _ => none

end SyntaxShapes.Json
