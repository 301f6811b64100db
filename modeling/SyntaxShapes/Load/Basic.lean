import SyntaxShapes.Arena.Json
import SyntaxShapes.Load.Guard
import SyntaxShapes.Log.Level

/-!
# `SyntaxShapes.Load.Basic` — reading a tree leniently

A tree arrives as an array of nodes, by itself or under `nodes` in an object. A node that cannot be read
is recorded with the reason and replaced by a placeholder, so the positions of all others stay valid.

## Contents
- **One node.** `Reason`, `readNode`.
- **Events.** `Event`, what is logged along the way.
- **Trees.** `Malformed`, `Loaded`, `LoadError`, `rawNodes`.
- **All raw nodes.** `Progress`, what each of them adds to; `load`.
-/

namespace SyntaxShapes.Load

open Json (Value ReadError)

/-! ## One node -/

/-- Why a raw node could not be used. -/
inductive Reason
  /-- It is no node at all. -/
  | guard (fault : GuardFault)
  /-- It is one, but its fields cannot be read. -/
  | read (error : ReadError)
  deriving DecidableEq, Repr

/-- The wording of a reason. -/
def Reason.message : Reason → String
  | .guard _ => "missing one of kind, flags, pos, end"
  | .read e => e.message

/-- Reads one raw node. -/
def readNode (v : Value) : Except Reason Node :=
  match guardFault? v with
  | some fault => .error (.guard fault)
  | none => (Node.read v).mapError .read

/-! ## Events -/

/-- Something that happened while a tree was read. -/
inductive Event
  /-- A raw node was no object. -/
  | notObject (typeName : String)
  /-- A raw node lacked a required key. -/
  | keyMissing (key : String)
  /-- A raw node was replaced by the placeholder. -/
  | replaced (index : UInt32)
  /-- All raw nodes have been read. -/
  | finished (nodes malformed : Nat)
  deriving DecidableEq, Repr

namespace Event

/-- The event of a guard's fault. -/
def ofFault : GuardFault → Event
  | .notObject typeName => .notObject typeName
  | .missing key => .keyMissing key

/-- The weight of an event. -/
def level : Event → Log.Level
  | .notObject _ | .keyMissing _ => .trace
  | .replaced _ => .warn
  | .finished _ _ => .debug

/-- The text of an event. -/
def message : Event → String
  | .notObject _ => "is_node: not an object"
  | .keyMissing _ => "is_node: required field missing"
  | .replaced _ => "replacing malformed node with an Unknown token"
  | .finished _ _ => "arena loaded"

/-- The named values of an event. -/
def fields : Event → Json.Members
  | .notObject typeName => [("value_type", .string typeName)]
  | .keyMissing key => [("field", .string key)]
  | .replaced index => [("index", .nat index.toNat)]
  | .finished nodes malformed => [("nodes", .nat nodes), ("malformed", .nat malformed)]

/-- The part of the program that an event comes from. -/
def target : Event → String
  | .notObject _ | .keyMissing _ => "tsguard_classify::node_guard"
  | .replaced _ | .finished _ _ => "tsguard::cli::report"

end Event

/-- The events of a guard that looks at one value. -/
def guardEvents (v : Value) : List Event :=
  ((guardFault? v).map Event.ofFault).toList

/-! ## Trees -/

/-- A raw node that could not be used. -/
structure Malformed where
  /-- Its position. -/
  index : UInt32
  /-- Why it could not be used. -/
  reason : Reason
  deriving DecidableEq, Repr

/-- A tree that has been read, and what was met on the way. -/
structure Loaded where
  /-- The nodes, with placeholders for those that could not be used. -/
  arena : Arena
  /-- The nodes that could not be used, in order. -/
  malformed : List Malformed
  /-- What was logged, in order. -/
  events : List Event
  deriving DecidableEq, Repr

/-- Why no tree could be read. -/
inductive LoadError
  /-- The value is neither an array nor an object. -/
  | notArena
  /-- The object has no `nodes`. -/
  | noNodes
  /-- What stands under `nodes` is no array. -/
  | nodesNotArray
  deriving DecidableEq, Repr

/-- The wording of a failure. -/
def LoadError.message : LoadError → String
  | .notArena => "expected a node arena (object or array)"
  | .noNodes => "expected an object with a `nodes` array"
  | .nodesNotArray => "`nodes` must be an array"

/-- The raw nodes of a value. -/
def rawNodes : Value → Except LoadError (List Value)
  | .array vs => .ok vs
  | .object ms =>
    match Json.Members.get? "nodes" ms with
    | some (.array vs) => .ok vs
    | some _ => .error .nodesNotArray
    | none => .error .noNodes
  | _ => .error .notArena

/-! ## All raw nodes -/

/-- What reading some raw nodes has led to. -/
structure Progress where
  /-- A node for each of them. -/
  nodes : Array Node := #[]
  /-- Those that could not be used. -/
  malformed : Array Malformed := #[]
  /-- What was logged. -/
  events : Array Event := #[]

namespace Progress

/-- Reads the raw node at the next position. The guard speaks first; what cannot be used is put on record, and
    the placeholder that stands in for it is noted. -/
def readNext (p : Progress) (raw : Value) (i : Nat) : Progress :=
  let index := UInt32.ofNat i
  let noted := p.events.appendList (guardEvents raw)
  match readNode raw with
  | .ok n => { p with nodes := p.nodes.push n, events := noted }
  | .error reason =>
    { nodes := p.nodes.push .placeholder
      malformed := p.malformed.push ⟨index, reason⟩
      events := noted.push (.replaced index) }

/-- Reads some raw nodes. -/
def readAll (raws : List Value) : Progress :=
  raws.zipIdx.foldl (fun p r => p.readNext r.1 r.2) {}

/-- The tree when all raw nodes have been read. -/
def finish (p : Progress) : Loaded :=
  { arena := ⟨p.nodes⟩
    malformed := p.malformed.toList
    events := (p.events.push (.finished p.nodes.size p.malformed.size)).toList }

end Progress

/-- Reads a tree. -/
def load (v : Value) : Except LoadError Loaded :=
  (rawNodes v).map fun raws => (Progress.readAll raws).finish

end SyntaxShapes.Load
