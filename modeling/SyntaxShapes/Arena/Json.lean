import SyntaxShapes.Arena.Basic
import SyntaxShapes.Json.Parser
import SyntaxShapes.Json.Printer
import SyntaxShapes.Node.Json

/-!
# `SyntaxShapes.Arena.Json` — arenas as JSON

An arena is an object whose only field holds its nodes. The reader here is the strict one: a single node
that cannot be read is a fault of the whole. (`SyntaxShapes.Load` has the lenient one.)

## Contents
- **Values.** `Arena.read`, `Arena.toJson`, and `Arena.nodesJson` for the bare array.
- **Text.** `Arena.text`.
-/

namespace SyntaxShapes.Arena

open Json (Value Field Values ReadError)

/-- The only field of an arena. -/
def fields : List (Field fun _ : Unit => List Node) :=
  [⟨"nodes", (), none⟩]

/-- Reads the nodes of an arena. -/
def readNodes (_ : Unit) (v : Value) : Except ReadError (List Node) :=
  Json.readList Node.read v

/-- The arena with given field values. -/
def ofValues : Values fields → Arena
  | (nodes, ()) => ⟨nodes.toArray⟩

/-- Reads an arena, from an object or from an array of its fields. -/
def read : Value → Except ReadError Arena
  | .object ms => ofValues <$> Json.readObject readNodes fields ms
  | .array vs => ofValues <$> Json.readArray readNodes .alone "NodeArena" fields vs
  | v => .error (.wrongType v.found (.record "NodeArena"))

/-- The nodes of an arena as a JSON array. -/
def nodesJson (a : Arena) : Value :=
  .array (a.nodes.toList.map Node.toJson)

/-- An arena as a JSON object. -/
def toJson (a : Arena) : Value :=
  .object [("nodes", a.nodesJson)]

/-- The JSON text of an arena, without blanks. -/
def text (a : Arena) : String :=
  a.toJson.compact

end SyntaxShapes.Arena
