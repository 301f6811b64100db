import SyntaxShapes.Json.Printer
import SyntaxShapes.Report.Basic

/-!
# `SyntaxShapes.Report.Json` — a report for programs

A report as an object with the keys `nodes`, `malformed` and `summary`, always all three.

## Contents
- **Values.** `entryJson`, `malformedJson`, `countJson`, `toJson`.
- **Text.** `jsonText`.
-/

namespace SyntaxShapes.Report

open Json (Value)
open Load (Malformed)

/-- A shape as a JSON value. -/
def shapeJson (s : Shape) : Value := .string s.serialName

/-- A listed node as a JSON value. -/
def entryJson (e : Entry) : Value :=
  .object
    [("index", .nat e.index.toNat), ("kind", .string e.kind.name), ("pos", .nat e.pos.toNat),
     ("end", .nat e.stop.toNat), ("shapes", .array (e.shapes.map shapeJson))]

/-- A node that could not be used as a JSON value. -/
def malformedJson (m : Malformed) : Value :=
  .object [("index", .nat m.index.toNat), ("reason", .string m.reason.message)]

/-- A shape and its number of nodes as a JSON value. -/
def countJson (p : Shape × Nat) : Value :=
  .object [("shape", shapeJson p.1), ("count", .nat p.2)]

/-- A report as a JSON value. -/
def toJson (r : Report) : Value :=
  .object
    [("nodes", .array (r.nodes.map entryJson)), ("malformed", .array (r.malformed.map malformedJson)),
     ("summary", .array (r.summary.map countJson))]

/-- A report as JSON text with a line end. -/
def jsonText (r : Report) : String :=
  String.ofList (r.toJson.write .indented 0 ++ ['\n'])

end SyntaxShapes.Report
