import SyntaxShapes.Json.Printer
import SyntaxShapes.Load.Basic
import SyntaxShapes.Log.Filter
import SyntaxShapes.Log.Format
import SyntaxShapes.Text.Quoted

/-!
# `SyntaxShapes.Log.Line` — the lines of a log

Everything that a run logs happens inside one span, which carries the path of the input. The tree form
shows the span itself; the other forms show it on each line, if it is logged.

## Contents
- **The span.** `runSpan`, and `eventSite` for what happens in it.
- **Lines.** `fieldText`, `textLine`, `treeLine`, `jsonLine`.
- **`lines`.** The log of a run in a given form, as far as a filter lets it through.
-/

namespace SyntaxShapes.Log

open Json (Value Members)
open Load (Event)

/-- The span around a run. -/
def runSpan (input : String) : Span :=
  { target := "tsguard::cli", level := .info, name := "run", fields := [("input", input)] }

/-- Where an event comes from. -/
def eventSite (e : Event) : Site :=
  { target := e.target, level := e.level, fields := "message" :: e.fields.map (·.1) }

/-! ## Lines -/

/-- A value as it stands in a line of text. -/
def valueText : Value → String
  | .string s => Text.quoted s
  | v => v.compact

/-- A named value as it stands in a line of text. -/
def fieldText (m : String × Value) : String :=
  m.1 ++ "=" ++ valueText m.2

/-- The named texts of a span as they stand in a line. -/
def spanFieldsText (s : Span) : String :=
  " ".intercalate (s.fields.map fun m => m.1 ++ "=" ++ m.2)

/-- An event as a line of text. -/
def textLine (span? : Option Span) (e : Event) : String :=
  let context := span?.map fun s => s.name ++ "\x7b" ++ spanFieldsText s ++ "\x7d:"
  " ".intercalate
    (e.level.name :: context.toList ++ [e.target ++ ":", e.message] ++ e.fields.map fieldText)

/-- A span as a line of a tree. -/
def treeSpanLine (s : Span) : String :=
  s.target ++ "::" ++ s.name ++ " " ++ spanFieldsText s

/-- An event as a line of a tree, further in when it stands below a span. -/
def treeLine (span? : Option Span) (e : Event) : String :=
  (if span?.isSome then "  " else "")
    ++ " ".intercalate ([e.level.name, e.target, e.message] ++ e.fields.map fieldText)

/-- A span as a JSON object. -/
def spanObject (s : Span) : Value :=
  .object ((s.fields.map fun m => (m.1, .string m.2)) ++ [("name", .string s.name)])

/-- An event as a JSON object on one line. -/
def jsonLine (span? : Option Span) (e : Event) : String :=
  let context := match span? with
    | some s => [("span", spanObject s), ("spans", .array [spanObject s])]
    | none => []
  (Value.object
    ([("level", .string e.level.name),
      ("fields", .object (("message", .string e.message) :: e.fields)),
      ("target", .string e.target)] ++ context)).compact

/-- The log of a run. -/
def lines (filter : Filter) (format : Format) (input : String) (events : List Event) :
    List String :=
  let span := runSpan input
  let shown := events.filter fun e => filter.admits span (eventSite e)
  let span? := if filter.showsSpan span then some span else none
  match format with
  | .text => shown.map (textLine span?)
  | .json => shown.map (jsonLine span?)
  | .tree => (span?.map treeSpanLine).toList ++ shown.map (treeLine span?)

end SyntaxShapes.Log
