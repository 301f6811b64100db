import SyntaxShapes.Report.Basic

/-!
# `SyntaxShapes.Report.Text` — a report for reading

One line for each listed node, in columns, then one line for each node that could not be used, then on
request an empty line and the number of nodes of each shape. A column that overflows pushes the rest of its
line to the right; a space always stands between two columns.

## Contents
- **Columns.** `padRight`, `padLeft`.
- **Colour.** `Paint`.
- **Lines.** `entryLine`, `malformedLine`, `summaryLines`, `lines`.
- **`Report.text`.** All lines, each with its line end.
-/

namespace SyntaxShapes

/-! ## Columns -/

/-- A text filled up with spaces on its right. -/
def padRight (width : Nat) (cs : List Char) : List Char :=
  cs ++ List.replicate (width - cs.length) ' '

/-- A text filled up with spaces on its left. -/
def padLeft (width : Nat) (cs : List Char) : List Char :=
  List.replicate (width - cs.length) ' ' ++ cs

/-! ## Colour -/

/-- Whether parts of a report are coloured. -/
inductive Paint
  | plain | colour
  deriving DecidableEq, Repr

namespace Paint

/-- A text between the codes that switch a style on and off again. -/
def styled (style : String) (cs : List Char) : Paint → List Char
  | .plain => cs
  | .colour => '\x1b' :: '[' :: style.toList ++ 'm' :: cs ++ ['\x1b', '[', '0', 'm']

/-- A text in green. -/
def green (p : Paint) (cs : List Char) : List Char := p.styled "32" cs

/-- A text in bold yellow. -/
def boldYellow (p : Paint) (cs : List Char) : List Char := p.styled "1;33" cs

end Paint

namespace Report

open Load (Malformed)

/-! ## Lines -/

/-- A natural number in decimal. -/
def decimal (n : Nat) : List Char := Nat.toDigits 10 n

/-- The names of some shapes, with commas between them. -/
def shapeNames (shapes : List Shape) : List Char :=
  [',', ' '].intercalate (shapes.map fun s => s.name.toList)

/-- The line of a listed node. -/
def entryLine (p : Paint) (e : Entry) : List Char :=
  '#' :: padRight 5 (decimal e.index.toNat) ++ ' ' :: padRight 28 e.kind.name.toList
    ++ ' ' :: '[' :: decimal e.pos.toNat ++ '.' :: '.' :: decimal e.stop.toNat
    ++ ']' :: ' ' :: p.green (shapeNames e.shapes)

/-- The line of a node that could not be used. -/
def malformedLine (p : Paint) (m : Malformed) : List Char :=
  p.boldYellow "malformed".toList ++ " node #".toList ++ decimal m.index.toNat
    ++ ':' :: ' ' :: m.reason.message.toList

/-- The lines of a summary, after an empty one; nothing when no shape occurs. -/
def summaryLines : List (Shape × Nat) → List (List Char)
  | [] => []
  | summary => [] :: summary.map fun (s, n) => padLeft 6 (decimal n) ++ ' ' :: ' ' :: s.name.toList

/-- The lines of a report. -/
def lines (r : Report) (p : Paint) (withSummary : Bool) : List (List Char) :=
  r.nodes.map (entryLine p) ++ r.malformed.map (malformedLine p)
    ++ if withSummary then summaryLines r.summary else []

/-- A report as text. -/
def text (r : Report) (p : Paint) (withSummary : Bool) : String :=
  String.ofList ((r.lines p withSummary).flatMap (· ++ ['\n']))

end Report

end SyntaxShapes
