import SyntaxShapes.Text.Blank

/-!
# `SyntaxShapes.Log.Format` — the forms of a log

## Contents
- **`Format`.** Plain lines, an indented tree, or one JSON object a line.
- **`Format.ofText`.** The form that a setting names, in letters of either case.
-/

namespace SyntaxShapes.Log

/-- The form in which a log is written. -/
inductive Format
  | text | tree | json
  deriving DecidableEq, Repr

/-- The form that a setting names. Space around the name does not matter; what names no form means plain
lines. -/
def Format.ofText (s : String) : Format :=
  let name := String.ofList ((Text.trim s).toList.map Char.toLower)
  if name = "tree" then .tree
  else if name = "json" then .json
  else .text

end SyntaxShapes.Log
