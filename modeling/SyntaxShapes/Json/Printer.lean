import SyntaxShapes.Json.Number
import SyntaxShapes.Json.Text

/-!
# `SyntaxShapes.Json.Printer` — writing JSON text

One writer for every layout. A layout says what stands before an item at a given nesting depth and what
stands between a key and its value; empty containers are always written without anything inside.

## Contents
- **Layouts.** `Layout`, `Layout.compact`, `Layout.indented`.
- **Writing.** `Value.write`, `Value.compact`, `Value.pretty`.
-/

namespace SyntaxShapes.Json

/-- How the parts of a container are set apart. -/
structure Layout where
  /-- What stands before an item at a nesting depth, and before the end of its container. -/
  lineStart : Nat → List Char
  /-- What stands between a key and its value. -/
  separator : List Char

namespace Layout

/-- Nothing but the marks. -/
def compact : Layout where
  lineStart _ := []
  separator := [':']

/-- One item a line, indented by two spaces a level. -/
def indented : Layout where
  lineStart depth := '\n' :: List.replicate (2 * depth) ' '
  separator := [':', ' ']

end Layout

namespace Value

mutual

/-- The text of a value at a nesting depth. -/
def write (L : Layout) (depth : Nat) : Value → List Char
  | .null => ['n', 'u', 'l', 'l']
  | .bool true => ['t', 'r', 'u', 'e']
  | .bool false => ['f', 'a', 'l', 's', 'e']
  | .number n => n.text
  | .string s => quote s
  | .array [] => ['[', ']']
  | .array (v :: vs) =>
    '[' :: (L.lineStart (depth + 1) ++ write L (depth + 1) v ++ writeItems L (depth + 1) vs
      ++ L.lineStart depth ++ [']'])
  | .object [] => ['\x7b', '\x7d']
  | .object ((k, v) :: ms) =>
    '\x7b' :: (L.lineStart (depth + 1) ++ quote k ++ L.separator ++ write L (depth + 1) v
      ++ writeMembers L (depth + 1) ms ++ L.lineStart depth ++ ['\x7d'])

/-- The text of the items after the first. -/
def writeItems (L : Layout) (depth : Nat) : List Value → List Char
  | [] => []
  | v :: vs => ',' :: (L.lineStart depth ++ write L depth v ++ writeItems L depth vs)

/-- The text of the members after the first. -/
def writeMembers (L : Layout) (depth : Nat) : Members → List Char
  | [] => []
  | (k, v) :: ms =>
    ',' :: (L.lineStart depth ++ quote k ++ L.separator ++ write L depth v ++ writeMembers L depth ms)

end

/-- The text of a value without blanks. -/
def compact (v : Value) : String :=
  String.ofList (v.write .compact 0)

/-- The text of a value, one item a line. -/
def pretty (v : Value) : String :=
  String.ofList (v.write .indented 0)

end Value

end SyntaxShapes.Json
