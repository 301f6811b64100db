import SyntaxShapes.Arena.Basic

/-!
# `SyntaxShapes.Arena.View` — a node seen in its arena

## Contents
- **`Arena.View`.** A position together with the node that stands there.
- **Steps.** `view?`, `View.parent?`, `View.child?`.
-/

namespace SyntaxShapes.Arena

/-- A node of an arena together with its position. -/
structure View (a : Arena) where
  /-- The position. -/
  index : NodeIndex
  /-- The node at that position. -/
  node : Node
  /-- The node is the one that the arena holds there. -/
  get?_index : a.get? index = some node

/-- The view of a position, if a node stands there. -/
def view? (a : Arena) (i : NodeIndex) : Option a.View :=
  match h : a.get? i with
  | some n => some ⟨i, n, h⟩
  | none => none

namespace View

variable {a : Arena}

/-- The view of the parent. -/
def parent? (v : a.View) : Option a.View := a.view? v.node.parent

/-- The view of another node, usually a child. -/
def child? (_ : a.View) (i : NodeIndex) : Option a.View := a.view? i

/-- The children of the node. -/
def children (v : a.View) : List NodeIndex := v.node.children

end View

end SyntaxShapes.Arena
