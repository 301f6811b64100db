import SyntaxShapes.Node.Basic

/-!
# `SyntaxShapes.Arena.Basic` — the nodes of one tree

An arena owns the nodes of a tree. Nodes name each other by position, and a link may lead nowhere: every
look-up answers for every position.

## Contents
- **`Arena`.** `size`, `get?`, `payload?`, `indices`, and when a look-up succeeds (`get?_eq_some_iff`).
- **Links.** `parentOf`, `parentNode?`, `childrenOf`, and `setParent` with its effect on `get?`.
- **Names.** `identifierText?`, `sourceFileAt?`.
- **Comparison.** `sameAs`.
-/

namespace SyntaxShapes

/-- The nodes of one tree, by position. -/
structure Arena where
  /-- The nodes, in order. -/
  nodes : Array Node := #[]
  deriving DecidableEq, Repr

namespace Arena

/-- The number of nodes. -/
def size (a : Arena) : Nat := a.nodes.size

/-- The arena without nodes. -/
def empty : Arena := {}

/-- Whether there are no nodes. -/
def isEmpty (a : Arena) : Bool := a.nodes.isEmpty

/-- The node at a position, if there is one. -/
def get? (a : Arena) (i : NodeIndex) : Option Node :=
  if i.isAbsent then none else a.nodes[i.toNat]?

/-- The payload of the node at a position, if there is one. -/
def payload? (a : Arena) (i : NodeIndex) : Option Payload :=
  (a.get? i).map (·.payload)

/-- The positions of the nodes, in order. Positions have 32 bits, and so has their number. -/
def indices (a : Arena) : List NodeIndex :=
  (List.range (a.size % 2 ^ 32)).map .ofNat

@[simp] theorem get?_absent (a : Arena) : a.get? .absent = none := rfl

theorem get?_eq_some_iff {a : Arena} {i : NodeIndex} {n : Node} :
    a.get? i = some n ↔ i ≠ .absent ∧ a.nodes[i.toNat]? = some n := by
  simp [get?, NodeIndex.isAbsent]

theorem payload?_eq_some_iff {a : Arena} {i : NodeIndex} {p : Payload} :
    a.payload? i = some p ↔ ∃ n, a.get? i = some n ∧ n.payload = p := by
  simp [payload?]

theorem isSome_get?_iff {a : Arena} {i : NodeIndex} :
    (a.get? i).isSome ↔ i ≠ .absent ∧ i.toNat < a.size := by
  by_cases h : i = .absent <;> simp [get?, NodeIndex.isAbsent, size, h]

/-! ## Links -/

/-- The position of a node's parent; absent at a root and for a position without a node. -/
def parentOf (a : Arena) (i : NodeIndex) : NodeIndex :=
  ((a.get? i).map (·.parent)).getD .absent

/-- The parent of a node, if it is in the arena. -/
def parentNode? (a : Arena) (i : NodeIndex) : Option Node :=
  a.get? (a.parentOf i)

/-- The children of a node, none for a position without a node. -/
def childrenOf (a : Arena) (i : NodeIndex) : List NodeIndex :=
  ((a.get? i).map (·.children)).getD []

/-- The arena with the parent of one node replaced; nothing changes when there is no such node. -/
def setParent (a : Arena) (child parent : NodeIndex) : Arena :=
  if child.isAbsent then a
  else { a with nodes := a.nodes.modify child.toNat fun n => { n with parent } }

@[simp] theorem size_setParent (a : Arena) (c p : NodeIndex) : (a.setParent c p).size = a.size := by
  unfold setParent size
  split <;> simp

theorem get?_setParent (a : Arena) (c p i : NodeIndex) :
    (a.setParent c p).get? i =
      if i = c then (a.get? i).map fun n => { n with parent := p } else a.get? i := by
  unfold setParent
  by_cases hc : c.isAbsent = true
  · rw [if_pos hc]
    rw [NodeIndex.isAbsent_iff] at hc
    subst hc
    split
    · rename_i h
      simp [h]
    · rfl
  · rw [if_neg hc]
    by_cases hi : i.isAbsent = true
    · have : i ≠ c := by
        rintro rfl
        exact hc hi
      simp [get?, hi]
    · simp only [get?, hi, Array.getElem?_modify]
      by_cases h : i = c
      · simp [h]
      · have : ¬c.toNat = i.toNat := fun e => h (NodeIndex.toNat_inj.mp e).symm
        simp [h, this]

/-! ## Names -/

/-- The text of the name at a position. -/
def identifierText? (a : Arena) (i : NodeIndex) : Option String := do
  return (← (← a.payload? i).identifier?).text

/-- The data of the source file at a position. -/
def sourceFileAt? (a : Arena) (i : NodeIndex) : Option Payload.SourceFile := do
  (← a.payload? i).sourceFile?

/-! ## Comparison -/

/-- Whether two arenas have the same nodes, the values of literals being compared as numbers. -/
def sameAs (a b : Arena) : Bool :=
  a.nodes.isEqv b.nodes Node.sameAs

end Arena

end SyntaxShapes
