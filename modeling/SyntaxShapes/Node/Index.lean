import SyntaxShapes.Power

/-!
# `SyntaxShapes.Node.Index` — how nodes refer to each other

Nodes of one tree stand in an arena and name each other by position. One position is set aside to mean
that there is no node: an absent child, or a missing parent.

## Contents
- **`NodeIndex`.** A position; `absent`, `isAbsent`.
- **`NodeList`.** An ordered list of positions with a span of its own; `first`.
-/

namespace SyntaxShapes

/-- The position of a node in its arena. -/
structure NodeIndex where
  /-- The position as a number. -/
  val : UInt32
  deriving DecidableEq, Repr

namespace NodeIndex

/-- The position that names no node. -/
def absent : NodeIndex := ⟨4294967295⟩

/-- Whether a position names no node, by being set aside for that. -/
def isAbsent (i : NodeIndex) : Bool := i == absent

/-- The position of the `n`-th node. Positions wrap at 32 bits. -/
def ofNat (n : Nat) : NodeIndex := ⟨.ofNat n⟩

/-- A position as a natural number. -/
def toNat (i : NodeIndex) : Nat := i.val.toNat

instance : Inhabited NodeIndex := ⟨absent⟩

theorem isAbsent_iff {i : NodeIndex} : i.isAbsent = true ↔ i = absent := by
  simp [isAbsent]

theorem toNat_absent : absent.toNat = 2 ^ 32 - 1 := rfl

theorem toNat_lt (i : NodeIndex) : i.toNat < 2 ^ 32 := i.val.toNat_lt

theorem toNat_ofNat {n : Nat} (h : n < 2 ^ 32) : (ofNat n).toNat = n := by
  simpa [ofNat, toNat] using h

theorem ofNat_toNat (i : NodeIndex) : ofNat i.toNat = i := by
  simp [ofNat, toNat]

theorem toNat_inj {i j : NodeIndex} : i.toNat = j.toNat ↔ i = j := by
  constructor
  · intro h
    rw [← ofNat_toNat i, h, ofNat_toNat]
  · rintro rfl
    rfl

end NodeIndex

/-- An ordered list of nodes: arguments, declarations, statements. -/
structure NodeList where
  /-- The nodes, in source order. -/
  nodes : List NodeIndex := []
  /-- Where the list starts in the source. -/
  pos : UInt32 := 0
  /-- Where the list ends in the source. -/
  stop : UInt32 := 0
  deriving DecidableEq, Repr

namespace NodeList

/-- A list of nodes without a span of its own. -/
def ofNodes (nodes : List NodeIndex) : NodeList := { nodes }

/-- The first node, or the absent one. -/
def first (l : NodeList) : NodeIndex := l.nodes.headD .absent

end NodeList

end SyntaxShapes
