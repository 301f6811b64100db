import SyntaxShapes.Load.Basic
import SyntaxShapes.Shape.Classify

/-!
# `SyntaxShapes.Report.Basic` — what is reported about a tree

A report lists nodes with their shapes, the nodes that could not be used, and how many nodes have each
shape. Options choose which nodes are listed; they change nothing else.

## Contents
- **`Options`, `Entry`, `Report`.**
- **`Options.keeps`.** Whether a node with given shapes is listed.
- **One node.** `entryAt?`.
- **All nodes.** `Progress`, with `bump`, `Progress.add` and `Progress.visit`, what each node adds; `build`, the
  report of an arena and its malformed positions, and `ofLoaded`.
-/

namespace SyntaxShapes

open Load (Malformed)

/-- Which nodes are listed. -/
structure Options where
  /-- List only nodes with one of these shapes; without any, there is no such filter. -/
  only : List Shape := []
  /-- Without a filter, list also nodes that have no shape. -/
  all : Bool := false
  deriving DecidableEq, Repr

namespace Report

/-- A node in a report. -/
structure Entry where
  /-- Its position. -/
  index : UInt32
  /-- Its kind. -/
  kind : Kind
  /-- Where it starts in the source. -/
  pos : UInt32
  /-- Where it ends in the source. -/
  stop : UInt32
  /-- Its shapes, in order. -/
  shapes : List Shape
  deriving DecidableEq, Repr

end Report

/-- What is reported about a tree. -/
structure Report where
  /-- The nodes that are listed, in order. -/
  nodes : List Report.Entry := []
  /-- The nodes that could not be used, in order. -/
  malformed : List Malformed := []
  /-- The shapes that occur, in order, each with the number of nodes that have it. -/
  summary : List (Shape × Nat) := []
  deriving DecidableEq, Repr

/-- Whether a node with given shapes is listed. -/
def Options.keeps (o : Options) (shapes : List Shape) : Bool :=
  if o.only.isEmpty then o.all || !shapes.isEmpty
  else shapes.any fun s => o.only.contains s

namespace Report

/-! ## One node -/

/-- The entry of the node at a position, if there is one. -/
def entryAt? (a : Arena) (i : NodeIndex) : Option Entry :=
  (a.get? i).map fun n =>
    { index := i.val, kind := n.kind, pos := n.pos, stop := n.stop, shapes := a.classify i }

/-! ## All nodes -/

/-- Counts a shape once more. -/
def bump (s : Shape) : List (Shape × Nat) → List (Shape × Nat)
  | [] => [(s, 1)]
  | (t, n) :: counts => if t = s then (t, n + 1) :: counts else (t, n) :: bump s counts

/-- What looking at some nodes has led to. -/
structure Progress where
  /-- How many of them have each shape, for the shapes that were met. -/
  counts : List (Shape × Nat) := []
  /-- Those that are listed. -/
  nodes : Array Entry := #[]

namespace Progress

/-- Adds the entry of a node. It is counted for each of its shapes, before the options choose whether it is
listed. -/
def add (o : Options) (p : Progress) (e : Entry) : Progress :=
  { counts := e.shapes.foldl (fun counts s => bump s counts) p.counts
    nodes := if o.keeps e.shapes then p.nodes.push e else p.nodes }

/-- Looks at the next position. A node that could not be used is passed over. -/
def visit (a : Arena) (malformed : List Malformed) (o : Options) (p : Progress) (i : NodeIndex) : Progress :=
  if malformed.any fun m => m.index == i.val then p
  else
    match entryAt? a i with
    | none => p
    | some e => p.add o e

/-- The report when all positions have been looked at. -/
def finish (p : Progress) (malformed : List Malformed) : Report :=
  { nodes := p.nodes.toList
    malformed
    summary := Shape.all.filterMap fun s => (p.counts.lookup s).map fun n => (s, n) }

end Progress

/-- The report of an arena and its malformed positions. -/
def build (a : Arena) (malformed : List Malformed) (o : Options) : Report :=
  (a.indices.foldl (Progress.visit a malformed o) {}).finish malformed

/-- The report of a tree that has been read. -/
def ofLoaded (l : Load.Loaded) (o : Options) : Report :=
  build l.arena l.malformed o

end Report

end SyntaxShapes
