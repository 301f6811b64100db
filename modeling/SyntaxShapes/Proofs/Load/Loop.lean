import SyntaxShapes.Load.Basic

/-!
# `SyntaxShapes.Proofs.Load.Loop` — what reading all raw nodes adds up to

Reading a tree is a loop over its raw nodes: each of them adds a node, perhaps a record, and up to two events to
what is there. What the loop ends with can be said without it: `Loaded.ofResults` makes a tree of the results for the
single raw nodes, each list of it by itself. `Progress.Sums` relates what is there after some steps to the results so
far; one more step keeps it (`Progress.Sums.readNext`), so it holds of a whole run (`sums_readAll`), and loading gives
the tree of all results (`load_eq_map`).

## Contents
- **Results.** `nodeOf`, `malformedOf?`, `eventsOf`, what a result adds; `Loaded.ofResults`.
- **One step.** `eventsOf_readNode`; `Progress.Sums`, `Progress.Sums.readNext`.
- **A run.** `Progress.sums_readAll`, `finish_readAll`; `load_eq_map`.
-/

namespace SyntaxShapes.Load

open Json (Value)

/-! ## Results -/

/-- The node to keep for a result. -/
def nodeOf : Except Reason Node → Node
  | .ok n => n
  | .error _ => .placeholder

/-- The record of a result at a position, if it is a failure. -/
def malformedOf? : Except Reason Node × Nat → Option Malformed
  | (.ok _, _) => none
  | (.error reason, i) => some ⟨.ofNat i, reason⟩

/-- The events of a result at a position: a failed guard speaks first, then the replacement is noted. -/
def eventsOf : Except Reason Node × Nat → List Event
  | (.ok _, _) => []
  | (.error (.guard fault), i) => [.ofFault fault, .replaced (.ofNat i)]
  | (.error (.read _), i) => [.replaced (.ofNat i)]

/-- The tree made of the results for its nodes. -/
def Loaded.ofResults (results : List (Except Reason Node)) : Loaded :=
  let malformed := results.zipIdx.filterMap malformedOf?
  { arena := ⟨(results.map nodeOf).toArray⟩
    malformed
    events := results.zipIdx.flatMap eventsOf ++ [.finished results.length malformed.length] }

/-- Every raw node has its place in the arena. -/
theorem Loaded.size_ofResults (results : List (Except Reason Node)) :
    (Loaded.ofResults results).arena.size = results.length := by
  simp [Loaded.ofResults, Arena.size]

/-! ## One step -/

/-- What is noted about a raw node is what the guard says, and its replacement if it cannot be used. -/
theorem eventsOf_readNode (raw : Value) (i : Nat) :
    eventsOf (readNode raw, i) =
      guardEvents raw ++ match readNode raw with
        | .ok _ => []
        | .error _ => [.replaced (.ofNat i)] := by
  unfold readNode guardEvents
  cases guardFault? raw with
  | some fault => rfl
  | none => cases Node.read raw <;> rfl

namespace Progress

/-- Whether what is there is what some results add up to. -/
structure Sums (p : Progress) (results : List (Except Reason Node)) : Prop where
  /-- One node for each of them. -/
  nodes : p.nodes.toList = results.map nodeOf
  /-- One record for each failure among them. -/
  malformed : p.malformed.toList = results.zipIdx.filterMap malformedOf?
  /-- The events of each of them. -/
  events : p.events.toList = results.zipIdx.flatMap eventsOf

/-- One more raw node adds its result. -/
theorem Sums.readNext {p : Progress} {results : List (Except Reason Node)} (h : p.Sums results) (raw : Value) :
    (p.readNext raw results.length).Sums (results ++ [readNode raw]) := by
  have hzip : (results ++ [readNode raw]).zipIdx = results.zipIdx ++ [(readNode raw, results.length)] := by
    rw [List.zipIdx_append, Nat.zero_add]
    rfl
  have hevents := eventsOf_readNode raw results.length
  unfold Progress.readNext
  cases hr : readNode raw
  all_goals
    rw [hr] at hzip hevents
    refine ⟨?_, ?_, ?_⟩
    · simp [h.nodes, nodeOf]
    · simp [h.malformed, hzip, malformedOf?]
    · simp [h.events, hzip, hevents]

/-! ## A run -/

/-- A run over more raw nodes, from the position behind those that have been read, adds their results in order. -/
theorem Sums.foldl {p : Progress} {results : List (Except Reason Node)} (h : p.Sums results) (raws : List Value) :
    ((raws.zipIdx results.length).foldl (fun p r => p.readNext r.1 r.2) p).Sums
      (results ++ raws.map readNode) := by
  induction raws generalizing p results with
  | nil =>
      rw [List.map_nil, List.append_nil]
      exact h
  | cons raw raws ih =>
      have hrest := ih (h.readNext raw)
      rw [List.length_append, List.length_singleton, List.append_assoc] at hrest
      exact hrest

theorem sums_start : ({} : Progress).Sums [] := ⟨rfl, rfl, rfl⟩

/-- A run over all raw nodes adds up to all of their results. -/
theorem sums_readAll (raws : List Value) : (readAll raws).Sums (raws.map readNode) :=
  sums_start.foldl raws

/-- What some results add up to becomes the tree made of them. -/
theorem Sums.finish {p : Progress} {results : List (Except Reason Node)} (h : p.Sums results) :
    p.finish = .ofResults results := by
  have hnodes : p.nodes = (results.map nodeOf).toArray := by
    rw [← h.nodes, Array.toArray_toList]
  have hsize : p.malformed.size = (results.zipIdx.filterMap malformedOf?).length := by
    rw [← h.malformed, Array.length_toList]
  unfold Progress.finish Loaded.ofResults
  rw [Array.toList_push, h.events, h.malformed, hsize, hnodes, List.size_toArray, List.length_map]

/-- Reading all raw nodes gives the tree made of their results. -/
theorem finish_readAll (raws : List Value) : (readAll raws).finish = .ofResults (raws.map readNode) :=
  (sums_readAll raws).finish

end Progress

/-- **Loading a tree reads each of its raw nodes** by itself, and makes the tree of the results. -/
theorem load_eq_map (v : Value) : load v = (rawNodes v).map fun raws => .ofResults (raws.map readNode) := by
  unfold load
  simp only [Progress.finish_readAll]

end SyntaxShapes.Load
