import Mathlib.Data.List.Nodup
import SyntaxShapes.Proofs.Report.Loop

/-!
# `SyntaxShapes.Proofs.Report.Tally` — what the numbers of a report count

A summary says how many usable nodes have each shape. Here such a number becomes a count over the
positions of the tree, where it can be compared with counts of nodes by what they are.

A tree has as many positions as nodes while there are fewer nodes than the position that means no node.

## Contents
- **Positions.** `mem_indices_iff`, `pairwise_indices`, `nodup_indices`; `countP_nodes`, a count of nodes as one of positions.
- **Summaries.** `Report.count`, the number for a shape; `count_build`; `tally_allEntries`.
-/

namespace SyntaxShapes

/-! ## Positions -/

namespace Arena

variable {a : Arena} {i : NodeIndex}

theorem mem_indices_iff (h : a.size < 2 ^ 32) : i ∈ a.indices ↔ i.toNat < a.size := by
  unfold indices
  rw [List.mem_map, Nat.mod_eq_of_lt h]
  constructor
  · rintro ⟨k, hk, rfl⟩
    rw [List.mem_range] at hk
    rw [NodeIndex.toNat_ofNat (by omega)]
    exact hk
  · intro hi
    exact ⟨i.toNat, List.mem_range.mpr hi, NodeIndex.ofNat_toNat i⟩

/-- Positions are in order. -/
theorem pairwise_indices (a : Arena) : a.indices.Pairwise fun i j => i.val < j.val := by
  unfold indices
  rw [List.pairwise_map]
  refine List.pairwise_lt_range.imp_of_mem ?_
  intro j k hj hk hjk
  rw [List.mem_range] at hj hk
  have hlt : a.size % 2 ^ 32 < 2 ^ 32 := Nat.mod_lt _ (by decide)
  rw [UInt32.lt_iff_toNat_lt]
  show (NodeIndex.ofNat j).toNat < (NodeIndex.ofNat k).toNat
  rw [NodeIndex.toNat_ofNat (by omega), NodeIndex.toNat_ofNat (by omega)]
  exact hjk

theorem nodup_indices (a : Arena) : a.indices.Nodup := by
  refine (pairwise_indices a).imp ?_
  rintro i j hlt rfl
  exact UInt32.lt_irrefl i.val hlt

/-- A node stands at each position of a tree, and at no other. -/
theorem isSome_get?_iff_mem_indices (h : a.size < 2 ^ 32 - 1) :
    (a.get? i).isSome = true ↔ i ∈ a.indices := by
  rw [isSome_get?_iff, mem_indices_iff (by omega)]
  refine and_iff_right_of_imp ?_
  rintro hi rfl
  rw [NodeIndex.toNat_absent] at hi
  omega

/-- Looking up the positions in order gives the nodes in order. -/
theorem map_get?_indices (h : a.size < 2 ^ 32 - 1) : a.indices.map a.get? = a.nodes.toList.map some := by
  have hlen : a.indices.length = a.nodes.toList.length := by
    unfold indices
    rw [List.length_map, List.length_range, Nat.mod_eq_of_lt (by omega), Array.length_toList]
    rfl
  refine List.ext_getElem (by rw [List.length_map, List.length_map, hlen]) ?_
  intro k hk hk'
  rw [List.length_map, Array.length_toList] at hk'
  have hk32 : k < 2 ^ 32 - 1 := Nat.lt_trans hk' h
  have hne : NodeIndex.ofNat k ≠ .absent := by
    intro he
    have hnat := congrArg NodeIndex.toNat he
    rw [NodeIndex.toNat_ofNat (by omega), NodeIndex.toNat_absent] at hnat
    omega
  simp only [indices, List.map_map, List.getElem_map, List.getElem_range, Function.comp_apply]
  rw [get?_eq_some_iff]
  refine ⟨hne, ?_⟩
  rw [NodeIndex.toNat_ofNat (by omega), Array.getElem_toList]
  exact Array.getElem?_eq_getElem hk'

/-- Counting nodes is counting their positions. -/
theorem countP_nodes (h : a.size < 2 ^ 32 - 1) (q : Node → Bool) :
    a.nodes.countP q = a.indices.countP fun i => (a.get? i).any q := by
  calc a.nodes.countP q
      = (a.nodes.toList.map some).countP (·.any q) := by
        rw [List.countP_map, ← Array.countP_toList]
        rfl
    _ = (a.indices.map a.get?).countP (·.any q) := by rw [map_get?_indices h]
    _ = a.indices.countP fun i => (a.get? i).any q := List.countP_map

end Arena

/-! ## Summaries -/

namespace Report

/-- The number that a summary gives for a shape, zero where it gives none. -/
def count (r : Report) (s : Shape) : Nat := (r.summary.lookup s).getD 0

/-- Leaving out the shapes that do not occur changes no number. -/
theorem lookup_occurring (f : Shape → Nat) (s : Shape) (shapes : List Shape) :
    (((shapes.map fun t => (t, f t)).filter fun p => p.2 != 0).lookup s).getD 0 =
      if s ∈ shapes then f s else 0 := by
  induction shapes with
  | nil => rfl
  | cons t ts ih =>
      rw [List.map_cons, List.filter_cons]
      by_cases hf : f t = 0
      · rw [if_neg (by simp [hf]), ih]
        by_cases hst : s = t
        · subst hst
          simp [hf]
        · simp [hst]
      · rw [if_pos (by simp [hf]), List.lookup_cons]
        by_cases hst : s = t
        · subst hst
          simp
        · rw [beq_eq_false_iff_ne.mpr hst]
          simp [hst, ih]

/-- The number that a report gives for a shape is how many usable nodes have it, whatever the options. -/
theorem count_build (a : Arena) (malformed : List Load.Malformed) (o : Options) (s : Shape) :
    (build a malformed o).count s = tally (allEntries a malformed) s := by
  unfold count
  rw [summary_build]
  unfold summarise
  rw [lookup_occurring, if_pos (Shape.mem_all s)]

/-- The positions of the usable nodes, in order. -/
def usableIndices (a : Arena) (malformed : List Load.Malformed) : List NodeIndex :=
  a.indices.filter fun i => !(malformed.any fun m => m.index == i.val)

/-- The number for a shape counts the positions of usable nodes that have it. -/
theorem tally_allEntries (a : Arena) (malformed : List Load.Malformed) (s : Shape) :
    tally (allEntries a malformed) s = (usableIndices a malformed).countP fun i => s.holds a i := by
  unfold tally allEntries usableIndices
  rw [List.countP_filterMap]
  refine List.countP_congr ?_
  intro i _
  unfold entryAt?
  cases hi : a.get? i with
  | none =>
      have hs : ¬s.holds a i = true := fun h => by
        have hsome := Shape.isSome_get?_of_holds h
        rw [hi] at hsome
        cases hsome
      simp [hs]
  | some n => simp [Arena.mem_classify]

end Report

end SyntaxShapes
