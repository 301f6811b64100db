import SyntaxShapes.Arena.Builder
import SyntaxShapes.Proofs.Report.Tally
import SyntaxShapes.Proofs.Shape.Renumbering

/-!
# `SyntaxShapes.Proofs.Report.Renumbering` — reports do not depend on the order of the nodes

When the nodes of a tree change places, a report on it lists the same nodes under their new positions, in
the order of these, with the same shapes; so it counts the same shapes. A node that could not be used
changes its place like all others.

The order of the malformed positions given to a report does not matter, so they may be in any order after
the move.

## Contents
- **Renaming.** `Malformed.rename`, `Report.Entry.rename`.
- **Entries.** `perm_indices`, then `perm_usableIndices`, then `perm_allEntries`.
- **Reports.** `summary_build`, `perm_nodes_build`; `Report.Lists`, `lists_build`;
  `classification_renumber`.
-/

namespace SyntaxShapes

/-! ## Renaming -/

/-- A record of a node that could not be used, under its new position. -/
def Load.Malformed.rename (ρ : NodeIndex → NodeIndex) (m : Load.Malformed) : Load.Malformed :=
  { m with index := (ρ ⟨m.index⟩).val }

/-- A node in a report, under its new position. -/
def Report.Entry.rename (ρ : NodeIndex → NodeIndex) (e : Report.Entry) : Report.Entry :=
  { e with index := (ρ ⟨e.index⟩).val }

/-- Whether a report lists the node at a position. -/
def Report.Lists (r : Report) (i : NodeIndex) : Prop :=
  ∃ e ∈ r.nodes, e.index = i.val

namespace Arena.Renamed

open Load (Malformed)
open Report

variable {ρ : NodeIndex → NodeIndex} {a b : Arena} {malformed malformed' : List Malformed}

/-! ## Entries -/

theorem val_eq_iff (h : Renamed ρ a b) {j : UInt32} {i : NodeIndex} :
    (ρ ⟨j⟩).val = (ρ i).val ↔ j = i.val := by
  obtain ⟨k⟩ := i
  constructor
  · intro he
    have hρ : ρ ⟨j⟩ = ρ ⟨k⟩ := congrArg NodeIndex.mk he
    exact congrArg NodeIndex.val (h.bijective.injective hρ)
  · rintro rfl
    rfl

/-- The positions of a renumbered tree are those of the tree, renamed and in another order. -/
theorem perm_indices (h : Renamed ρ a b) (ha : a.size < 2 ^ 32 - 1) (hb : b.size < 2 ^ 32 - 1) :
    b.indices.Perm (a.indices.map ρ) := by
  have hnodup : (a.indices.map ρ).Nodup := (nodup_indices a).map h.bijective.injective
  refine (List.perm_ext_iff_of_nodup (nodup_indices b) hnodup).mpr ?_
  intro j
  obtain ⟨i, rfl⟩ := h.bijective.surjective j
  rw [List.mem_map_of_injective h.bijective.injective, ← isSome_get?_iff_mem_indices hb,
    ← isSome_get?_iff_mem_indices ha, h.get?, Option.isSome_map]

theorem entryAt? (h : Renamed ρ a b) (i : NodeIndex) :
    Report.entryAt? b (ρ i) = (Report.entryAt? a i).map (Entry.rename ρ) := by
  unfold Report.entryAt?
  rw [h.get?, h.classify, Option.map_map, Option.map_map]
  congr 1
  funext n
  have hkind : (n.rename ρ).kind = n.kind := n.payload.kind_rename ρ
  rw [Function.comp_apply, Function.comp_apply, hkind]
  rfl

section

variable (h : Renamed ρ a b) (hmalformed : malformed'.Perm (malformed.map (Malformed.rename ρ)))
include h hmalformed

/-- A node is usable after the move when it was usable before. -/
theorem any_malformed (i : NodeIndex) :
    (malformed'.any fun m => m.index == (ρ i).val) = malformed.any fun m => m.index == i.val := by
  rw [hmalformed.any_eq, List.any_map]
  congr 1
  funext m
  rw [Bool.eq_iff_iff, Function.comp_apply, beq_iff_eq, beq_iff_eq]
  exact h.val_eq_iff

variable (ha : a.size < 2 ^ 32 - 1) (hb : b.size < 2 ^ 32 - 1)
include ha hb

theorem perm_usableIndices :
    (usableIndices b malformed').Perm ((usableIndices a malformed).map ρ) := by
  unfold usableIndices
  refine ((h.perm_indices ha hb).filter _).trans ?_
  rw [List.filter_map]
  refine List.Perm.of_eq (congrArg (List.map ρ) (List.filter_congr ?_))
  intro i _
  rw [Function.comp_apply, h.any_malformed hmalformed]

theorem perm_allEntries :
    (allEntries b malformed').Perm ((allEntries a malformed).map (Entry.rename ρ)) := by
  show ((usableIndices b malformed').filterMap (Report.entryAt? b)).Perm
    (((usableIndices a malformed).filterMap (Report.entryAt? a)).map (Entry.rename ρ))
  refine ((h.perm_usableIndices hmalformed ha hb).filterMap _).trans ?_
  rw [List.filterMap_map, List.map_filterMap]
  refine List.Perm.of_eq (congrArg (List.filterMap · _) ?_)
  funext i
  exact h.entryAt? i

/-! ## Reports -/

/-- A summary does not depend on the order of nodes. -/
theorem summary_build (o : Options) :
    (Report.build b malformed' o).summary = (Report.build a malformed o).summary := by
  have htally : ∀ s, tally (allEntries b malformed') s = tally (allEntries a malformed) s := by
    intro s
    unfold tally
    rw [(h.perm_allEntries hmalformed ha hb).countP_eq, List.countP_map]
    rfl
  rw [Report.summary_build, Report.summary_build]
  unfold summarise
  simp only [htally]

/-- The same nodes are listed, in another order. -/
theorem perm_nodes_build (o : Options) :
    (Report.build b malformed' o).nodes.Perm ((Report.build a malformed o).nodes.map (Entry.rename ρ)) := by
  rw [nodes_build, nodes_build]
  refine ((h.perm_allEntries hmalformed ha hb).filter _).trans ?_
  rw [List.filter_map]
  rfl

/-- A node is listed at its new position exactly when it was at the old one. -/
theorem lists_build (o : Options) (i : NodeIndex) :
    (Report.build b malformed' o).Lists (ρ i) ↔ (Report.build a malformed o).Lists i := by
  have hperm := h.perm_nodes_build hmalformed ha hb o
  constructor
  · rintro ⟨e', he', hindex⟩
    obtain ⟨e, he, rfl⟩ := List.mem_map.mp (hperm.mem_iff.mp he')
    exact ⟨e, he, h.val_eq_iff.mp hindex⟩
  · rintro ⟨e, he, hindex⟩
    exact ⟨e.rename ρ, hperm.mem_iff.mpr (List.mem_map_of_mem he), h.val_eq_iff.mpr hindex⟩

end

end Arena.Renamed

namespace Report

open Load (Malformed)

variable {a : Arena}

/-- **The order of the nodes is immaterial.** Whatever permutation moves the nodes of an arena, every node
    has the same shapes at its new position, and the parts of each shape are the same nodes at theirs. A
    report with any options then has the same summary and lists the same nodes at their new positions,
    when the malformed positions move too. -/
theorem classification_renumber (hsize : a.size < 2 ^ 32 - 1) (f : Equiv.Perm (Fin a.size)) :
    (∀ i, (a.renumber f).classify (a.moved f i) = a.classify i) ∧
      (∀ i,
        (a.renumber f).methodCall? (a.moved f i) = (a.methodCall? i).map (MethodCall.rename (a.moved f)) ∧
        (a.renumber f).functionArg? (a.moved f i) = (a.functionArg? i).map (FunctionArg.rename (a.moved f)) ∧
        (a.renumber f).deletion? (a.moved f i) = (a.deletion? i).map (Deletion.rename (a.moved f)) ∧
        (a.renumber f).simpleForOf? (a.moved f i) = (a.simpleForOf? i).map (SimpleForOf.rename (a.moved f)) ∧
        (a.renumber f).identifierForOf? (a.moved f i) =
          (a.identifierForOf? i).map (IdentifierForOf.rename (a.moved f))) ∧
      ∀ (malformed malformed' : List Malformed) (o : Options),
        malformed'.Perm (malformed.map (Malformed.rename (a.moved f))) →
          (build (a.renumber f) malformed' o).summary = (build a malformed o).summary ∧
          ∀ i, (build (a.renumber f) malformed' o).Lists (a.moved f i) ↔ (build a malformed o).Lists i := by
  have h := Arena.renamed_renumber hsize f
  have hsize' : (a.renumber f).size < 2 ^ 32 - 1 := by
    rw [Arena.size_renumber]
    exact hsize
  refine ⟨h.classify, ?_, ?_⟩
  · intro i
    exact ⟨h.methodCall? i, h.functionArg? i, h.deletion? i, h.simpleForOf? i, h.identifierForOf? i⟩
  · intro malformed malformed' o hmalformed
    exact ⟨h.summary_build hmalformed hsize hsize' o, h.lists_build hmalformed hsize hsize' o⟩

/-- `button.on(function () {})`. -/
def listener : Arena :=
  .build [.identifier 0 6 "button", .identifier 7 9 "on", .propertyAccess (.ofNat 0) (.ofNat 1),
    .block 22 24 [], .function 10 24 { body := .ofNat 3 }, .call (.ofNat 2) [.ofNat 4] 25]

/-- The nodes of `listener` in reverse order. -/
def reversed : Equiv.Perm (Fin listener.size) := ⟨Fin.rev, Fin.rev, Fin.rev_rev, Fin.rev_rev⟩

/-- In reverse order too, the function is the first argument of a method call, and it is listed as that
    when both names are malformed. -/
theorem classification_renumber_reversed :
    listener.size < 2 ^ 32 - 1 ∧
      (listener.renumber reversed).classify (.ofNat 1) = [.functionArgInMethodCall] ∧
      [⟨4, .guard (.missing "end")⟩, ⟨5, .guard (.missing "pos")⟩].Perm
        ([⟨0, .guard (.missing "pos")⟩, ⟨1, .guard (.missing "end")⟩].map
          (Malformed.rename (listener.moved reversed))) ∧
      (build (listener.renumber reversed) [⟨4, .guard (.missing "end")⟩, ⟨5, .guard (.missing "pos")⟩]
        { only := [.functionArgInMethodCall] }).Lists (.ofNat 1) := by
  have hsize : listener.size < 2 ^ 32 - 1 := by decide
  have hmalformed : [⟨4, .guard (.missing "end")⟩, ⟨5, .guard (.missing "pos")⟩].Perm
      ([⟨0, .guard (.missing "pos")⟩, ⟨1, .guard (.missing "end")⟩].map
        (Malformed.rename (listener.moved reversed))) := by
    decide
  obtain ⟨hclassify, -, hreport⟩ := classification_renumber hsize reversed
  obtain ⟨-, hlists⟩ := hreport _ _ { only := [.functionArgInMethodCall] } hmalformed
  refine ⟨hsize, (hclassify (.ofNat 4)).trans (by decide), hmalformed, (hlists (.ofNat 4)).mpr ?_⟩
  exact ⟨⟨4, .functionExpression, 10, 24, [.functionArgInMethodCall]⟩, by decide, rfl⟩

end Report

end SyntaxShapes
