import Mathlib.Data.List.Induction
import Mathlib.Data.List.Nodup
import Mathlib.Data.List.Perm.Basic
import Mathlib.Logic.Function.Iterate
import SyntaxShapes.Proofs.Arena.Adoption
import SyntaxShapes.Proofs.Report.Tally

/-!
# `SyntaxShapes.Proofs.Arena.Forest` — tidy runs build forests

A run of calls is tidy when every call is given only nodes that exist, and no node is given twice in the
whole run. The nodes that such a run builds form a forest at every point of it: the two directions of the
links say the same, parents stand after their children, and each node is below exactly one root.

A walk carries no record of what it has visited. It takes the next position off a stack and puts the
children in front of what is left. So nothing but the shape of the tree keeps it from visiting a node twice
or from going on for ever.

## Contents
- **Tidy runs.** `Tidy`; `Tidy.of_append`, `tidy_concat_iff`.
- **Invariant.** `IsForest`; kept by a call that takes only roots (`IsForest.apply`) and so by a tidy run
  (`isForest_build`).
- **Climbing.** `IsForest.exists_iterate_parentOf`.
- **Walking.** `roots`, `Walk`; `Walk.unique`, `Walk.perm`, `IsForest.exists_walk`,
  `IsForest.count_of_walk`.
- **All together.** `build_forest`.
-/

namespace SyntaxShapes.Arena

variable {a : Arena} {c : Call} {cs : List Call} {i p : NodeIndex}

/-! ## Tidy runs -/

/-- Whether a run of calls gives away only what exists, and nothing twice. -/
structure Tidy (cs : List Call) : Prop where
  /-- No child is given twice, neither to one call nor to two. -/
  once : (cs.flatMap fun c => c.payload.children).Nodup
  /-- The children given to the `k`-th call stand before position `k`. -/
  exist : ∀ g ∈ cs.zipIdx, ∀ i ∈ g.1.payload.children, i.toNat < g.2

/-- A run that is tidy is tidy at every point of it. -/
theorem Tidy.of_append {before after : List Call} (h : Tidy (before ++ after)) : Tidy before := by
  refine ⟨?_, ?_⟩
  · have honce := h.once
    rw [List.flatMap_append] at honce
    exact honce.of_append_left
  · intro g hg
    refine h.exist g ?_
    rw [List.zipIdx_append]
    exact List.mem_append_left _ hg

/-- One more call keeps a run tidy if its children are there, and nobody has listed them before. -/
theorem tidy_concat_iff :
    Tidy (cs ++ [c]) ↔ Tidy cs ∧ c.payload.children.Nodup ∧
      ∀ i ∈ c.payload.children, i.toNat < cs.length ∧ ∀ d ∈ cs, i ∉ d.payload.children := by
  constructor
  · intro h
    have honce := h.once
    rw [List.flatMap_append, List.flatMap_singleton, List.nodup_append'] at honce
    obtain ⟨-, hnodup, hdisjoint⟩ := honce
    refine ⟨h.of_append, hnodup, ?_⟩
    intro i hi
    refine ⟨h.exist (c, cs.length) ?_ i hi, ?_⟩
    · rw [List.zipIdx_append]
      exact List.mem_append_right _ (by simp)
    · intro d hd hid
      exact hdisjoint (List.mem_flatMap.mpr ⟨d, hd, hid⟩) hi
  · rintro ⟨h, hnodup, hnew⟩
    refine ⟨?_, ?_⟩
    · rw [List.flatMap_append, List.flatMap_singleton, List.nodup_append']
      refine ⟨h.once, hnodup, ?_⟩
      intro i hi hic
      obtain ⟨d, hd, hid⟩ := List.mem_flatMap.mp hi
      exact (hnew i hic).2 d hd hid
    · intro g hg
      rw [List.zipIdx_append] at hg
      rcases List.mem_append.mp hg with hg | hg
      · exact h.exist g hg
      · obtain rfl : g = (c, cs.length) := by simpa using hg
        exact fun i hi => (hnew i hi).1

/-! ## Invariant -/

/-- Whether the links of an arena form a forest that is built from the leaves up. -/
structure IsForest (a : Arena) : Prop where
  /-- No node lists a child twice. -/
  nodup : ∀ p, (a.childrenOf p).Nodup
  /-- A child stands before its parent. -/
  lt : ∀ p c, c ∈ a.childrenOf p → c.toNat < p.toNat
  /-- Children and parents say the same. -/
  mem_childrenOf_iff : ∀ p c, c ∈ a.childrenOf p ↔ p ≠ .absent ∧ a.parentOf c = p

theorem isForest_empty : IsForest empty := by
  have hchildren : ∀ p, empty.childrenOf p = [] := fun p => by simp [childrenOf, get?, empty]
  have hparent : ∀ i, empty.parentOf i = .absent := fun i => by simp [parentOf, get?, empty]
  refine ⟨?_, ?_, ?_⟩
  · intro p
    rw [hchildren]
    exact List.nodup_nil
  · intro p c hc
    rw [hchildren] at hc
    exact absurd hc List.not_mem_nil
  · intro p c
    rw [hchildren, hparent]
    exact ⟨fun hc => absurd hc List.not_mem_nil, fun h => absurd h.2.symm h.1⟩

/-- **A call that takes only roots, each once, keeps the forest.** -/
theorem IsForest.apply (ha : IsForest a) (h : a.size < 2 ^ 32 - 1) (hnodup : c.payload.children.Nodup)
    (hroots : ∀ i ∈ c.payload.children, i.toNat < a.size ∧ a.parentOf i = .absent) :
    IsForest (a.apply c) := by
  have hnext := toNat_nextIndex (a := a) (by omega)
  refine ⟨?_, ?_, ?_⟩
  · intro p
    rw [childrenOf_apply h]
    split
    · exact hnodup
    · exact ha.nodup p
  · intro p d hd
    rw [childrenOf_apply h] at hd
    split at hd
    · rename_i hp
      rw [hp, hnext]
      exact (hroots d hd).1
    · exact ha.lt p d hd
  · intro p d
    rw [childrenOf_apply h, parentOf_apply h]
    by_cases hd : d ∈ c.payload.children ∧ d.toNat ≤ a.size
    · -- a root that the call takes had no other parent
      rw [if_pos hd]
      by_cases hp : p = a.nextIndex
      · rw [if_pos hp, hp]
        exact iff_of_true hd.1 ⟨nextIndex_ne_absent h, rfl⟩
      · rw [if_neg hp, ha.mem_childrenOf_iff]
        refine iff_of_false ?_ fun hd' => hp hd'.2.symm
        rintro ⟨hne, hpd⟩
        exact hne (hpd.symm.trans (hroots d hd.1).2)
    · -- any other node keeps its parent, which is not the new node
      rw [if_neg hd]
      by_cases hp : p = a.nextIndex
      · subst hp
        rw [if_pos rfl]
        refine iff_of_false (fun hdc => hd ⟨hdc, Nat.le_of_lt (hroots d hdc).1⟩) ?_
        rintro hpd
        have hlists := (ha.mem_childrenOf_iff a.nextIndex d).mpr hpd
        rw [childrenOf_nextIndex (by omega)] at hlists
        exact absurd hlists List.not_mem_nil
      · rw [if_neg hp]
        exact ha.mem_childrenOf_iff p d

/-- What a node of a built arena lists was given to some call. -/
theorem exists_call_of_mem_childrenOf (h : i ∈ (build cs).childrenOf p) :
    ∃ c ∈ cs, i ∈ c.payload.children := by
  unfold childrenOf at h
  cases hp : (build cs).get? p with
  | none =>
      rw [hp] at h
      exact absurd h List.not_mem_nil
  | some n =>
      rw [hp] at h
      -- the node's payload is among those of the arena, and these are those of the calls
      have hmem : n.payload ∈ (build cs).payloads :=
        List.mem_map.mpr ⟨n, Array.mem_toList_iff.mpr (Array.mem_of_getElem? (get?_eq_some_iff.mp hp).2), rfl⟩
      rw [payloads_build, List.mem_map] at hmem
      obtain ⟨c, hc, hpayload⟩ := hmem
      exact ⟨c, hc, by rw [hpayload]; exact h⟩

/-- **A tidy run builds a forest.** -/
theorem isForest_build (hlen : cs.length < 2 ^ 32) (h : Tidy cs) : IsForest (build cs) := by
  induction cs using List.reverseRecOn with
  | nil => exact isForest_empty
  | append_singleton cs c ih =>
      rw [List.length_append, List.length_singleton] at hlen
      obtain ⟨hcs, hnodup, hnew⟩ := tidy_concat_iff.mp h
      have hforest := ih (by omega) hcs
      rw [build_append]
      refine hforest.apply (by rw [size_build]; omega) hnodup ?_
      intro i hi
      obtain ⟨hlt, hgiven⟩ := hnew i hi
      refine ⟨by rw [size_build]; exact hlt, ?_⟩
      -- whatever has a parent was given to an earlier call
      by_contra hparent
      obtain ⟨d, hd, hid⟩ :=
        exists_call_of_mem_childrenOf ((hforest.mem_childrenOf_iff _ i).mpr ⟨hparent, rfl⟩)
      exact hgiven d hd hid

/-! ## Climbing -/

/-- A parent stands behind its child. -/
theorem IsForest.lt_parentOf (ha : IsForest a) (h : a.parentOf i ≠ .absent) :
    i.toNat < (a.parentOf i).toNat :=
  ha.lt _ _ ((ha.mem_childrenOf_iff _ _).mpr ⟨h, rfl⟩)

theorem IsForest.isSome_parentNode? (ha : IsForest a) (h : a.parentOf i ≠ .absent) :
    (a.get? (a.parentOf i)).isSome = true :=
  isSome_get?_iff.mpr ⟨h, lt_size_of_mem_childrenOf ((ha.mem_childrenOf_iff _ i).mpr ⟨h, rfl⟩)⟩

/-- From each node it takes less steps to a root than there are nodes from it on. -/
theorem IsForest.exists_iterate_parentOf (ha : IsForest a) (hi : (a.get? i).isSome = true) :
    ∃ k, k + i.toNat < a.size ∧ (a.get? (a.parentOf^[k] i)).isSome = true ∧
      a.parentOf (a.parentOf^[k] i) = .absent := by
  have hlt := (isSome_get?_iff.mp hi).2
  -- on the number of nodes after this one: each step goes to a later one
  induction hn : a.size - i.toNat using Nat.strongRecOn generalizing i with
  | ind n ih =>
      subst hn
      by_cases hp : a.parentOf i = .absent
      · exact ⟨0, by omega, hi, hp⟩
      · have hip := ha.lt_parentOf hp
        have hsome := ha.isSome_parentNode? hp
        obtain ⟨k, hk, hnode, hroot⟩ :=
          ih (a.size - (a.parentOf i).toNat) (by omega) hsome (isSome_get?_iff.mp hsome).2 rfl
        exact ⟨k + 1, by omega, hnode, hroot⟩

/-! ## Walking -/

/-- The nodes without a parent, in order. -/
def roots (a : Arena) : List NodeIndex := a.indices.filter fun i => (a.parentOf i).isAbsent

/-- What a depth-first walk visits, in order, when it starts with some positions on its stack. -/
inductive Walk (a : Arena) : List NodeIndex → List NodeIndex → Prop
  | done : Walk a [] []
  | visit {i : NodeIndex} {stack visited : List NodeIndex} (rest : Walk a (a.childrenOf i ++ stack) visited) :
      Walk a (i :: stack) (i :: visited)

variable {stack visited : List NodeIndex}

/-- The stack alone says what a walk visits. -/
theorem Walk.unique (h : Walk a stack visited) {other : List NodeIndex} (h' : Walk a stack other) :
    visited = other := by
  induction h generalizing other with
  | done =>
      cases h'
      rfl
  | visit _ ih =>
      cases h' with
      | visit rest => rw [ih rest]

/-- A walk over one part of a stack goes on with the rest of it. -/
theorem Walk.append (h : Walk a stack visited) {stack' visited' : List NodeIndex}
    (h' : Walk a stack' visited') : Walk a (stack ++ stack') (visited ++ visited') := by
  induction h with
  | done => exact h'
  | visit _ ih =>
      rw [List.append_assoc] at ih
      exact .visit ih

/-- **A walk visits what it starts with and the children of what it visits**, as often as that. -/
theorem Walk.perm (h : Walk a stack visited) : visited.Perm (stack ++ visited.flatMap a.childrenOf) := by
  induction h with
  | done => exact .refl _
  | @visit i stack visited _ ih =>
      rw [List.flatMap_cons, List.cons_append]
      refine .cons i (ih.trans ?_)
      rw [← List.append_assoc]
      exact List.perm_append_comm.append_right _

/-- In a forest a walk comes to its end, because it only goes down. -/
theorem IsForest.exists_walk (ha : IsForest a) (stack : List NodeIndex) : ∃ visited, Walk a stack visited := by
  suffices h : ∀ n (stack : List NodeIndex), (∀ i ∈ stack, i.toNat < n) → ∃ visited, Walk a stack visited from
    h (2 ^ 32) stack fun i _ => i.toNat_lt
  intro n
  induction n with
  | zero =>
      intro stack hstack
      cases stack with
      | nil => exact ⟨[], .done⟩
      | cons i stack => exact absurd (hstack i List.mem_cons_self) (Nat.not_lt_zero _)
  | succ n ih =>
      intro stack hstack
      induction stack with
      | nil => exact ⟨[], .done⟩
      | cons i stack ihstack =>
          rw [List.forall_mem_cons] at hstack
          obtain ⟨below, hbelow⟩ := ih (a.childrenOf i) fun c hc => by
            have hlt := ha.lt i c hc
            omega
          obtain ⟨after, hafter⟩ := ihstack hstack.2
          exact ⟨_, .visit (hbelow.append hafter)⟩

/-- A child is listed once by its parent, and by nothing else. -/
theorem IsForest.count_childrenOf (ha : IsForest a) (hi : a.parentOf i ≠ .absent) (p : NodeIndex) :
    (a.childrenOf p).count i = if p = a.parentOf i then 1 else 0 := by
  split
  · rename_i hp
    rw [hp]
    exact List.count_eq_one_of_mem (ha.nodup _) ((ha.mem_childrenOf_iff _ i).mpr ⟨hi, rfl⟩)
  · rename_i hp
    refine List.count_eq_zero.mpr fun hmem => hp ?_
    exact ((ha.mem_childrenOf_iff p i).mp hmem).2.symm

/-- A root is listed by nothing, and any other node as often as its parent is there. -/
theorem IsForest.count_flatMap_childrenOf (ha : IsForest a) (ps : List NodeIndex) (i : NodeIndex) :
    (ps.flatMap a.childrenOf).count i = if a.parentOf i = .absent then 0 else ps.count (a.parentOf i) := by
  split
  · rename_i hi
    refine List.count_eq_zero.mpr fun hmem => ?_
    obtain ⟨p, -, hp⟩ := List.mem_flatMap.mp hmem
    obtain ⟨hne, hpi⟩ := (ha.mem_childrenOf_iff p i).mp hp
    exact hne (hpi.symm.trans hi)
  · rename_i hi
    induction ps with
    | nil => rfl
    | cons p ps ih =>
        rw [List.flatMap_cons, List.count_append, ih, ha.count_childrenOf hi, List.count_cons, Nat.add_comm]
        simp

/-- Each node without a parent is a root once, and nothing else is one. -/
theorem count_roots (a : Arena) (i : NodeIndex) :
    a.roots.count i = if i ∈ a.indices ∧ a.parentOf i = .absent then 1 else 0 := by
  have hmem : i ∈ a.roots ↔ i ∈ a.indices ∧ a.parentOf i = .absent := by
    unfold roots
    rw [List.mem_filter, NodeIndex.isAbsent_iff]
  have hnodup : a.roots.Nodup := (nodup_indices a).filter _
  rw [hnodup.count]
  exact if_congr hmem rfl rfl

/-- **A walk of a forest from its roots visits every node once.** -/
theorem IsForest.count_of_walk (ha : IsForest a) (h : a.size < 2 ^ 32) (hwalk : Walk a a.roots visited)
    (i : NodeIndex) : visited.count i = if i ∈ a.indices then 1 else 0 := by
  -- on the number of positions after this one: a root is visited as a root, and any other node from its
  -- parent, which stands after it
  induction hn : 2 ^ 32 - i.toNat using Nat.strongRecOn generalizing i with
  | ind n ih =>
      subst hn
      rw [hwalk.perm.count_eq, List.count_append, count_roots, ha.count_flatMap_childrenOf]
      by_cases hp : a.parentOf i = .absent
      · simp [hp]
      · have hip := ha.lt_parentOf hp
        have hlt := (a.parentOf i).toNat_lt
        have hparent : (a.parentOf i).toNat < a.size := (isSome_get?_iff.mp (ha.isSome_parentNode? hp)).2
        rw [if_neg hp, if_neg fun h => hp h.2, Nat.zero_add,
          ih (2 ^ 32 - (a.parentOf i).toNat) (by omega) _ rfl, if_pos ((mem_indices_iff h).mpr hparent),
          if_pos ((mem_indices_iff h).mpr (by omega))]

/-! ## All together -/

/-- **A tidy run builds a forest.** At every point of the run: a node lists another as its child exactly
    when it is the parent of that; parents stand after their children, so from each node fewer steps than
    there are nodes lead up to a root; and the depth-first walk from the roots ends, and visits every node
    exactly once. -/
theorem build_forest (cs : List Call) (hlen : cs.length < 2 ^ 32) (htidy : Tidy cs) :
    ∀ before after, cs = before ++ after →
      (∀ p c, c ∈ (build before).childrenOf p ↔ p ≠ .absent ∧ (build before).parentOf c = p) ∧
      (∀ i, (build before).parentOf i ≠ .absent → i.toNat < ((build before).parentOf i).toNat) ∧
      (∀ i, ((build before).get? i).isSome = true →
        ∃ k < (build before).size, ((build before).get? ((build before).parentOf^[k] i)).isSome = true ∧
          (build before).parentOf ((build before).parentOf^[k] i) = .absent) ∧
      ∃ visited, Walk (build before) (build before).roots visited ∧
        (∀ other, Walk (build before) (build before).roots other → other = visited) ∧
        visited.Nodup ∧ ∀ i, i ∈ visited ↔ ((build before).get? i).isSome = true := by
  rintro before after rfl
  rw [List.length_append] at hlen
  have hsize : (build before).size < 2 ^ 32 := by rw [size_build]; omega
  have hforest := isForest_build (by omega) htidy.of_append
  refine ⟨hforest.mem_childrenOf_iff, fun i => hforest.lt_parentOf, ?_, ?_⟩
  · intro i hi
    obtain ⟨k, hk, hnode, hroot⟩ := hforest.exists_iterate_parentOf hi
    exact ⟨k, by omega, hnode, hroot⟩
  · obtain ⟨visited, hwalk⟩ := hforest.exists_walk (build before).roots
    have hcount := hforest.count_of_walk hsize hwalk
    refine ⟨visited, hwalk, fun other hother => hother.unique hwalk, ?_, ?_⟩
    · refine List.nodup_iff_count_le_one.mpr fun i => ?_
      rw [hcount]
      split <;> omega
    · intro i
      have hmem : i ∈ visited ↔ i ∈ (build before).indices := by
        rw [← List.count_pos_iff, hcount]
        split <;> simp [*]
      rw [hmem, mem_indices_iff hsize, isSome_get?_iff]
      refine (and_iff_right_of_imp ?_).symm
      rintro hi rfl
      rw [NodeIndex.toNat_absent] at hi
      omega

/-- `a.b(c)` as a statement, and a second statement that nothing takes. -/
def tidyCalls : List Call :=
  [.identifier 0 1 "a", .identifier 2 3 "b", .propertyAccess (.ofNat 0) (.ofNat 1), .identifier 4 5 "c",
   .call (.ofNat 2) [.ofNat 3] 6, .expressionStatement (.ofNat 4) 7, .keyword 8 .this,
   .expressionStatement (.ofNat 6) 13]

/-- The walk goes down from each of the two statements in turn. -/
theorem build_forest_tidyCalls :
    tidyCalls.length < 2 ^ 32 ∧ Tidy tidyCalls ∧
      Walk (build tidyCalls) (build tidyCalls).roots ([5, 4, 2, 0, 1, 3, 7, 6].map .ofNat) ∧
      ∀ visited, Walk (build tidyCalls) (build tidyCalls).roots visited → visited.length = 8 := by
  have hlen : tidyCalls.length < 2 ^ 32 := by decide
  have htidy : Tidy tidyCalls := ⟨by decide, by decide⟩
  obtain ⟨-, -, -, visited, hwalk, hunique, -⟩ := build_forest tidyCalls hlen htidy tidyCalls [] (by simp)
  have hdown : Walk (build tidyCalls) (build tidyCalls).roots ([5, 4, 2, 0, 1, 3, 7, 6].map .ofNat) := by
    have hroots : (build tidyCalls).roots = [5, 7].map .ofNat := by decide
    rw [hroots]
    exact .visit (.visit (.visit (.visit (.visit (.visit (.visit (.visit .done)))))))
  refine ⟨hlen, htidy, hdown, ?_⟩
  intro other hother
  rw [hunique other hother, ← hunique _ hdown]
  rfl

end SyntaxShapes.Arena
