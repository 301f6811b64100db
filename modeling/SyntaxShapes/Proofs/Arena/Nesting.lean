import Mathlib.Data.List.Chain
import Mathlib.Logic.Function.Iterate
import Mathlib.Logic.Relation
import SyntaxShapes.Proofs.Arena.Adoption

/-!
# `SyntaxShapes.Proofs.Arena.Nesting` — spans nest

A node covers a span of the source, from its start to its end. A call is given both ends of the span of its
node, or one, or none, and takes the others from operands. When each call is given what fits the nodes that
are there, the spans nest like the nodes: a child lies inside its parent, and the children of a node stand
side by side in order.

The span of a new node is bounded by its outermost children, and this is all that the calls have to get
right: an end that is read off an operand has to come from the first child, or the last
(`Call.head?_children`, `Call.getLast?_children`). Nothing after the call moves the span of a node, so the
runs may be of any length, even past the positions that thirty-two bits can tell apart; only going from a
node to its parent needs these positions to be distinct.

## Contents
- **Outermost children.** `Call.head?_children`, `Call.getLast?_children`.
- **Calls that fit.** `Call.Fits`, `FitsAll`.
- **Invariant.** `Node.Inside`, `Nested`; kept by a call that fits (`Nested.apply`), and so by a run
  (`Nested.applyAll`).
- **Descendants.** `IsChild`; `Nested.inside_of_below`, `Nested.inside_of_climb`.
- **All together.** `build_nested`.
-/

namespace SyntaxShapes

/-! ## Outermost children -/

section

variable {p : Payload} {i : NodeIndex}

/-- The children around one of them: those from the places before it, and those from the places after it. -/
theorem Payload.children_eq_append (before after : List NodeIndex) (h : p.childSlots = before ++ i :: after)
    (hi : i ≠ .absent) :
    p.children = before.filter (!·.isAbsent) ++ i :: after.filter (!·.isAbsent) := by
  have hkeep : (!i.isAbsent) = true := by simpa [NodeIndex.isAbsent] using hi
  unfold children
  rw [h, List.filter_append, List.filter_cons, if_pos hkeep]

theorem Payload.filter_absent {slots : List NodeIndex} (h : ∀ j ∈ slots, j = .absent) :
    slots.filter (!·.isAbsent) = [] := by
  refine List.filter_eq_nil_iff.mpr ?_
  intro j hj
  rw [h j hj]
  decide

/-- What no place for a child but empty ones stands in front of is the first child. -/
theorem Payload.head?_children (before after : List NodeIndex) (h : p.childSlots = before ++ i :: after)
    (hi : i ≠ .absent) (hbefore : ∀ j ∈ before, j = .absent) : p.children.head? = some i := by
  rw [children_eq_append before after h hi, filter_absent hbefore]
  rfl

/-- What no place for a child but empty ones comes after is the last child. -/
theorem Payload.getLast?_children (before after : List NodeIndex) (h : p.childSlots = before ++ i :: after)
    (hi : i ≠ .absent) (hafter : ∀ j ∈ after, j = .absent) : p.children.getLast? = some i := by
  rw [children_eq_append before after h hi, filter_absent hafter, List.getLast?_concat]

end

namespace Call

variable {a : Arena} {c : Call} {i : NodeIndex}

/-- An operand that gives the start is the first child. -/
theorem head?_children (h : c.posFrom = .operand i) (hi : i ≠ .absent) :
    c.payload.children.head? = some i := by
  cases c with
  | binary | postfixUnary | call | propertyAccess | elementAccess | expressionStatement | declaration
  | variableStatement | parameter =>
      obtain rfl := SpanEnd.operand.inj h
      exact Payload.head?_children [] _ rfl hi nofun
  | bindingElement name =>
      -- no property is named in front of the name
      obtain rfl := SpanEnd.operand.inj h
      exact Payload.head?_children [.absent] _ rfl hi (by simp)
  | _ => cases h

/-- An operand that gives the end is the last child. -/
theorem getLast?_children (h : c.stopFrom = .operand i) (hi : i ≠ .absent) :
    c.payload.children.getLast? = some i := by
  cases c with
  | binary first _ _ | propertyAccess first _ =>
      obtain rfl := SpanEnd.operand.inj h
      exact Payload.getLast?_children [first] [] rfl hi nofun
  | prefixUnary | delete =>
      obtain rfl := SpanEnd.operand.inj h
      exact Payload.getLast?_children [] [] rfl hi nofun
  | forOf _ initializer expression _ | forIn _ initializer expression _ =>
      obtain rfl := SpanEnd.operand.inj h
      exact Payload.getLast?_children [initializer, expression] [] rfl hi nofun
  | parameter name =>
      obtain rfl := SpanEnd.operand.inj h
      exact Payload.getLast?_children [] [.absent] rfl hi (by simp)
  | bindingElement name =>
      obtain rfl := SpanEnd.operand.inj h
      exact Payload.getLast?_children [.absent] [.absent] rfl hi (by simp)
  | declaration name initializer =>
      obtain rfl := SpanEnd.operand.inj h
      by_cases hinit : initializer.isAbsent = true
      · -- without an initializer the name is the last child
        rw [if_pos hinit] at hi ⊢
        exact Payload.getLast?_children [] [initializer] rfl hi (by simpa using NodeIndex.isAbsent_iff.mp hinit)
      · rw [if_neg hinit] at hi ⊢
        exact Payload.getLast?_children [name] [] rfl hi nofun
  | _ => cases h

/-- Only a source file computes its start, and starts with the source. -/
theorem eq_zero_of_posFrom {pos : UInt32} (h : c.posFrom = .computed pos) : pos = 0 := by
  cases c with
  | sourceFile => exact (SpanEnd.computed.inj h).symm
  | _ => cases h

/-- Clamping never takes a sum below its first term. -/
theorem le_addClamped (pos : UInt32) (n : Nat) : pos ≤ addClamped pos n := by
  have hpos := pos.toNat_lt
  have hmin : min (pos.toNat + n) (2 ^ 32 - 1) < UInt32.size := by
    have hsize : UInt32.size = 2 ^ 32 := rfl
    omega
  rw [UInt32.le_iff_toNat_le, addClamped, UInt32.toNat_ofNat_of_lt' hmin]
  omega

/-- Only a keyword computes its end, and it is behind the start, though there may be no room for the text. -/
theorem given_le_of_stopFrom {stop : UInt32} (h : c.stopFrom = .computed stop) :
    c.payload.children = [] ∧ ∃ pos, c.posFrom = .given pos ∧ pos ≤ stop := by
  cases c with
  | keyword pos k =>
      obtain rfl := SpanEnd.computed.inj h
      exact ⟨rfl, pos, rfl, le_addClamped pos _⟩
  | _ => cases h

end Call

/-! ## Calls that fit -/

/-- Whether a call is given what fits the nodes that are there. -/
structure Call.Fits (a : Arena) (c : Call) : Prop where
  /-- The children exist. -/
  exist : ∀ i ∈ c.payload.children, (a.get? i).isSome = true
  /-- Each ends before the next one starts. -/
  ordered : c.payload.children.IsChain fun i j => a.stopOf i ≤ a.posOf j
  /-- A given start is not behind that of the first child. -/
  pos_le : ∀ pos ∈ c.posFrom.given?, ∀ i ∈ c.payload.children.head?, pos ≤ a.posOf i
  /-- A given end is not in front of that of the last child. -/
  le_stop : ∀ stop ∈ c.stopFrom.given?, ∀ i ∈ c.payload.children.getLast?, a.stopOf i ≤ stop
  /-- A given start is not behind a given end. -/
  pos_le_stop : ∀ pos ∈ c.posFrom.given?, ∀ stop ∈ c.stopFrom.given?, pos ≤ stop
  /-- An operand that gives the start is there. -/
  posOperand : ∀ i ∈ c.posFrom.operand?, i ≠ .absent
  /-- An operand that gives the end is there. -/
  stopOperand : ∀ i ∈ c.stopFrom.operand?, i ≠ .absent

instance (a : Arena) (c : Call) : Decidable (c.Fits a) :=
  decidable_of_iff
    ((∀ i ∈ c.payload.children, (a.get? i).isSome = true) ∧
      (c.payload.children.IsChain fun i j => a.stopOf i ≤ a.posOf j) ∧
      (∀ pos ∈ c.posFrom.given?, ∀ i ∈ c.payload.children.head?, pos ≤ a.posOf i) ∧
      (∀ stop ∈ c.stopFrom.given?, ∀ i ∈ c.payload.children.getLast?, a.stopOf i ≤ stop) ∧
      (∀ pos ∈ c.posFrom.given?, ∀ stop ∈ c.stopFrom.given?, pos ≤ stop) ∧
      (∀ i ∈ c.posFrom.operand?, i ≠ .absent) ∧ ∀ i ∈ c.stopFrom.operand?, i ≠ .absent)
    ⟨fun ⟨h₁, h₂, h₃, h₄, h₅, h₆, h₇⟩ => ⟨h₁, h₂, h₃, h₄, h₅, h₆, h₇⟩,
      fun ⟨h₁, h₂, h₃, h₄, h₅, h₆, h₇⟩ => ⟨h₁, h₂, h₃, h₄, h₅, h₆, h₇⟩⟩

namespace Arena

/-- Whether each call of a run fits the nodes that are there when its turn comes. -/
def FitsAll : Arena → List Call → Prop
  | _, [] => True
  | a, c :: cs => c.Fits a ∧ FitsAll (a.apply c) cs

instance decidableFitsAll : (a : Arena) → (cs : List Call) → Decidable (a.FitsAll cs)
  | _, [] => .isTrue trivial
  | a, _ :: cs => @instDecidableAnd _ _ _ (decidableFitsAll (a.apply _) cs)

end Arena

/-! ## Invariant -/

/-- Whether the span of a node lies inside that of another one. -/
structure Node.Inside (m n : Node) : Prop where
  /-- It does not start before. -/
  pos_le : n.pos ≤ m.pos
  /-- It does not end after. -/
  stop_le : m.stop ≤ n.stop

theorem Node.Inside.trans {l m n : Node} (h : l.Inside m) (h' : m.Inside n) : l.Inside n :=
  ⟨UInt32.le_trans h'.pos_le h.pos_le, UInt32.le_trans h.stop_le h'.stop_le⟩

/-- Whether the span of a node goes forward and holds those of its children, side by side in order. -/
structure Node.Nests (a : Arena) (n : Node) : Prop where
  /-- The node does not end before it starts. -/
  pos_le_stop : n.pos ≤ n.stop
  /-- Each child exists and lies inside. -/
  inside : ∀ i ∈ n.children, ∃ m, a.get? i = some m ∧ m.Inside n
  /-- No child starts before an earlier one has ended. -/
  ordered : n.children.Pairwise fun i j => a.stopOf i ≤ a.posOf j

namespace Arena

variable {a : Arena} {c : Call} {n m : Node} {i j : NodeIndex} {l : List NodeIndex}

/-- Whether all nodes nest. -/
def Nested (a : Arena) : Prop := ∀ n ∈ a.nodes, n.Nests a

theorem nested_empty : Nested empty := fun _ hn => absurd hn (Array.not_mem_empty _)

theorem mem_nodes_of_get? (h : a.get? i = some n) : n ∈ a.nodes :=
  Array.mem_of_getElem? (get?_eq_some_iff.mp h).2

theorem posOf_of_get? (h : a.get? i = some n) : a.posOf i = n.pos := by
  unfold posOf
  rw [h]
  rfl

theorem stopOf_of_get? (h : a.get? i = some n) : a.stopOf i = n.stop := by
  unfold stopOf
  rw [h]
  rfl

/-- What is no node has an empty span, which goes forward too. -/
theorem Nested.posOf_le_stopOf (ha : Nested a) (i : NodeIndex) : a.posOf i ≤ a.stopOf i := by
  cases hi : a.get? i with
  | none =>
      unfold posOf stopOf
      rw [hi]
      exact UInt32.le_refl 0
  | some n =>
      rw [posOf_of_get? hi, stopOf_of_get? hi]
      exact (ha n (mem_nodes_of_get? hi)).pos_le_stop

/-- Nodes of which each ends before the next one starts end before all that follow. -/
theorem Nested.pairwise_of_isChain (ha : Nested a) (h : l.IsChain fun i j => a.stopOf i ≤ a.posOf j) :
    l.Pairwise fun i j => a.stopOf i ≤ a.posOf j := by
  have htrans : Trans (fun i j => a.stopOf i ≤ a.posOf j) (fun i j => a.stopOf i ≤ a.posOf j)
      (fun i j => a.stopOf i ≤ a.posOf j) :=
    ⟨fun hij hjk => UInt32.le_trans hij (UInt32.le_trans (ha.posOf_le_stopOf _) hjk)⟩
  exact h.pairwise

/-- In a list of spans in order, the first one starts first. -/
theorem Nested.posOf_head_le (ha : Nested a) (h : l.Pairwise fun i j => a.stopOf i ≤ a.posOf j)
    (hhead : l.head? = some i) (hj : j ∈ l) : a.posOf i ≤ a.posOf j := by
  obtain ⟨rest, rfl⟩ := List.head?_eq_some_iff.mp hhead
  rcases List.mem_cons.mp hj with rfl | hj
  · exact UInt32.le_refl _
  · exact UInt32.le_trans (ha.posOf_le_stopOf i) ((List.pairwise_cons.mp h).1 j hj)

/-- In a list of spans in order, the last one ends last. -/
theorem Nested.stopOf_le_last (ha : Nested a) (h : l.Pairwise fun i j => a.stopOf i ≤ a.posOf j)
    (hlast : l.getLast? = some i) (hj : j ∈ l) : a.stopOf j ≤ a.stopOf i := by
  obtain ⟨before, rfl⟩ := List.getLast?_eq_some_iff.mp hlast
  rcases List.mem_append.mp hj with hj | hj
  · have hle := (List.pairwise_append.mp h).2.2 j hj i List.mem_cons_self
    exact UInt32.le_trans hle (ha.posOf_le_stopOf i)
  · obtain rfl := List.mem_singleton.mp hj
    exact UInt32.le_refl _

end Arena

namespace Call.Fits

open Arena

variable {a : Arena} {c : Call} {i : NodeIndex}

/-- The new node does not start after its first child. -/
theorem pos_le_head (hc : c.Fits a) (hhead : c.payload.children.head? = some i) : c.pos a ≤ a.posOf i := by
  rw [c.pos_eq a]
  cases hfrom : c.posFrom with
  | given pos => exact hc.pos_le pos (by rw [hfrom]; rfl) i hhead
  | operand j =>
      have hj := hc.posOperand j (by rw [hfrom]; rfl)
      rw [head?_children hfrom hj] at hhead
      obtain rfl := Option.some.inj hhead
      exact UInt32.le_refl _
  | computed pos =>
      rw [eq_zero_of_posFrom hfrom]
      exact UInt32.zero_le

/-- The new node does not end before its last child. -/
theorem last_le_stop (hc : c.Fits a) (hlast : c.payload.children.getLast? = some i) :
    a.stopOf i ≤ c.stop a := by
  rw [c.stop_eq a]
  cases hfrom : c.stopFrom with
  | given stop => exact hc.le_stop stop (by rw [hfrom]; rfl) i hlast
  | operand j =>
      have hj := hc.stopOperand j (by rw [hfrom]; rfl)
      rw [getLast?_children hfrom hj] at hlast
      obtain rfl := Option.some.inj hlast
      exact UInt32.le_refl _
  | computed stop =>
      rw [(given_le_of_stopFrom hfrom).1] at hlast
      cases hlast

/-- Without children, no end is taken from an operand. -/
theorem pos_le_stop_of_isEmpty (hc : c.Fits a) (hnil : c.payload.children = []) : c.pos a ≤ c.stop a := by
  rw [c.pos_eq a, c.stop_eq a]
  cases hfrom : c.posFrom with
  | computed pos =>
      rw [eq_zero_of_posFrom hfrom]
      exact UInt32.zero_le
  | operand j =>
      have hhead := head?_children hfrom (hc.posOperand j (by rw [hfrom]; rfl))
      rw [hnil] at hhead
      cases hhead
  | given pos =>
      cases hto : c.stopFrom with
      | given stop => exact hc.pos_le_stop pos (by rw [hfrom]; rfl) stop (by rw [hto]; rfl)
      | operand j =>
          have hlast := getLast?_children hto (hc.stopOperand j (by rw [hto]; rfl))
          rw [hnil] at hlast
          cases hlast
      | computed stop =>
          obtain ⟨-, pos', hpos', hle⟩ := given_le_of_stopFrom hto
          obtain rfl := SpanEnd.given.inj (hfrom.symm.trans hpos')
          exact hle

/-- **The node of a call that fits nests**, where the nodes that are there do. -/
theorem nests_toNode (hc : c.Fits a) (ha : Nested a) : (c.toNode a).Nests a := by
  have hordered := ha.pairwise_of_isChain hc.ordered
  have hpos : ∀ i ∈ c.payload.children, c.pos a ≤ a.posOf i := by
    intro i hi
    have hfirst := List.head?_eq_some_head (List.ne_nil_of_mem hi)
    exact UInt32.le_trans (hc.pos_le_head hfirst) (ha.posOf_head_le hordered hfirst hi)
  have hstop : ∀ i ∈ c.payload.children, a.stopOf i ≤ c.stop a := by
    intro i hi
    have hlast := List.getLast?_eq_some_getLast (List.ne_nil_of_mem hi)
    exact UInt32.le_trans (ha.stopOf_le_last hordered hlast hi) (hc.last_le_stop hlast)
  refine ⟨?_, ?_, hordered⟩
  · show c.pos a ≤ c.stop a
    cases hch : c.payload.children with
    | nil => exact hc.pos_le_stop_of_isEmpty hch
    | cons i rest =>
        have hi : i ∈ c.payload.children := by
          rw [hch]
          exact List.mem_cons_self
        exact UInt32.le_trans (hpos i hi) (UInt32.le_trans (ha.posOf_le_stopOf i) (hstop i hi))
  · intro i hi
    obtain ⟨m, hm⟩ := Option.isSome_iff_exists.mp (hc.exist i hi)
    refine ⟨m, hm, ?_, ?_⟩
    · rw [← posOf_of_get? hm]
      exact hpos i hi
    · rw [← stopOf_of_get? hm]
      exact hstop i hi

end Call.Fits

namespace Arena

variable {a : Arena} {c : Call} {cs : List Call} {n m : Node} {i : NodeIndex}

/-! ### What a call keeps -/

/-- Setting a parent changes nothing else in any node. -/
theorem exists_of_mem_setParent {d p : NodeIndex} (h : n ∈ (a.setParent d p).nodes) :
    ∃ m ∈ a.nodes, ∃ q, n = { m with parent := q } := by
  unfold setParent at h
  split at h
  · exact ⟨n, h, n.parent, rfl⟩
  · obtain ⟨k, hk⟩ := Array.mem_iff_getElem?.mp h
    rw [Array.getElem?_modify] at hk
    split at hk
    · obtain ⟨m, hm, rfl⟩ := Option.map_eq_some_iff.mp hk
      exact ⟨m, Array.mem_of_getElem? hm, p, rfl⟩
    · exact ⟨n, Array.mem_of_getElem? hk, n.parent, rfl⟩

theorem exists_of_mem_adopt {p : NodeIndex} {ds : List NodeIndex} (h : n ∈ (a.adopt p ds).nodes) :
    ∃ m ∈ a.nodes, ∃ q, n = { m with parent := q } := by
  induction ds generalizing a with
  | nil => exact ⟨n, h, n.parent, rfl⟩
  | cons d ds ih =>
      obtain ⟨m, hm, q, rfl⟩ := ih (show n ∈ ((a.setParent d p).adopt p ds).nodes from h)
      obtain ⟨l, hl, r, rfl⟩ := exists_of_mem_setParent hm
      exact ⟨l, hl, q, rfl⟩

/-- After a call there are the nodes from before and the new one, each with whatever parent. -/
theorem exists_of_mem_apply (h : n ∈ (a.apply c).nodes) :
    ∃ m, (m ∈ a.nodes ∨ m = c.toNode a) ∧ ∃ q, n = { m with parent := q } := by
  obtain ⟨m, hm, hn⟩ := exists_of_mem_adopt h
  exact ⟨m, Array.mem_push.mp hm, hn⟩

/-- A call moves the start of no node that is there. -/
theorem posOf_apply (hi : (a.get? i).isSome = true) (c : Call) : (a.apply c).posOf i = a.posOf i := by
  obtain ⟨n, hn⟩ := Option.isSome_iff_exists.mp hi
  obtain ⟨p, hp⟩ := exists_get?_apply hn c
  rw [posOf_of_get? hp, posOf_of_get? hn]

theorem stopOf_apply (hi : (a.get? i).isSome = true) (c : Call) : (a.apply c).stopOf i = a.stopOf i := by
  obtain ⟨n, hn⟩ := Option.isSome_iff_exists.mp hi
  obtain ⟨p, hp⟩ := exists_get?_apply hn c
  rw [stopOf_of_get? hp, stopOf_of_get? hn]

end Arena

/-- A node goes on to nest, whatever is called after it and whoever becomes its parent. -/
theorem Node.Nests.apply {a : Arena} {n : Node} (hn : n.Nests a) (c : Call) (q : NodeIndex) :
    ({ n with parent := q } : Node).Nests (a.apply c) := by
  have hexist : ∀ i ∈ n.children, (a.get? i).isSome = true := by
    intro i hi
    obtain ⟨m, hm, -⟩ := hn.inside i hi
    rw [hm]
    rfl
  refine ⟨hn.pos_le_stop, ?_, ?_⟩
  · intro i hi
    obtain ⟨m, hm, hinside⟩ := hn.inside i hi
    obtain ⟨p, hp⟩ := Arena.exists_get?_apply hm c
    exact ⟨_, hp, hinside.pos_le, hinside.stop_le⟩
  · refine List.Pairwise.imp_of_mem ?_ hn.ordered
    intro i j hi hj hij
    rw [Arena.stopOf_apply (hexist i hi), Arena.posOf_apply (hexist j hj)]
    exact hij

namespace Arena

variable {a : Arena} {c : Call} {cs : List Call} {n m : Node} {i : NodeIndex}

/-- **A call that fits keeps the nodes nested.** -/
theorem Nested.apply (ha : Nested a) (hc : c.Fits a) : Nested (a.apply c) := by
  intro n hn
  obtain ⟨m, hm | rfl, q, rfl⟩ := exists_of_mem_apply hn
  · exact (ha m hm).apply c q
  · exact (hc.nests_toNode ha).apply c q

/-- **So does a run of them**, however long. -/
theorem Nested.applyAll (ha : Nested a) (h : a.FitsAll cs) : Nested (a.applyAll cs) := by
  induction cs generalizing a with
  | nil => exact ha
  | cons c cs ih => exact ih (ha.apply h.1) h.2

/-- A run that fits fits at every point of it. -/
theorem FitsAll.of_append {before after : List Call} (h : a.FitsAll (before ++ after)) : a.FitsAll before := by
  induction before generalizing a with
  | nil => trivial
  | cons c before ih => exact ⟨h.1, ih h.2⟩

/-! ## Descendants -/

/-- Whether a node is a child of another one. -/
def IsChild (a : Arena) (n m : Node) : Prop := ∃ i ∈ n.children, a.get? i = some m

/-- A child lies inside of its parent. -/
theorem Nested.inside_of_isChild (ha : Nested a) (hn : n ∈ a.nodes) (h : a.IsChild n m) : m.Inside n := by
  obtain ⟨i, hi, hm⟩ := h
  obtain ⟨m', hm', hinside⟩ := (ha n hn).inside i hi
  obtain rfl := Option.some.inj (hm.symm.trans hm')
  exact hinside

/-- Whatever is below a node lies inside it. -/
theorem Nested.inside_of_below (ha : Nested a) (hn : n ∈ a.nodes) (h : Relation.TransGen a.IsChild n m) :
    m.Inside n := by
  -- from the top down: the child that the way goes through was looked up, so it nests as well
  induction h using Relation.TransGen.head_induction_on with
  | single h => exact ha.inside_of_isChild hn h
  | @head n l h _ ih =>
      have hl : l ∈ a.nodes := by
        obtain ⟨i, -, hl⟩ := h
        exact mem_nodes_of_get? hl
      exact (ih hl).trans (ha.inside_of_isChild hn h)

/-- So does whatever a node is reached from by going from node to parent, where parents list their children. -/
theorem Nested.inside_of_climb (ha : Nested a) (hlinked : Linked a) (hm : a.get? i = some m) (k : Nat)
    (hn : a.get? (a.parentOf^[k] i) = some n) : m.Inside n := by
  induction k generalizing n with
  | zero =>
      obtain rfl := Option.some.inj (hm.symm.trans hn)
      exact ⟨UInt32.le_refl _, UInt32.le_refl _⟩
  | succ k ih =>
      rw [Function.iterate_succ_apply'] at hn
      rcases hlinked (a.parentOf^[k] i) with hadopter | ⟨habsent, -⟩
      · have hlists := hadopter.lists
        unfold childrenOf at hlists
        rw [hn] at hlists
        obtain ⟨l, hl, hinside⟩ := (ha n (mem_nodes_of_get? hn)).inside _ hlists
        exact (ih hl).trans hinside
      · exact absurd habsent (get?_eq_some_iff.mp hn).1

/-! ## All together -/

/-- **Spans nest.** When each call of a run is given what fits, then at every point of the run: no node ends
    before it starts; the children of a node exist, lie inside it, and stand side by side in order; and so
    does everything below a node lie inside it. The same holds on the way from a node up through the parents,
    as long as no two nodes share a position. -/
theorem build_nested (cs : List Call) (h : empty.FitsAll cs) :
    ∀ before after, cs = before ++ after →
      (∀ n ∈ (build before).nodes, n.pos ≤ n.stop ∧
        (∀ i ∈ n.children, ∃ m, (build before).get? i = some m ∧ n.pos ≤ m.pos ∧ m.stop ≤ n.stop) ∧
        (n.children.Pairwise fun i j => (build before).stopOf i ≤ (build before).posOf j) ∧
        ∀ m, Relation.TransGen (build before).IsChild n m → n.pos ≤ m.pos ∧ m.stop ≤ n.stop) ∧
      (before.length < 2 ^ 32 → ∀ i k m n, (build before).get? i = some m →
        (build before).get? ((build before).parentOf^[k] i) = some n → n.pos ≤ m.pos ∧ m.stop ≤ n.stop) := by
  rintro before after rfl
  have hnested : Nested (build before) := nested_empty.applyAll h.of_append
  refine ⟨?_, ?_⟩
  · intro n hn
    have hnests := hnested n hn
    refine ⟨hnests.pos_le_stop, ?_, hnests.ordered, ?_⟩
    · intro i hi
      obtain ⟨m, hm, hinside⟩ := hnests.inside i hi
      exact ⟨m, hm, hinside.pos_le, hinside.stop_le⟩
    · intro m hm
      have hinside := hnested.inside_of_below hn hm
      exact ⟨hinside.pos_le, hinside.stop_le⟩
  · intro hlen i k m n hm hn
    have hinside := hnested.inside_of_climb (linked_build before hlen) hm k hn
    exact ⟨hinside.pos_le, hinside.stop_le⟩

/-- `f(x)` and `this` with a comma between, where `this` stands so late that there is no room for its text. -/
def lateKeyword : List Call :=
  [.identifier 0 1 "f", .identifier 2 3 "x", .call (.ofNat 0) [.ofNat 1] 4, .keyword 4294967294 .this,
   .binary (.ofNat 2) .comma (.ofNat 3), .sourceFile "f.ts" 4294967295 [.ofNat 4]]

/-- The keyword ends with the last position that there is, and the source file, three steps up from the
    argument, still holds it and all the rest. -/
theorem build_nested_lateKeyword :
    empty.FitsAll lateKeyword ∧ (build lateKeyword).stopOf (.ofNat 3) = 4294967295 ∧
      ∀ i k m n, (build lateKeyword).get? i = some m →
        (build lateKeyword).get? ((build lateKeyword).parentOf^[k] i) = some n →
          n.pos ≤ m.pos ∧ m.stop ≤ n.stop := by
  have hfits : empty.FitsAll lateKeyword := by decide
  obtain ⟨-, hclimb⟩ := build_nested lateKeyword hfits lateKeyword [] (by simp)
  exact ⟨hfits, by decide, hclimb (by decide)⟩

end Arena

end SyntaxShapes
