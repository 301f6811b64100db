import SyntaxShapes.Proofs.Shape.Parts

/-!
# `SyntaxShapes.Proofs.Shape.Footprint` — how far a shape reaches

For every shape there are a few positions that decide whether a node has it: its footprint. Two arenas with the
same nodes there give the same answer, whatever else they hold, and however links end nowhere or in a circle.

A footprint is the node itself for eight shapes; with its children for three, with its parent for the two kinds of
field access. Two shapes reach further. A function that is an argument depends on what its parent calls, which
is a child of the parent; and the name that a loop declares is three links away from the loop.

## Contents
- **Agreement.** `Arena.Agree`, the same nodes at some positions; `Agree.get?_childSlot`.
- **Parts.** `methodCall?_congr` and its like.
- **Footprints.** `Shape.footprint`, `Shape.holds_congr`; `classify_footprint`.
-/

namespace SyntaxShapes

namespace Arena

variable {a b : Arena} {i j : NodeIndex} {is js : List NodeIndex} {p : Payload}

/-! ## Agreement -/

/-- Whether two arenas have the same nodes at some positions, or both have none there. -/
def Agree (a b : Arena) (is : List NodeIndex) : Prop :=
  ∀ i ∈ is, a.get? i = b.get? i

instance (a b : Arena) (is : List NodeIndex) : Decidable (Agree a b is) :=
  inferInstanceAs (Decidable (∀ i ∈ is, a.get? i = b.get? i))

/-- Who agrees on more agrees on less. -/
theorem Agree.mono (h : Agree a b js) (hsub : is ⊆ js) : Agree a b is :=
  fun i hi => h i (hsub hi)

theorem agree_cons : Agree a b (i :: is) ↔ a.get? i = b.get? i ∧ Agree a b is :=
  List.forall_mem_cons

theorem agree_append : Agree a b (is ++ js) ↔ Agree a b is ∧ Agree a b js :=
  List.forall_mem_append

/-- The positions so many links below a node. -/
def below (a : Arena) (i : NodeIndex) : Nat → List NodeIndex
  | 0 => [i]
  | n + 1 => (a.below i n).flatMap a.childrenOf

theorem below_one (a : Arena) (i : NodeIndex) : a.below i 1 = a.childrenOf i :=
  List.append_nil _

theorem mem_below_succ {n : Nat} (hi : i ∈ a.below j n) {c : NodeIndex} (hc : c ∈ a.childrenOf i) :
    c ∈ a.below j (n + 1) :=
  List.mem_flatMap.mpr ⟨i, hi, hc⟩

/-- Agreeing one level further down is agreeing on the children. -/
theorem Agree.childrenOf {n : Nat} (h : Agree a b (a.below j (n + 1))) (hi : i ∈ a.below j n) :
    Agree a b (a.childrenOf i) :=
  h.mono fun _ hc => mem_below_succ hi hc

/-- A place for a child holds a child or nothing, so to agree on the children is enough. -/
theorem Agree.get?_childSlot (h : Agree a b (a.childrenOf i)) (hp : a.payload? i = some p)
    (hj : j ∈ p.childSlots) : a.get? j = b.get? j := by
  by_cases hne : j = .absent
  · rw [hne, get?_absent, get?_absent]
  · exact h j (mem_childrenOf_of_childSlot hp hj hne)

/-! ## Parts -/

/-- A method call is seen in its payload and its children. -/
theorem methodCall?_congr (hself : a.payload? i = b.payload? i) (hchildren : Agree a b (a.childrenOf i)) :
    a.methodCall? i = b.methodCall? i := by
  refine Option.ext fun m => ?_
  rw [methodCall?_eq_some_iff, methodCall?_eq_some_iff, ← hself]
  refine exists_congr fun call => exists_congr fun access => and_congr_right fun hcall => ?_
  have hcallee := hchildren.get?_childSlot (j := call.callee) hcall List.mem_cons_self
  rw [payload?_congr hcallee]

/-- A function that is an argument is seen in its node and in the call around it. -/
theorem functionArg?_congr (hself : a.get? i = b.get? i)
    (hparent : a.methodCall? (a.parentOf i) = b.methodCall? (a.parentOf i)) :
    a.functionArg? i = b.functionArg? i := by
  refine Option.ext fun f => ?_
  rw [functionArg?_eq_some_iff, functionArg?_eq_some_iff, payload?_congr hself, hparent, parentOf_congr hself]

theorem deletion?_congr (hself : a.payload? i = b.payload? i) (hchildren : Agree a b (a.childrenOf i)) :
    a.deletion? i = b.deletion? i := by
  refine Option.ext fun d => ?_
  rw [deletion?_eq_some_iff, deletion?_eq_some_iff, ← hself]
  refine exists_congr fun operand => exists_congr fun access => and_congr_right fun hoperand => ?_
  have hexpression := hchildren.get?_childSlot (j := operand.expression) hoperand List.mem_cons_self
  rw [payload?_congr hexpression]

theorem identifierForOf?_congr (hself : a.payload? i = b.payload? i) (hchildren : Agree a b (a.childrenOf i)) :
    a.identifierForOf? i = b.identifierForOf? i := by
  refine Option.ext fun f => ?_
  rw [identifierForOf?_eq_some_iff, identifierForOf?_eq_some_iff, ← hself]
  refine exists_congr fun forOf => exists_congr fun identifier => and_congr_right fun hforOf => ?_
  have hinitializer := hchildren.get?_childSlot (j := forOf.initializer) hforOf List.mem_cons_self
  rw [payload?_congr hinitializer]

/-- A loop that declares its name is seen three levels down. -/
theorem simpleForOf?_congr (hself : a.payload? i = b.payload? i) (hchildren : Agree a b (a.childrenOf i))
    (hsecond : Agree a b (a.below i 2)) (hthird : Agree a b (a.below i 3)) :
    a.simpleForOf? i = b.simpleForOf? i := by
  refine Option.ext fun f => ?_
  rw [simpleForOf?_eq_some_iff, simpleForOf?_eq_some_iff, ← hself]
  refine exists_congr fun forOf => exists_congr fun listNode => exists_congr fun list =>
    exists_congr fun declaration => exists_congr fun decl => exists_congr fun name => ?_
  refine and_congr_right fun hforOf => ?_
  -- from the loop to the list
  have hinitializer : forOf.initializer ∈ (Payload.forOf forOf).childSlots := List.mem_cons_self
  rw [← hchildren.get?_childSlot hforOf hinitializer]
  refine and_congr_right fun hlistNode => and_congr_right fun hlist => and_congr_right fun hnodes => ?_
  -- from the list to its declaration
  have hlist' := payload?_eq_some_iff.mpr ⟨listNode, hlistNode, hlist⟩
  have hfirst : forOf.initializer ∈ a.below i 1 := by
    rw [below_one]
    exact mem_childrenOf_of_childSlot hforOf hinitializer (get?_eq_some_iff.mp hlistNode).1
  have hdeclaration : declaration ∈ (Payload.declarationList list).childSlots := by
    rw [Payload.childSlots, hnodes]
    exact List.mem_cons_self
  rw [← payload?_congr ((hsecond.childrenOf hfirst).get?_childSlot hlist' hdeclaration)]
  refine and_congr_right fun hdecl => ?_
  -- from the declaration to its name
  obtain ⟨n, hn, -⟩ := payload?_eq_some_iff.mp hdecl
  have hchild := mem_childrenOf_of_childSlot hlist' hdeclaration (get?_eq_some_iff.mp hn).1
  have hname := (hthird.childrenOf (mem_below_succ hfirst hchild)).get?_childSlot (j := decl.name) hdecl
    List.mem_cons_self
  rw [payload?_congr hname]

theorem calls_congr (h : a.payload? i = b.payload? i) : a.Calls i j ↔ b.Calls i j := by
  unfold Calls
  rw [h]

end Arena

/-! ## Footprints -/

/-- The positions on which it depends whether a node has a shape. -/
def Shape.footprint (a : Arena) (i : NodeIndex) : Shape → List NodeIndex
  | .equalsExpression | .compoundAssignmentExpression | .literal | .unaryExpression | .thisKeyword
  | .nullOrUndefinedOrNaN | .numericCoercingOperator | .integerCoercingOperator => [i]
  | .methodCall | .deleteExpression | .forOfWithIdentifierInitializer => i :: a.childrenOf i
  | .fieldElementAccess | .fieldPropertyAccess => [i, a.parentOf i]
  | .functionArgInMethodCall => i :: a.parentOf i :: a.childrenOf (a.parentOf i)
  | .forOfWithSimpleInitializer => i :: a.childrenOf i ++ a.below i 2 ++ a.below i 3

/-- **A shape depends on its footprint alone.** -/
theorem Shape.holds_congr {a b : Arena} {i : NodeIndex} (s : Shape) (h : Arena.Agree a b (s.footprint a i)) :
    s.holds a i = s.holds b i := by
  have hget : a.get? i = b.get? i := by
    refine h i ?_
    cases s <;> simp [footprint]
  have hself := Arena.payload?_congr hget
  cases s with
  | equalsExpression | compoundAssignmentExpression | literal | unaryExpression | thisKeyword
  | nullOrUndefinedOrNaN | numericCoercingOperator | integerCoercingOperator =>
      exact holds_congr_payload? trivial hself
  | methodCall => rw [holds, holds, Arena.methodCall?_congr hself (Arena.agree_cons.mp h).2]
  | deleteExpression => rw [holds, holds, Arena.deletion?_congr hself (Arena.agree_cons.mp h).2]
  | forOfWithIdentifierInitializer =>
      rw [holds, holds, Arena.identifierForOf?_congr hself (Arena.agree_cons.mp h).2]
  | fieldElementAccess | fieldPropertyAccess =>
      have hparent := Arena.payload?_congr (h (a.parentOf i) (by simp [footprint]))
      refine Arena.holds_field_congr (by simp) (Arena.kindAt?_congr hself) ?_
      rw [Arena.calls_congr hparent, Arena.parentOf_congr hget]
  | functionArgInMethodCall =>
      obtain ⟨hparent, hsiblings⟩ := Arena.agree_cons.mp (Arena.agree_cons.mp h).2
      rw [holds, holds, Arena.functionArg?_congr hget
        (Arena.methodCall?_congr (Arena.payload?_congr hparent) hsiblings)]
  | forOfWithSimpleInitializer =>
      obtain ⟨hsecond, hthird⟩ := Arena.agree_append.mp h
      obtain ⟨hchildren, hsecond⟩ := Arena.agree_append.mp hsecond
      rw [holds, holds, Arena.simpleForOf?_congr hself (Arena.agree_cons.mp hchildren).2 hsecond hthird]

namespace Arena

variable {a b : Arena} {i : NodeIndex}

/-- **What can change the shapes of a node.** Let two arenas have the same nodes at a position, at the parent of
    the node there and at its children. Then they agree on all its shapes but two. They agree on whether it is
    a function that is an argument, if they have the same children of its parent; on whether it is a loop with
    a declaration, if they have the same nodes two and three links below it; and on all its shapes, if both. -/
theorem classify_footprint (h : Agree a b (i :: a.parentOf i :: a.childrenOf i)) :
    (∀ s : Shape, s ≠ .functionArgInMethodCall → s ≠ .forOfWithSimpleInitializer → s.holds a i = s.holds b i) ∧
      (Agree a b (a.childrenOf (a.parentOf i)) →
        Shape.functionArgInMethodCall.holds a i = Shape.functionArgInMethodCall.holds b i) ∧
      (Agree a b (a.below i 2) → Agree a b (a.below i 3) →
        Shape.forOfWithSimpleInitializer.holds a i = Shape.forOfWithSimpleInitializer.holds b i) ∧
      (Agree a b (a.childrenOf (a.parentOf i)) → Agree a b (a.below i 2) → Agree a b (a.below i 3) →
        a.classify i = b.classify i) := by
  obtain ⟨hself, hparent, hchildren⟩ : a.get? i = b.get? i ∧ a.get? (a.parentOf i) = b.get? (a.parentOf i) ∧
      Agree a b (a.childrenOf i) := by
    rwa [agree_cons, agree_cons] at h
  have hnear : ∀ s : Shape, s ≠ .functionArgInMethodCall → s ≠ .forOfWithSimpleInitializer →
      s.holds a i = s.holds b i := by
    intro s hfunction hloop
    refine s.holds_congr ?_
    cases s with
    | functionArgInMethodCall => exact absurd rfl hfunction
    | forOfWithSimpleInitializer => exact absurd rfl hloop
    | methodCall | deleteExpression | forOfWithIdentifierInitializer => exact agree_cons.mpr ⟨hself, hchildren⟩
    | _ => exact h.mono (by simp [Shape.footprint])
  have hfunction : Agree a b (a.childrenOf (a.parentOf i)) →
      Shape.functionArgInMethodCall.holds a i = Shape.functionArgInMethodCall.holds b i := by
    intro hsiblings
    exact Shape.holds_congr _ (agree_cons.mpr ⟨hself, agree_cons.mpr ⟨hparent, hsiblings⟩⟩)
  have hloop : Agree a b (a.below i 2) → Agree a b (a.below i 3) →
      Shape.forOfWithSimpleInitializer.holds a i = Shape.forOfWithSimpleInitializer.holds b i := by
    intro hsecond hthird
    have hlinks := agree_append.mpr ⟨agree_cons.mpr ⟨hself, hchildren⟩, hsecond⟩
    exact Shape.holds_congr _ (agree_append.mpr ⟨hlinks, hthird⟩)
  refine ⟨hnear, hfunction, hloop, ?_⟩
  intro hsiblings hsecond hthird
  refine List.filter_congr fun s _ => ?_
  by_cases hs : s = .functionArgInMethodCall
  · rw [hs, hfunction hsiblings]
  · by_cases hs' : s = .forOfWithSimpleInitializer
    · rw [hs', hloop hsecond hthird]
    · exact hnear s hs hs'

/-- `for (let x of xs) ys.f(function () { })`, where something else may stand for `ys`, and nodes may follow. -/
def callbackLoop (receiver : Payload) (more : List Node) : Arena where
  nodes := (([
     ⟨0, 0, 40, .absent, .forOf ⟨false, ⟨1⟩, ⟨4⟩, ⟨5⟩⟩⟩,
     ⟨1, 5, 10, ⟨0⟩, .declarationList ⟨.ofNodes [⟨2⟩]⟩⟩,
     ⟨0, 9, 10, ⟨1⟩, .declaration ⟨⟨3⟩, .absent⟩⟩,
     ⟨0, 9, 10, ⟨2⟩, .identifier ⟨"x"⟩⟩,
     ⟨0, 14, 16, ⟨0⟩, .identifier ⟨"xs"⟩⟩,
     ⟨0, 18, 40, ⟨0⟩, .expressionStatement ⟨⟨6⟩⟩⟩,
     ⟨0, 18, 40, ⟨5⟩, .call ⟨⟨7⟩, .ofNodes [⟨8⟩]⟩⟩,
     ⟨0, 18, 22, ⟨6⟩, .propertyAccess ⟨⟨9⟩, ⟨10⟩, false⟩⟩,
     ⟨0, 23, 39, ⟨6⟩, .functionExpression { body := ⟨11⟩ }⟩,
     ⟨0, 18, 20, ⟨7⟩, receiver⟩,
     ⟨0, 21, 22, ⟨7⟩, .identifier ⟨"f"⟩⟩,
     ⟨0, 36, 39, ⟨8⟩, .block ⟨.ofNodes []⟩⟩] : List Node) ++ more).toArray

/-- What the method is called on is no part of the footprint of the loop, nor of that of the function. -/
theorem classify_footprint_callbackLoop :
    (callbackLoop (.identifier ⟨"ys"⟩) []).classify ⟨9⟩ = [] ∧
      (callbackLoop (.keyword ⟨.this⟩) [.placeholder]).classify ⟨9⟩ = [.thisKeyword] ∧
      (callbackLoop (.keyword ⟨.this⟩) [.placeholder]).classify ⟨0⟩ = [.forOfWithSimpleInitializer] ∧
      (callbackLoop (.keyword ⟨.this⟩) [.placeholder]).classify ⟨8⟩ = [.functionArgInMethodCall] := by
  have hloop : (callbackLoop (.identifier ⟨"ys"⟩) []).classify ⟨0⟩ = [.forOfWithSimpleInitializer] := by
    decide +kernel
  have hfunction : (callbackLoop (.identifier ⟨"ys"⟩) []).classify ⟨8⟩ = [.functionArgInMethodCall] := by
    decide +kernel
  refine ⟨by decide +kernel, by decide +kernel, ?_, ?_⟩
  · rw [← hloop]
    exact ((classify_footprint (by decide +kernel)).2.2.2 (by decide +kernel) (by decide +kernel)
      (by decide +kernel)).symm
  · rw [← hfunction]
    exact ((classify_footprint (by decide +kernel)).2.2.2 (by decide +kernel) (by decide +kernel)
      (by decide +kernel)).symm

end Arena

end SyntaxShapes
