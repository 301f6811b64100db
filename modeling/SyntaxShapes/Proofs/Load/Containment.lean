import Mathlib.Data.Set.Insert
import SyntaxShapes.Arena.Builder
import SyntaxShapes.Proofs.Load.Alignment
import SyntaxShapes.Proofs.Shape.Parts

/-!
# `SyntaxShapes.Proofs.Load.Containment` — a malformed node harms only its neighbours

When raw nodes of a list are replaced by ones that cannot be used, the loaded tree has placeholders in
their places and is otherwise the same. A placeholder has no shape, and no shape rests on one. So each of
the other nodes keeps its shapes, except those that are made of a node that is gone; and it gains a shape
in one case only: an access that was called becomes a field access when its call is gone.

## Contents
- **Arenas.** `Masked`, an arena with placeholders put in; what look-ups and the parts of shapes become
  (`Masked.payload?_eq_some_iff`, `Masked.methodCall?_eq_some_iff` and so on).
- **Shapes.** `Lost`, `Gained`; `Contained`, all that may change for one node; `Masked.contained`.
- **Loading.** `Damaged`; `masked_of_damaged`, `load_containment`.
-/

namespace SyntaxShapes

namespace Arena

/-! ## Arenas -/

/-- Whether an arena is another one in which placeholders stand at some positions. -/
structure Masked (M : Set Nat) (a b : Arena) : Prop where
  /-- Elsewhere the nodes are the same. -/
  outside : ∀ i : NodeIndex, i.toNat ∉ M → b.get? i = a.get? i
  /-- At those positions there is nothing but placeholders. -/
  inside : ∀ (i : NodeIndex) (n : Node), i.toNat ∈ M → b.get? i = some n → n = .placeholder

namespace Masked

variable {M : Set Nat} {a b : Arena} {i : NodeIndex}

/-- What is no placeholder was there before and is not masked. -/
theorem get?_eq_some_iff (h : Masked M a b) {n : Node} (hn : n.payload ≠ .token ⟨.unknown⟩) :
    b.get? i = some n ↔ a.get? i = some n ∧ i.toNat ∉ M := by
  by_cases hi : i.toNat ∈ M
  · have hne : b.get? i ≠ some n := by
      intro hb
      rw [h.inside i n hi hb] at hn
      exact hn rfl
    simp [hi, hne]
  · rw [h.outside i hi]
    simp [hi]

/-- But for placeholders, payloads outside of the damage are the same, and none is left inside of it. -/
theorem payload?_eq_some_iff (h : Masked M a b) {p : Payload} (hp : p ≠ .token ⟨.unknown⟩) :
    b.payload? i = some p ↔ a.payload? i = some p ∧ i.toNat ∉ M := by
  rw [Arena.payload?_eq_some_iff, Arena.payload?_eq_some_iff]
  constructor
  · rintro ⟨n, hn, rfl⟩
    obtain ⟨ha, hi⟩ := (h.get?_eq_some_iff hp).mp hn
    exact ⟨⟨n, ha, rfl⟩, hi⟩
  · rintro ⟨⟨n, hn, rfl⟩, hi⟩
    exact ⟨n, (h.get?_eq_some_iff hp).mpr ⟨hn, hi⟩, rfl⟩

theorem payload?_eq (h : Masked M a b) (hi : i.toNat ∉ M) : b.payload? i = a.payload? i := by
  unfold payload?
  rw [h.outside i hi]

theorem parentOf_eq (h : Masked M a b) (hi : i.toNat ∉ M) : b.parentOf i = a.parentOf i := by
  unfold parentOf
  rw [h.outside i hi]

/-- A method call is lost when the call or what it calls is damaged. -/
theorem methodCall?_eq_some_iff (h : Masked M a b) {m : MethodCall} :
    b.methodCall? i = some m ↔ a.methodCall? i = some m ∧ i.toNat ∉ M ∧ m.callee.toNat ∉ M := by
  simp only [Arena.methodCall?_eq_some_iff, h.payload?_eq_some_iff, ne_eq, reduceCtorEq,
    not_false_eq_true]
  constructor
  · rintro ⟨call, access, ⟨hcall, hi⟩, ⟨haccess, hcallee⟩, rfl⟩
    exact ⟨⟨call, access, hcall, haccess, rfl⟩, hi, hcallee⟩
  · rintro ⟨⟨call, access, hcall, haccess, rfl⟩, hi, hcallee⟩
    exact ⟨call, access, ⟨hcall, hi⟩, ⟨haccess, hcallee⟩, rfl⟩

/-- A function that is an argument is lost when the call around it is damaged, or what that calls. -/
theorem functionArg?_eq_some_iff (h : Masked M a b) (hi : i.toNat ∉ M) {f : FunctionArg} :
    b.functionArg? i = some f ↔
      a.functionArg? i = some f ∧
        ¬((a.parentOf i).toNat ∈ M ∨ f.methodCall.callee.toNat ∈ M) := by
  simp only [Arena.functionArg?_eq_some_iff, h.payload?_eq hi, h.parentOf_eq hi,
    h.methodCall?_eq_some_iff, not_or]
  constructor
  · rintro ⟨function, m, hfunction, ⟨hm, hparent, hcallee⟩, hfirst, rfl⟩
    exact ⟨⟨function, m, hfunction, hm, hfirst, rfl⟩, hparent, hcallee⟩
  · rintro ⟨⟨function, m, hfunction, hm, hfirst, rfl⟩, hparent, hcallee⟩
    exact ⟨function, m, hfunction, ⟨hm, hparent, hcallee⟩, hfirst, rfl⟩

theorem deletion?_eq_some_iff (h : Masked M a b) (hi : i.toNat ∉ M) {d : Deletion} :
    b.deletion? i = some d ↔ a.deletion? i = some d ∧ d.operand.toNat ∉ M := by
  simp only [Arena.deletion?_eq_some_iff, h.payload?_eq_some_iff, ne_eq, reduceCtorEq, hi,
    not_false_eq_true, and_true]
  constructor
  · rintro ⟨operand, access, hdelete, ⟨⟨haccess, hoperand⟩, rfl⟩ | ⟨⟨haccess, hoperand⟩, rfl⟩⟩
    · exact ⟨⟨operand, access, hdelete, Or.inl ⟨haccess, rfl⟩⟩, hoperand⟩
    · exact ⟨⟨operand, access, hdelete, Or.inr ⟨haccess, rfl⟩⟩, hoperand⟩
  · rintro ⟨⟨operand, access, hdelete, ⟨haccess, rfl⟩ | ⟨haccess, rfl⟩⟩, hoperand⟩
    · exact ⟨operand, access, hdelete, Or.inl ⟨⟨haccess, hoperand⟩, rfl⟩⟩
    · exact ⟨operand, access, hdelete, Or.inr ⟨⟨haccess, hoperand⟩, rfl⟩⟩

/-- The name in the declaration is one node further down than the parts that the shape gives. -/
theorem simpleForOf?_eq_some_iff (h : Masked M a b) (hi : i.toNat ∉ M) {f : SimpleForOf} :
    b.simpleForOf? i = some f ↔
      a.simpleForOf? i = some f ∧
        ¬(f.declarationList.toNat ∈ M ∨ f.declaration.toNat ∈ M ∨
          ∃ d, a.payload? f.declaration = some (.declaration d) ∧ d.name.toNat ∈ M) := by
  simp only [Arena.simpleForOf?_eq_some_iff, h.payload?_eq_some_iff, ne_eq, reduceCtorEq, hi,
    not_false_eq_true, and_true]
  constructor
  · rintro ⟨forOf, listNode, list, declaration, decl, name, hforOf, hlistNode, hlist, hnodes,
      ⟨hdecl, hdeclaration⟩, ⟨hident, hname⟩, rfl⟩
    have hne : listNode.payload ≠ .token ⟨.unknown⟩ := by
      rw [hlist]
      nofun
    obtain ⟨hlistNode, hinit⟩ := (h.get?_eq_some_iff hne).mp hlistNode
    refine ⟨⟨forOf, listNode, list, declaration, decl, name, hforOf, hlistNode, hlist, hnodes, hdecl,
      hident, rfl⟩, ?_⟩
    rintro (hM | hM | ⟨d, hd, hM⟩)
    · exact hinit hM
    · exact hdeclaration hM
    · obtain ⟨⟩ := hd.symm.trans hdecl
      exact hname hM
  · rintro ⟨⟨forOf, listNode, list, declaration, decl, name, hforOf, hlistNode, hlist, hnodes, hdecl,
      hident, rfl⟩, hM⟩
    rw [not_or, not_or] at hM
    obtain ⟨hinit, hdeclaration, hname⟩ := hM
    have hne : listNode.payload ≠ .token ⟨.unknown⟩ := by
      rw [hlist]
      nofun
    exact ⟨forOf, listNode, list, declaration, decl, name, hforOf,
      (h.get?_eq_some_iff hne).mpr ⟨hlistNode, hinit⟩, hlist, hnodes, ⟨hdecl, hdeclaration⟩,
      ⟨hident, fun hmem => hname ⟨decl, hdecl, hmem⟩⟩, rfl⟩

theorem identifierForOf?_eq_some_iff (h : Masked M a b) (hi : i.toNat ∉ M) {f : IdentifierForOf} :
    b.identifierForOf? i = some f ↔ a.identifierForOf? i = some f ∧ f.identifier.toNat ∉ M := by
  simp only [Arena.identifierForOf?_eq_some_iff, h.payload?_eq_some_iff, ne_eq, reduceCtorEq, hi,
    not_false_eq_true, and_true]
  constructor
  · rintro ⟨forOf, identifier, hforOf, ⟨hidentifier, hinit⟩, rfl⟩
    exact ⟨⟨forOf, identifier, hforOf, hidentifier, rfl⟩, hinit⟩
  · rintro ⟨⟨forOf, identifier, hforOf, hidentifier, rfl⟩, hinit⟩
    exact ⟨forOf, identifier, hforOf, ⟨hidentifier, hinit⟩, rfl⟩

/-- A damaged node calls nothing; any other calls what it called. -/
theorem calls_iff (h : Masked M a b) {p : NodeIndex} : b.Calls p i ↔ a.Calls p i ∧ p.toNat ∉ M := by
  simp only [Calls, h.payload?_eq_some_iff, ne_eq, reduceCtorEq, not_false_eq_true]
  constructor
  · rintro ⟨call, ⟨hcall, hp⟩, hcallee⟩
    exact ⟨⟨call, hcall, hcallee⟩, hp⟩
  · rintro ⟨⟨call, hcall, hcallee⟩, hp⟩
    exact ⟨call, ⟨hcall, hp⟩, hcallee⟩

end Masked

/-! ## Shapes -/

/-- Whether a node has a shape in one arena and not in another. -/
def Lost (a b : Arena) (i : NodeIndex) (s : Shape) : Prop := s ∈ a.classify i ∧ s ∉ b.classify i

/-- Whether a node has a shape in the second of two arenas and not in the first. -/
def Gained (a b : Arena) (i : NodeIndex) (s : Shape) : Prop := Lost b a i s

/-- All that may become of the shapes of a node when some other nodes are gone. -/
structure Contained (M : Set Nat) (a b : Arena) (i : NodeIndex) : Prop where
  /-- A method call is one no more when its callee is gone. -/
  methodCall : Lost a b i .methodCall ↔ ∃ m, a.methodCall? i = some m ∧ m.callee.toNat ∈ M
  /-- A function is no argument of a method call when the call is gone, or the callee of that call. -/
  functionArg : Lost a b i .functionArgInMethodCall ↔
    ∃ f, a.functionArg? i = some f ∧ ((a.parentOf i).toNat ∈ M ∨ f.methodCall.callee.toNat ∈ M)
  /-- A `delete` deletes nothing when its operand is gone. -/
  deletion : Lost a b i .deleteExpression ↔ ∃ d, a.deletion? i = some d ∧ d.operand.toNat ∈ M
  /-- A loop with a declaration needs the list, the declaration in it, and the name in that. -/
  simpleForOf : Lost a b i .forOfWithSimpleInitializer ↔
    ∃ f, a.simpleForOf? i = some f ∧
      (f.declarationList.toNat ∈ M ∨ f.declaration.toNat ∈ M ∨
        ∃ d, a.payload? f.declaration = some (.declaration d) ∧ d.name.toNat ∈ M)
  /-- A loop with a bare name needs the name. -/
  identifierForOf : Lost a b i .forOfWithIdentifierInitializer ↔
    ∃ f, a.identifierForOf? i = some f ∧ f.identifier.toNat ∈ M
  /-- A property access becomes a field access when the call is gone that it was the callee of. -/
  fieldPropertyAccess : Gained a b i .fieldPropertyAccess ↔
    a.kindAt? i = some .propertyAccess ∧ a.Calls (a.parentOf i) i ∧ (a.parentOf i).toNat ∈ M
  /-- So does an element access. -/
  fieldElementAccess : Gained a b i .fieldElementAccess ↔
    a.kindAt? i = some .elementAccess ∧ a.Calls (a.parentOf i) i ∧ (a.parentOf i).toNat ∈ M
  /-- No other shape is lost. -/
  lost : ∀ s, Lost a b i s → s ∈ [Shape.methodCall, .functionArgInMethodCall, .deleteExpression,
    .forOfWithSimpleInitializer, .forOfWithIdentifierInitializer]
  /-- No other shape is gained. -/
  gained : ∀ s, Gained a b i s → s ∈ [Shape.fieldPropertyAccess, .fieldElementAccess]

/-- Where the parts of a shape are found again under a condition, the shape is lost when that fails. -/
theorem isSome_and_not_isSome_iff {α : Type} {x y : Option α} {P : α → Prop}
    (h : ∀ z, y = some z ↔ x = some z ∧ P z) :
    (x.isSome = true ∧ ¬y.isSome = true) ↔ ∃ z, x = some z ∧ ¬P z := by
  simp only [Option.isSome_iff_exists, h]
  constructor
  · rintro ⟨⟨z, hz⟩, hnone⟩
    exact ⟨z, hz, fun hP => hnone ⟨z, hz, hP⟩⟩
  · rintro ⟨z, hz, hP⟩
    refine ⟨⟨z, hz⟩, ?_⟩
    rintro ⟨w, hw, hPw⟩
    obtain rfl := Option.some.inj (hz.symm.trans hw)
    exact hP hPw

/-- And it is never gained. -/
theorem not_isSome_and_not_isSome {α : Type} {x y : Option α} {P : α → Prop}
    (h : ∀ z, y = some z ↔ x = some z ∧ P z) : ¬(y.isSome = true ∧ ¬x.isSome = true) := by
  rintro ⟨hy, hx⟩
  obtain ⟨z, hz⟩ := Option.isSome_iff_exists.mp hy
  exact hx (Option.isSome_iff_exists.mpr ⟨z, ((h z).mp hz).1⟩)

theorem lost_iff {a b : Arena} {i : NodeIndex} {s : Shape} :
    Lost a b i s ↔ s.holds a i = true ∧ ¬s.holds b i = true := by
  unfold Lost
  rw [mem_classify, mem_classify]

theorem not_lost_of_eq {a b : Arena} {i : NodeIndex} {s : Shape} (h : s.holds a i = s.holds b i) :
    ¬Lost a b i s := by
  rw [lost_iff, h]
  exact fun hl => hl.2 hl.1

namespace Masked

variable {M : Set Nat} {a b : Arena} {i : NodeIndex}

/-- An access that is not called stays so, and one that is called is no more when its call is gone. -/
theorem gained_field_iff (h : Masked M a b) (hi : i.toNat ∉ M) {s : Shape} {k : Kind}
    (hs : ∀ c : Arena, s.holds c i = true ↔ c.kindAt? i = some k ∧ ¬c.Calls (c.parentOf i) i) :
    Gained a b i s ↔
      a.kindAt? i = some k ∧ a.Calls (a.parentOf i) i ∧ (a.parentOf i).toNat ∈ M := by
  have hkind : b.kindAt? i = a.kindAt? i := congrArg (·.map Payload.kind) (h.payload?_eq hi)
  unfold Gained
  rw [lost_iff, hs, hs, h.parentOf_eq hi, h.calls_iff, hkind]
  constructor
  · rintro ⟨⟨hk, hb⟩, ha⟩
    have hcalls : a.Calls (a.parentOf i) i := Classical.byContradiction fun hn => ha ⟨hk, hn⟩
    exact ⟨hk, hcalls, Classical.byContradiction fun hp => hb ⟨hcalls, hp⟩⟩
  · rintro ⟨hk, hcalls, hp⟩
    exact ⟨⟨hk, fun hb => hb.2 hp⟩, fun ha => ha.2 hcalls⟩

/-- A field access is not lost: damage can only take away what calls it. -/
theorem not_lost_field (h : Masked M a b) (hi : i.toNat ∉ M) {s : Shape} {k : Kind}
    (hs : ∀ c : Arena, s.holds c i = true ↔ c.kindAt? i = some k ∧ ¬c.Calls (c.parentOf i) i) :
    ¬Lost a b i s := by
  have hkind : b.kindAt? i = a.kindAt? i := congrArg (·.map Payload.kind) (h.payload?_eq hi)
  rw [lost_iff, hs, hs, h.parentOf_eq hi, h.calls_iff, hkind]
  rintro ⟨⟨hk, ha⟩, hb⟩
  exact hb ⟨hk, fun hcalls => ha hcalls.1⟩

/-- A shape that a node has by itself is kept outside of the damage. -/
theorem holds_own (h : Masked M a b) (hi : i.toNat ∉ M) {s : Shape} (hs : s.IsOwn) :
    s.holds b i = s.holds a i :=
  Shape.holds_congr_payload? hs (h.payload?_eq hi)

/-- Only five shapes can be lost outside of the damage. -/
theorem mem_of_lost (h : Masked M a b) (hi : i.toNat ∉ M) {s : Shape} (hs : Lost a b i s) :
    s ∈ [Shape.methodCall, .functionArgInMethodCall, .deleteExpression, .forOfWithSimpleInitializer,
      .forOfWithIdentifierInitializer] := by
  have hown : ∀ t : Shape, t.IsOwn → ¬Lost a b i t := fun t ht => not_lost_of_eq (h.holds_own hi ht).symm
  cases s with
  | methodCall | functionArgInMethodCall | deleteExpression | forOfWithSimpleInitializer
  | forOfWithIdentifierInitializer => simp
  | fieldPropertyAccess => exact absurd hs (h.not_lost_field hi fun _ => isFieldPropertyAccess_iff)
  | fieldElementAccess => exact absurd hs (h.not_lost_field hi fun _ => isFieldElementAccess_iff)
  | _ => exact absurd hs (hown _ trivial)

theorem mem_of_gained (h : Masked M a b) (hi : i.toNat ∉ M) {s : Shape} (hs : Gained a b i s) :
    s ∈ [Shape.fieldPropertyAccess, .fieldElementAccess] := by
  have hown : ∀ t : Shape, t.IsOwn → ¬Lost b a i t := fun t ht => not_lost_of_eq (h.holds_own hi ht)
  have hholds := lost_iff.mp hs
  -- the parts that make a shape now made it before
  cases s with
  | fieldPropertyAccess | fieldElementAccess => simp
  | methodCall => exact absurd hholds (not_isSome_and_not_isSome fun _ => h.methodCall?_eq_some_iff)
  | functionArgInMethodCall =>
      exact absurd hholds (not_isSome_and_not_isSome fun _ => h.functionArg?_eq_some_iff hi)
  | deleteExpression =>
      exact absurd hholds (not_isSome_and_not_isSome fun _ => h.deletion?_eq_some_iff hi)
  | forOfWithSimpleInitializer =>
      exact absurd hholds (not_isSome_and_not_isSome fun _ => h.simpleForOf?_eq_some_iff hi)
  | forOfWithIdentifierInitializer =>
      exact absurd hholds (not_isSome_and_not_isSome fun _ => h.identifierForOf?_eq_some_iff hi)
  | _ => exact absurd hs (hown _ trivial)

/-- **Damage is contained.** -/
theorem contained (h : Masked M a b) (hi : i.toNat ∉ M) : Contained M a b i where
  methodCall := by
    refine lost_iff.trans ((isSome_and_not_isSome_iff fun _ => h.methodCall?_eq_some_iff).trans ?_)
    simp [hi]
  functionArg := by
    refine lost_iff.trans ((isSome_and_not_isSome_iff fun _ => h.functionArg?_eq_some_iff hi).trans ?_)
    simp only [Classical.not_not]
  deletion := by
    refine lost_iff.trans ((isSome_and_not_isSome_iff fun _ => h.deletion?_eq_some_iff hi).trans ?_)
    simp only [Classical.not_not]
  simpleForOf := by
    refine lost_iff.trans ((isSome_and_not_isSome_iff fun _ => h.simpleForOf?_eq_some_iff hi).trans ?_)
    simp only [Classical.not_not]
  identifierForOf := by
    refine lost_iff.trans ((isSome_and_not_isSome_iff fun _ => h.identifierForOf?_eq_some_iff hi).trans ?_)
    simp only [Classical.not_not]
  fieldPropertyAccess := h.gained_field_iff hi fun _ => isFieldPropertyAccess_iff
  fieldElementAccess := h.gained_field_iff hi fun _ => isFieldElementAccess_iff
  lost _ hs := h.mem_of_lost hi hs
  gained _ hs := h.mem_of_gained hi hs

end Masked

end Arena

/-! ## Loading -/

namespace Load

open Json (Value)

/-- Whether a list of raw nodes is another one in which those at some positions were replaced by ones that
    cannot be used. -/
structure Damaged (M : Set Nat) (raws raws' : List Value) : Prop where
  /-- None is added or taken away. -/
  length : raws'.length = raws.length
  /-- Elsewhere the raw nodes are the same. -/
  outside : ∀ i, i ∉ M → raws'[i]? = raws[i]?
  /-- Those at the positions cannot be used. -/
  inside : ∀ i r, i ∈ M → raws'[i]? = some r → ¬Usable r

/-- A damaged list loads with placeholders in the damaged places, and otherwise as before. -/
theorem masked_of_damaged {M : Set Nat} {raws raws' : List Value} (h : Damaged M raws raws') :
    Arena.Masked M (Loaded.ofResults (raws.map readNode)).arena
      (Loaded.ofResults (raws'.map readNode)).arena where
  outside i hi := by
    unfold Arena.get?
    rw [nodes_ofResults, nodes_ofResults, List.getElem?_map, List.getElem?_map, h.outside _ hi]
  inside i n hi hn := by
    have hnode := (Arena.get?_eq_some_iff.mp hn).2
    rw [nodes_ofResults, List.getElem?_map, Option.map_map, Option.map_eq_some_iff] at hnode
    obtain ⟨r, hr, rfl⟩ := hnode
    obtain ⟨reason, hreason⟩ := exists_readNode_eq_error_iff.mpr (h.inside _ r hi hr)
    rw [Function.comp_apply, hreason]
    rfl

/-- **Damage is contained.** When raw nodes of a list are replaced by ones that cannot be used, the list
    still loads, and each of the other nodes, usable or not, keeps its shapes but for what `Contained`
    allows. -/
theorem load_containment (M : Set Nat) (raws raws' : List Value) (h : Damaged M raws raws') :
    ∃ l l', load (.array raws) = .ok l ∧ load (.array raws') = .ok l' ∧
      ∀ i : NodeIndex, i.toNat ∉ M → Arena.Contained M l.arena l'.arena i :=
  ⟨_, _, load_eq_ofResults (.array raws), load_eq_ofResults (.array raws'),
    fun _ hi => (masked_of_damaged h).contained hi⟩

/-- The raw nodes of two method calls, `a.b()` and `c.d()`. -/
def twoMethodCalls : List Value :=
  (Arena.build [.identifier 0 1 "a", .identifier 2 3 "b", .propertyAccess (.ofNat 0) (.ofNat 1),
    .call (.ofNat 2) [] 5, .identifier 6 7 "c", .identifier 8 9 "d",
    .propertyAccess (.ofNat 4) (.ofNat 5), .call (.ofNat 6) [] 11]).nodes.toList.map Node.toJson

/-- Without `a.b`, the first call is no method call; without the second call, `c.d` is a field access. -/
theorem load_containment_twoMethodCalls :
    ∃ l l', load (.array twoMethodCalls) = .ok l ∧
      load (.array ((twoMethodCalls.set 2 .null).set 7 .null)) = .ok l' ∧
      Arena.Lost l.arena l'.arena (.ofNat 3) .methodCall ∧
      Arena.Gained l.arena l'.arena (.ofNat 6) .fieldPropertyAccess := by
  have hnull : ¬Usable .null := fun h => nomatch h.1
  have hdamaged : Damaged {2, 7} twoMethodCalls ((twoMethodCalls.set 2 .null).set 7 .null) := by
    refine ⟨by simp, ?_, ?_⟩
    · intro i hi
      rw [Set.mem_insert_iff, Set.mem_singleton_iff, not_or] at hi
      rw [List.getElem?_set_ne (Ne.symm hi.2), List.getElem?_set_ne (Ne.symm hi.1)]
    · rintro i r (rfl | rfl) hr
      · obtain rfl : Value.null = r := Option.some.inj hr
        exact hnull
      · obtain rfl : Value.null = r := Option.some.inj hr
        exact hnull
  obtain ⟨l, l', hl, hl', hcontained⟩ := load_containment {2, 7} _ _ hdamaged
  obtain rfl := Except.ok.inj ((load_eq_ofResults (.array _)).symm.trans hl)
  have hthree : (NodeIndex.ofNat 3).toNat ∉ ({2, 7} : Set Nat) := by simp [NodeIndex.toNat, NodeIndex.ofNat]
  have hsix : (NodeIndex.ofNat 6).toNat ∉ ({2, 7} : Set Nat) := by simp [NodeIndex.toNat, NodeIndex.ofNat]
  refine ⟨_, l', hl, hl', (hcontained _ hthree).methodCall.mpr ?_,
    (hcontained _ hsix).fieldPropertyAccess.mpr ?_⟩
  · exact ⟨_, by rfl, Or.inl rfl⟩
  · exact ⟨by rfl, ⟨_, by rfl, by rfl⟩, Or.inr rfl⟩

end Load

end SyntaxShapes
