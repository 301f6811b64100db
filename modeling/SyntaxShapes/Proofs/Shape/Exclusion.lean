import Mathlib.Data.List.Nodup
import SyntaxShapes.Proofs.Shape.Parts

/-!
# `SyntaxShapes.Proofs.Shape.Exclusion` — shapes exclude each other

The tests for the shapes are independent of each other, but each of them asks first for a payload of its own,
and what a payload leaves open is little: one shape or none, but for two payloads (`Payload.shapes`). A binary
expression may have a shape for what its operator assigns and one for what it converts. A loop over values may
have either of two shapes, by what its initializer is, and so not both.

What a payload leaves open bounds the shapes of a node from above (`Shape.mem_shapes_of_holds`), whatever the
links around it are. For a binary expression it is exact (`classify_binary`): both of its shapes are decided by
the operator alone.

## Contents
- **Open shapes.** `Keyword.shapes`, `Token.shapes`, `Payload.shapes`; `Shape.mem_shapes_of_holds`; no shape
  without a node, `Shape.isSome_get?_of_holds`.
- **One shape at most.** `Arena.eq_of_holds`.
- **Binary expressions.** `Arena.classify_binary`; `Token.length_shapes`, `Token.shapes_of_coercion?`.
- **All nodes.** `Arena.nodup_classify`, `Arena.length_classify`; `Arena.classify_exclusive`.
-/

namespace SyntaxShapes

/-! ## Open shapes -/

/-- The shape of an expression that converts its operands. -/
def Coercion.shape : Coercion → Shape
  | .numeric => .numericCoercingOperator
  | .integer => .integerCoercingOperator

/-- The shapes that a keyword has. -/
def Keyword.shapes : Keyword → List Shape
  | .true | .false => [.literal]
  | .null | .undefined | .nan => [.nullOrUndefinedOrNaN]
  | .this => [.thisKeyword]
  | .super => []

/-- The shapes that a binary expression has for its operator: what it assigns, and what it converts. -/
def Token.shapes (t : Token) : List Shape :=
  (if t = .equals then [.equalsExpression] else []) ++
    (if t.isCompoundAssignment then [.compoundAssignmentExpression] else []) ++
    (t.coercion?.map Coercion.shape).toList

/-- The shapes that a payload leaves open. -/
def Payload.shapes : Payload → List Shape
  | .binary d => d.operator.shapes
  | .call _ => [.methodCall]
  | .functionExpression _ => [.functionArgInMethodCall]
  | .elementAccess _ => [.fieldElementAccess]
  | .propertyAccess _ => [.fieldPropertyAccess]
  | .numericLiteral _ | .stringLiteral _ | .regularExpressionLiteral _ => [.literal]
  | .prefixUnary _ | .postfixUnary _ => [.unaryExpression]
  | .delete _ => [.deleteExpression]
  | .forOf _ => [.forOfWithSimpleInitializer, .forOfWithIdentifierInitializer]
  | p => p.keyword?.elim [] Keyword.shapes

theorem Payload.mem_shapes_of_keyword? {p : Payload} {k : Keyword} {s : Shape} (hk : p.keyword? = some k)
    (hs : s ∈ k.shapes) : s ∈ p.shapes := by
  unfold keyword? at hk
  split at hk
  · obtain rfl := Option.some.inj hk
    exact hs
  · rename_i d
    show s ∈ (Keyword.ofToken? d.token).elim [] Keyword.shapes
    rw [hk]
    exact hs
  · cases hk

namespace Arena

variable {a : Arena} {i : NodeIndex}

theorem binaryOperator?_eq_some_iff {t : Token} :
    a.binaryOperator? i = some t ↔ ∃ d, a.payload? i = some (.binary d) ∧ d.operator = t := by
  unfold binaryOperator?
  constructor
  · intro h
    obtain ⟨p, hp, h⟩ := Option.bind_eq_some_iff.mp h
    obtain ⟨d, hd, h⟩ := Option.bind_eq_some_iff.mp h
    unfold Payload.binary? at hd
    split at hd
    · obtain rfl := Option.some.inj hd
      exact ⟨_, hp, Option.some.inj h⟩
    · cases hd
  · rintro ⟨d, hp, rfl⟩
    rw [hp]
    rfl

theorem coercion?_eq_some_iff {c : Coercion} :
    a.coercion? i = some c ↔ ∃ d, a.payload? i = some (.binary d) ∧ d.operator.coercion? = some c := by
  unfold coercion?
  rw [Option.bind_eq_some_iff]
  constructor
  · rintro ⟨t, ht, hc⟩
    obtain ⟨d, hd, rfl⟩ := binaryOperator?_eq_some_iff.mp ht
    exact ⟨d, hd, hc⟩
  · rintro ⟨d, hd, hc⟩
    exact ⟨d.operator, binaryOperator?_eq_some_iff.mpr ⟨d, hd, rfl⟩, hc⟩

theorem isCompoundAssignment_iff :
    a.isCompoundAssignment i = true ↔
      ∃ d, a.payload? i = some (.binary d) ∧ d.operator.isCompoundAssignment = true := by
  unfold isCompoundAssignment
  rw [Option.any_eq_true]
  constructor
  · rintro ⟨t, ht, hc⟩
    obtain ⟨d, hd, rfl⟩ := binaryOperator?_eq_some_iff.mp ht
    exact ⟨d, hd, hc⟩
  · rintro ⟨d, hd, hc⟩
    exact ⟨d.operator, binaryOperator?_eq_some_iff.mpr ⟨d, hd, rfl⟩, hc⟩

theorem payload?_of_isFieldElementAccess (h : a.isFieldElementAccess i = true) :
    ∃ d, a.payload? i = some (.elementAccess d) := by
  unfold isFieldElementAccess at h
  split at h
  · rename_i hp
    exact ⟨_, hp⟩
  · cases h

theorem payload?_of_isFieldPropertyAccess (h : a.isFieldPropertyAccess i = true) :
    ∃ d, a.payload? i = some (.propertyAccess d) := by
  unfold isFieldPropertyAccess at h
  split at h
  · rename_i hp
    exact ⟨_, hp⟩
  · cases h

theorem mem_shapes_of_keywordAt? {k : Keyword} {s : Shape} (hk : a.keywordAt? i = some k)
    (hs : s ∈ k.shapes) : ∃ p, a.payload? i = some p ∧ s ∈ p.shapes := by
  obtain ⟨p, hp, hk⟩ := Option.bind_eq_some_iff.mp hk
  exact ⟨p, hp, Payload.mem_shapes_of_keyword? hk hs⟩

theorem mem_shapes_of_isLiteral (h : a.isLiteral i = true) :
    ∃ p, a.payload? i = some p ∧ Shape.literal ∈ p.shapes := by
  unfold isLiteral at h
  split at h
  · rename_i hp
    exact ⟨_, hp, List.mem_singleton_self _⟩
  · rename_i hp
    exact ⟨_, hp, List.mem_singleton_self _⟩
  · rename_i hp
    exact ⟨_, hp, List.mem_singleton_self _⟩
  · rw [Bool.or_eq_true, beq_iff_eq, beq_iff_eq] at h
    rcases h with h | h
    · exact mem_shapes_of_keywordAt? h (List.mem_singleton_self _)
    · exact mem_shapes_of_keywordAt? h (List.mem_singleton_self _)

theorem mem_shapes_of_isNullish (h : a.isNullish i = true) :
    ∃ p, a.payload? i = some p ∧ Shape.nullOrUndefinedOrNaN ∈ p.shapes := by
  unfold isNullish at h
  rw [Bool.or_eq_true, Bool.or_eq_true, beq_iff_eq, beq_iff_eq, beq_iff_eq] at h
  rcases h with (h | h) | h
  · exact mem_shapes_of_keywordAt? h (List.mem_singleton_self _)
  · exact mem_shapes_of_keywordAt? h (List.mem_singleton_self _)
  · exact mem_shapes_of_keywordAt? h (List.mem_singleton_self _)

theorem mem_shapes_of_isUnary (h : a.isUnary i = true) :
    ∃ p, a.payload? i = some p ∧ Shape.unaryExpression ∈ p.shapes := by
  obtain ⟨d, hd⟩ := Option.isSome_iff_exists.mp h
  obtain ⟨p, hp, hd⟩ := Option.bind_eq_some_iff.mp hd
  unfold Payload.unary? at hd
  split at hd
  · exact ⟨_, hp, List.mem_singleton_self _⟩
  · exact ⟨_, hp, List.mem_singleton_self _⟩
  · cases hd

end Arena

namespace Shape

variable {a : Arena} {i : NodeIndex} {s : Shape}

/-- **A shape that a node has is left open by its payload.** -/
theorem mem_shapes_of_holds (h : s.holds a i = true) : ∃ p, a.payload? i = some p ∧ s ∈ p.shapes := by
  cases s with
  | equalsExpression =>
      obtain ⟨d, hd, hop⟩ := Arena.binaryOperator?_eq_some_iff.mp (beq_iff_eq.mp h)
      refine ⟨_, hd, ?_⟩
      simp [Payload.shapes, Token.shapes, hop]
  | compoundAssignmentExpression =>
      obtain ⟨d, hd, hop⟩ := Arena.isCompoundAssignment_iff.mp h
      refine ⟨_, hd, ?_⟩
      simp [Payload.shapes, Token.shapes, hop]
  | numericCoercingOperator | integerCoercingOperator =>
      obtain ⟨d, hd, hop⟩ := Arena.coercion?_eq_some_iff.mp (beq_iff_eq.mp h)
      refine ⟨_, hd, ?_⟩
      simp [Payload.shapes, Token.shapes, hop, Coercion.shape]
  | methodCall =>
      obtain ⟨m, hm⟩ := Option.isSome_iff_exists.mp h
      obtain ⟨call, -, hcall, -⟩ := Arena.methodCall?_eq_some_iff.mp hm
      exact ⟨_, hcall, List.mem_singleton_self _⟩
  | functionArgInMethodCall =>
      obtain ⟨f, hf⟩ := Option.isSome_iff_exists.mp h
      obtain ⟨function, -, hfunction, -⟩ := Arena.functionArg?_eq_some_iff.mp hf
      exact ⟨_, hfunction, List.mem_singleton_self _⟩
  | fieldElementAccess =>
      obtain ⟨d, hd⟩ := Arena.payload?_of_isFieldElementAccess h
      exact ⟨_, hd, List.mem_singleton_self _⟩
  | fieldPropertyAccess =>
      obtain ⟨d, hd⟩ := Arena.payload?_of_isFieldPropertyAccess h
      exact ⟨_, hd, List.mem_singleton_self _⟩
  | literal => exact Arena.mem_shapes_of_isLiteral h
  | unaryExpression => exact Arena.mem_shapes_of_isUnary h
  | deleteExpression =>
      obtain ⟨d, hd⟩ := Option.isSome_iff_exists.mp h
      obtain ⟨operand, -, hdelete, -⟩ := Arena.deletion?_eq_some_iff.mp hd
      exact ⟨_, hdelete, List.mem_singleton_self _⟩
  | thisKeyword => exact Arena.mem_shapes_of_keywordAt? (beq_iff_eq.mp h) (List.mem_singleton_self _)
  | nullOrUndefinedOrNaN => exact Arena.mem_shapes_of_isNullish h
  | forOfWithSimpleInitializer =>
      obtain ⟨f, hf⟩ := Option.isSome_iff_exists.mp h
      obtain ⟨forOf, -, -, -, -, -, hforOf, -⟩ := Arena.simpleForOf?_eq_some_iff.mp hf
      exact ⟨_, hforOf, List.mem_cons_self⟩
  | forOfWithIdentifierInitializer =>
      obtain ⟨f, hf⟩ := Option.isSome_iff_exists.mp h
      obtain ⟨forOf, -, hforOf, -⟩ := Arena.identifierForOf?_eq_some_iff.mp hf
      exact ⟨_, hforOf, List.mem_cons_of_mem _ List.mem_cons_self⟩

/-- Where no node stands there is no shape. -/
theorem isSome_get?_of_holds (h : s.holds a i = true) : (a.get? i).isSome = true := by
  obtain ⟨p, hp, -⟩ := mem_shapes_of_holds h
  exact Arena.isSome_get?_of_payload? hp

end Shape

/-! ## One shape at most -/

/-- A keyword leaves one shape open at most. -/
theorem Keyword.eq_of_mem_shapes {k : Keyword} {s t : Shape} (hs : s ∈ k.shapes) (ht : t ∈ k.shapes) :
    s = t := by
  cases k with
  | super => cases hs
  | _ => exact (List.mem_singleton.mp hs).trans (List.mem_singleton.mp ht).symm

/-- Only an operator and a loop over values leave more than one shape open. -/
theorem Payload.eq_of_mem_shapes {p : Payload} {s t : Shape} (hbinary : ∀ d, p ≠ .binary d)
    (hforOf : ∀ d, p ≠ .forOf d) (hs : s ∈ p.shapes) (ht : t ∈ p.shapes) : s = t := by
  cases p with
  | binary d => exact absurd rfl (hbinary d)
  | forOf d => exact absurd rfl (hforOf d)
  | keyword d => exact Keyword.eq_of_mem_shapes (k := d.keyword) hs ht
  | token d =>
      have hshapes : (Payload.token d).shapes = (Keyword.ofToken? d.token).elim [] Keyword.shapes := rfl
      rw [hshapes] at hs ht
      cases hk : Keyword.ofToken? d.token with
      | none =>
          rw [hk] at hs
          cases hs
      | some k =>
          rw [hk] at hs ht
          exact Keyword.eq_of_mem_shapes hs ht
  | call | functionExpression | elementAccess | propertyAccess | numericLiteral | stringLiteral
  | regularExpressionLiteral | prefixUnary | postfixUnary | delete =>
      exact (List.mem_singleton.mp hs).trans (List.mem_singleton.mp ht).symm
  | _ => exact absurd hs List.not_mem_nil

namespace Arena

variable {a : Arena} {i : NodeIndex}

/-- No initializer is both a declaration and a name. -/
theorem simpleForOf?_eq_none_of_identifierForOf? {f : IdentifierForOf} (h : a.identifierForOf? i = some f) :
    a.simpleForOf? i = none := by
  rw [Option.eq_none_iff_forall_ne_some]
  intro g hg
  obtain ⟨forOf, name, hforOf, hname, -⟩ := identifierForOf?_eq_some_iff.mp h
  obtain ⟨forOf', listNode, list, -, -, -, hforOf', hlistNode, hlist, -⟩ := simpleForOf?_eq_some_iff.mp hg
  obtain ⟨⟩ := hforOf.symm.trans hforOf'
  obtain ⟨⟩ := hname.symm.trans (payload?_eq_some_iff.mpr ⟨listNode, hlistNode, hlist⟩)

/-- **What is no binary expression has at most one shape.** -/
theorem eq_of_holds {s t : Shape} (hbinary : ∀ d, a.payload? i ≠ some (.binary d)) (hs : s.holds a i = true)
    (ht : t.holds a i = true) : s = t := by
  obtain ⟨p, hp, hsp⟩ := Shape.mem_shapes_of_holds hs
  obtain ⟨p', hp', htp⟩ := Shape.mem_shapes_of_holds ht
  obtain rfl := Option.some.inj (hp.symm.trans hp')
  by_cases hforOf : ∃ d, p = .forOf d
  · obtain ⟨d, rfl⟩ := hforOf
    have hexclude : (a.simpleForOf? i).isSome = true → (a.identifierForOf? i).isSome = true → False := by
      intro hsimple hidentifier
      obtain ⟨f, hf⟩ := Option.isSome_iff_exists.mp hidentifier
      rw [simpleForOf?_eq_none_of_identifierForOf? hf] at hsimple
      cases hsimple
    rcases List.mem_pair.mp hsp with rfl | rfl
    · rcases List.mem_pair.mp htp with rfl | rfl
      · rfl
      · exact absurd ht (hexclude hs)
    · rcases List.mem_pair.mp htp with rfl | rfl
      · exact absurd hs (hexclude ht)
      · rfl
  · have hbinary' : ∀ d, p ≠ .binary d := by
      rintro d rfl
      exact hbinary d hp
    exact Payload.eq_of_mem_shapes hbinary' (fun d hd => hforOf ⟨d, hd⟩) hsp htp

end Arena

/-! ## Binary expressions -/

/-- The shapes for an operator stand in order among all shapes. -/
theorem Token.filter_mem_shapes (t : Token) : Shape.all.filter (· ∈ t.shapes) = t.shapes := by
  unfold shapes
  by_cases h : t = .equals
  · subst h
    decide
  · rw [if_neg h]
    cases t.isCompoundAssignment with
    | false =>
        match t.coercion? with
        | none | some .numeric | some .integer => rfl
    | true =>
        match t.coercion? with
        | none | some .numeric | some .integer => rfl

/-- An operator has two shapes when it assigns what it converts, and never more. -/
theorem Token.length_shapes (t : Token) :
    t.shapes.length ≤ 2 ∧
      (t.shapes.length = 2 ↔ t.isCompoundAssignment = true ∧ t.coercion?.isSome = true) := by
  unfold shapes
  by_cases h : t = .equals
  · subst h
    decide
  · rw [if_neg h]
    cases t.isCompoundAssignment with
    | false => cases t.coercion? <;> simp
    | true => cases t.coercion? <;> simp

/-- A compound assignment that converts its operands leaves two. -/
theorem Token.shapes_of_coercion? {t : Token} {c : Coercion} (ht : t.isCompoundAssignment = true)
    (hc : t.coercion? = some c) : t.shapes = [.compoundAssignmentExpression, c.shape] := by
  have hne : t ≠ .equals := by
    rintro rfl
    cases ht
  unfold shapes
  rw [if_neg hne, if_pos ht, hc]
  rfl

namespace Arena

variable {a : Arena} {i : NodeIndex}

/-- A binary expression has every shape that its operator leaves open. -/
theorem holds_iff_mem_shapes {d : Payload.Binary} (h : a.payload? i = some (.binary d)) {s : Shape} :
    s.holds a i = true ↔ s ∈ d.operator.shapes := by
  constructor
  · intro hs
    obtain ⟨p, hp, hmem⟩ := Shape.mem_shapes_of_holds hs
    obtain rfl := Option.some.inj (h.symm.trans hp)
    exact hmem
  · intro hs
    unfold Token.shapes at hs
    rw [List.mem_append, List.mem_append] at hs
    rcases hs with (hequals | hcompound) | hcoercion
    · obtain ⟨hop, rfl⟩ : d.operator = .equals ∧ s = .equalsExpression := by simpa using hequals
      exact beq_iff_eq.mpr (binaryOperator?_eq_some_iff.mpr ⟨d, h, hop⟩)
    · obtain ⟨hop, rfl⟩ : d.operator.isCompoundAssignment = true ∧ s = .compoundAssignmentExpression := by
        simpa using hcompound
      exact isCompoundAssignment_iff.mpr ⟨d, h, hop⟩
    · obtain ⟨c, hc, rfl⟩ : ∃ c, d.operator.coercion? = some c ∧ c.shape = s := by simpa using hcoercion
      have hcoercion := coercion?_eq_some_iff.mpr ⟨d, h, hc⟩
      cases c with
      | numeric => exact beq_iff_eq.mpr hcoercion
      | integer => exact beq_iff_eq.mpr hcoercion

/-- **The shapes of a binary expression are those of its operator.** -/
theorem classify_binary {d : Payload.Binary} (h : a.payload? i = some (.binary d)) :
    a.classify i = d.operator.shapes := by
  rw [← Token.filter_mem_shapes]
  refine List.filter_congr ?_
  intro s _
  rw [Bool.eq_iff_iff, holds_iff_mem_shapes h, decide_eq_true_iff]

/-! ## All nodes -/

/-- No node has a shape twice. -/
theorem nodup_classify (a : Arena) (i : NodeIndex) : (a.classify i).Nodup := by
  have hall : Shape.all.Nodup := by decide
  exact hall.filter _

/-- Only a binary expression can have two shapes. -/
theorem length_classify_le_one (hbinary : ∀ d, a.payload? i ≠ some (.binary d)) :
    (a.classify i).length ≤ 1 := by
  have hnodup := nodup_classify a i
  rcases hshapes : a.classify i with _ | ⟨s, _ | ⟨t, rest⟩⟩
  · exact Nat.zero_le 1
  · exact Nat.le_refl 1
  · have hs : s ∈ a.classify i := by simp [hshapes]
    have ht : t ∈ a.classify i := by simp [hshapes]
    obtain rfl := eq_of_holds hbinary (mem_classify.mp hs) (mem_classify.mp ht)
    rw [hshapes] at hnodup
    exact absurd List.mem_cons_self (List.nodup_cons.mp hnodup).1

/-- There are two shapes at most, and two for an operator that assigns what it converts. -/
theorem length_classify (a : Arena) (i : NodeIndex) :
    (a.classify i).length ≤ 2 ∧ ((a.classify i).length = 2 ↔
      ∃ d c, a.payload? i = some (.binary d) ∧ d.operator.isCompoundAssignment = true ∧
        d.operator.coercion? = some c) := by
  by_cases hbinary : ∃ d, a.payload? i = some (.binary d)
  · obtain ⟨d, hd⟩ := hbinary
    obtain ⟨hle, htwo⟩ := d.operator.length_shapes
    rw [classify_binary hd, htwo]
    refine ⟨hle, ?_⟩
    constructor
    · rintro ⟨hcompound, hcoercion⟩
      obtain ⟨c, hc⟩ := Option.isSome_iff_exists.mp hcoercion
      exact ⟨d, c, hd, hcompound, hc⟩
    · rintro ⟨d', c, hd', hcompound, hc⟩
      obtain ⟨⟩ := hd.symm.trans hd'
      exact ⟨hcompound, Option.isSome_iff_exists.mpr ⟨c, hc⟩⟩
  · have hle := length_classify_le_one fun d hd => hbinary ⟨d, hd⟩
    refine ⟨by omega, ?_⟩
    constructor
    · intro htwo
      omega
    · rintro ⟨d, c, hd, -⟩
      exact absurd ⟨d, hd⟩ hbinary

/-- A position without a node has no shape. -/
theorem classify_eq_nil (h : a.get? i = none) : a.classify i = [] := by
  rw [List.eq_nil_iff_forall_not_mem]
  intro s hs
  have hsome := Shape.isSome_get?_of_holds (mem_classify.mp hs)
  rw [h] at hsome
  cases hsome

/-- **Shapes exclude each other.** Whatever the links of an arena are, the shapes of a node stand in order,
    without repeats, and there are at most two. There are two exactly for a binary expression whose operator
    is a compound assignment that converts its operands, and they are the one for the assignment and the one
    for the conversion. Where no node stands there is none. -/
theorem classify_exclusive (a : Arena) (i : NodeIndex) :
    (a.classify i).Sublist Shape.all ∧ (a.classify i).Nodup ∧ (a.classify i).length ≤ 2 ∧
      ((a.classify i).length = 2 ↔
        ∃ d c, a.payload? i = some (.binary d) ∧ d.operator.isCompoundAssignment = true ∧
          d.operator.coercion? = some c) ∧
      (∀ d c, a.payload? i = some (.binary d) → d.operator.isCompoundAssignment = true →
        d.operator.coercion? = some c → a.classify i = [.compoundAssignmentExpression, c.shape]) ∧
      (i = .absent ∨ a.size ≤ i.toNat → a.classify i = []) := by
  obtain ⟨hle, htwo⟩ := length_classify a i
  refine ⟨List.filter_sublist, nodup_classify a i, hle, htwo, ?_, ?_⟩
  · intro d c hd hcompound hc
    rw [classify_binary hd, Token.shapes_of_coercion? hcompound hc]
  · intro h
    apply classify_eq_nil
    rw [Option.eq_none_iff_forall_ne_some]
    intro n hn
    have hsome : (a.get? i).isSome = true := by simp [hn]
    obtain ⟨hpresent, hlt⟩ := isSome_get?_iff.mp hsome
    rcases h with rfl | hge
    · exact hpresent rfl
    · omega

/-- `-=` with operands that are not in the arena. -/
def danglingMinusEquals : Arena :=
  ⟨#[{ pos := 0, stop := 6, payload := .binary ⟨.ofNat 7, .minusEquals, .absent⟩ }]⟩

/-- It has both shapes all the same, and what its operands name has none. -/
theorem classify_exclusive_danglingMinusEquals :
    danglingMinusEquals.classify (.ofNat 0) = [.compoundAssignmentExpression, .numericCoercingOperator] ∧
      danglingMinusEquals.classify (.ofNat 7) = [] ∧ danglingMinusEquals.classify .absent = [] := by
  have hminus := (classify_exclusive danglingMinusEquals (.ofNat 0)).2.2.2.2.1
  have hoperand := (classify_exclusive danglingMinusEquals (.ofNat 7)).2.2.2.2.2
  have habsent := (classify_exclusive danglingMinusEquals .absent).2.2.2.2.2
  exact ⟨hminus _ .numeric rfl (by decide) rfl, hoperand (Or.inr (by decide)), habsent (Or.inl rfl)⟩

end Arena

end SyntaxShapes
