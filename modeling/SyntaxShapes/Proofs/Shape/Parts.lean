import SyntaxShapes.Shape.Classify

/-!
# `SyntaxShapes.Proofs.Shape.Parts` — which nodes a shape is made of

Seven shapes look beyond the node itself: five at nodes below it, of which one looks at the parent too,
and the two kinds of field access at what their parent calls. Here each of them is spelled out as the
payloads that have to stand at those positions. Nothing that follows from a shape then needs the way in
which the test for it is computed.

The other eight shapes are decided by the payload of the node alone.

## Contents
- **One node.** `payload?_congr`, `parentOf_congr`; `isSome_get?_of_payload?`; `mem_childrenOf_of_childSlot`.
- **Calls.** `methodCall?_eq_some_iff`, `functionArg?_eq_some_iff`.
- **`delete` and loops.** `deletion?_eq_some_iff`, `simpleForOf?_eq_some_iff`, `identifierForOf?_eq_some_iff`.
- **Accesses.** `kindAt?`; `Calls`, a call and what it calls; `isCalleeOfParent_iff`,
  `isFieldPropertyAccess_iff`, `isFieldElementAccess_iff`; `holds_field_congr`.
- **Payload alone.** `Shape.IsOwn`; `holds_congr_payload?`.
-/

namespace SyntaxShapes

namespace Arena

variable {a b : Arena} {i : NodeIndex}

/-! ## One node -/

theorem payload?_congr (h : a.get? i = b.get? i) : a.payload? i = b.payload? i := by
  unfold payload?
  rw [h]

theorem parentOf_congr (h : a.get? i = b.get? i) : a.parentOf i = b.parentOf i := by
  unfold parentOf
  rw [h]

theorem parentOf_eq_of_get? {n : Node} (h : a.get? i = some n) : a.parentOf i = n.parent := by
  unfold parentOf
  rw [h]
  rfl

theorem isSome_get?_of_payload? {payload : Payload} (h : a.payload? i = some payload) :
    (a.get? i).isSome = true := by
  obtain ⟨n, hn, -⟩ := payload?_eq_some_iff.mp h
  rw [hn]
  rfl

theorem ne_absent_of_payload? {payload : Payload} (h : a.payload? i = some payload) : i ≠ .absent :=
  (isSome_get?_iff.mp (isSome_get?_of_payload? h)).1

theorem childrenOf_eq_of_payload? {payload : Payload} (h : a.payload? i = some payload) :
    a.childrenOf i = payload.children := by
  obtain ⟨n, hn, rfl⟩ := payload?_eq_some_iff.mp h
  unfold childrenOf
  rw [hn]
  rfl

/-- What stands in a place for a child, and is not absent, is a child. -/
theorem mem_childrenOf_of_childSlot {payload : Payload} {c : NodeIndex} (h : a.payload? i = some payload)
    (hc : c ∈ payload.childSlots) (hne : c ≠ .absent) : c ∈ a.childrenOf i := by
  rw [childrenOf_eq_of_payload? h]
  exact Payload.mem_children.mpr ⟨hc, hne⟩

/-! ## Calls -/

/-- A method call is a call of a property access. -/
theorem methodCall?_eq_some_iff {m : MethodCall} :
    a.methodCall? i = some m ↔
      ∃ call access, a.payload? i = some (.call call) ∧
        a.payload? call.callee = some (.propertyAccess access) ∧ ⟨i, call, call.callee, access⟩ = m := by
  unfold methodCall?
  constructor
  · intro h
    obtain ⟨p, hp, h⟩ := Option.bind_eq_some_iff.mp h
    split at h
    · obtain ⟨q, hq, h⟩ := Option.bind_eq_some_iff.mp h
      split at h
      · exact ⟨_, _, hp, hq, Option.some.inj h⟩
      · cases h
    · cases h
  · rintro ⟨call, access, hcall, haccess, rfl⟩
    simp [hcall, haccess]

/-- The absent position stands for a missing first node; any other is the first node itself. -/
theorem first_eq_iff {l : NodeList} (hi : i ≠ .absent) : l.first = i ↔ l.nodes.head? = some i := by
  unfold NodeList.first
  cases l.nodes with
  | nil => exact iff_of_false hi.symm nofun
  | cons c cs => exact Option.some_inj.symm

/-- A function that is an argument is the first one of a method call around it. -/
theorem functionArg?_eq_some_iff {f : FunctionArg} :
    a.functionArg? i = some f ↔
      ∃ function m, a.payload? i = some (.functionExpression function) ∧
        a.methodCall? (a.parentOf i) = some m ∧ m.call.arguments.first = i ∧ ⟨i, function, m⟩ = f := by
  unfold functionArg?
  constructor
  · intro h
    obtain ⟨n, hn, h⟩ := Option.bind_eq_some_iff.mp h
    split at h
    · rename_i function hfunction
      obtain ⟨p, hp, h⟩ := Option.bind_eq_some_iff.mp h
      split at h
      · split at h
        · rename_i call hfirst
          obtain ⟨m, hm, h⟩ := Option.bind_eq_some_iff.mp h
          refine ⟨function, m, payload?_eq_some_iff.mpr ⟨n, hn, hfunction⟩, ?_, ?_, Option.some.inj h⟩
          · rw [parentOf_eq_of_get? hn, hm]
          · -- the call that was looked at is the one of the method call
            obtain ⟨call', access, hcall', -, rfl⟩ := methodCall?_eq_some_iff.mp hm
            obtain ⟨⟩ := hp.symm.trans hcall'
            exact hfirst
        · cases h
      · cases h
    · cases h
  · rintro ⟨function, m, hfunction, hm, hfirst, rfl⟩
    obtain ⟨n, hn, hpayload⟩ := payload?_eq_some_iff.mp hfunction
    rw [parentOf_eq_of_get? hn] at hm
    obtain ⟨call, access, hcall, haccess, rfl⟩ := methodCall?_eq_some_iff.mp hm
    simp [hn, hpayload, hm, hcall, hfirst]

/-! ## `delete` and loops -/

theorem deletion?_eq_some_iff {d : Deletion} :
    a.deletion? i = some d ↔
      ∃ operand access, a.payload? i = some (.delete operand) ∧
        ((a.payload? operand.expression = some (.propertyAccess access) ∧
            ⟨i, operand.expression, access, .property⟩ = d) ∨
          (a.payload? operand.expression = some (.elementAccess access) ∧
            ⟨i, operand.expression, access, .element⟩ = d)) := by
  unfold deletion?
  constructor
  · intro h
    obtain ⟨p, hp, h⟩ := Option.bind_eq_some_iff.mp h
    split at h
    · obtain ⟨q, hq, h⟩ := Option.bind_eq_some_iff.mp h
      split at h
      · exact ⟨_, _, hp, Or.inl ⟨hq, Option.some.inj h⟩⟩
      · exact ⟨_, _, hp, Or.inr ⟨hq, Option.some.inj h⟩⟩
      · cases h
    · cases h
  · rintro ⟨operand, access, hdelete, ⟨haccess, rfl⟩ | ⟨haccess, rfl⟩⟩
    · simp [hdelete, haccess]
    · simp [hdelete, haccess]

theorem declarationList?_eq_some_iff {p : Payload} {d : Payload.DeclarationList} :
    p.declarationList? = some d ↔ p = .declarationList d := by
  cases p <;> simp [Payload.declarationList?]

theorem declaration?_eq_some_iff {p : Payload} {d : Payload.Declaration} :
    p.declaration? = some d ↔ p = .declaration d := by
  cases p <;> simp [Payload.declaration?]

/-- A loop that declares its name has one declaration in its list, of a name. -/
theorem simpleForOf?_eq_some_iff {f : SimpleForOf} :
    a.simpleForOf? i = some f ↔
      ∃ forOf listNode list declaration decl name, a.payload? i = some (.forOf forOf) ∧
        a.get? forOf.initializer = some listNode ∧ listNode.payload = .declarationList list ∧
        list.declarations.nodes = [declaration] ∧ a.payload? declaration = some (.declaration decl) ∧
        a.payload? decl.name = some (.identifier name) ∧
        ⟨i, forOf, forOf.initializer, declaration, listNode.flags⟩ = f := by
  unfold simpleForOf?
  constructor
  · intro h
    obtain ⟨p, hp, h⟩ := Option.bind_eq_some_iff.mp h
    split at h
    · obtain ⟨listNode, hlistNode, h⟩ := Option.bind_eq_some_iff.mp h
      obtain ⟨list, hlist, h⟩ := Option.bind_eq_some_iff.mp h
      split at h
      · rename_i declaration hnodes
        obtain ⟨q, hq, h⟩ := Option.bind_eq_some_iff.mp h
        obtain ⟨decl, hdecl, h⟩ := Option.bind_eq_some_iff.mp h
        obtain ⟨r, hr, h⟩ := Option.bind_eq_some_iff.mp h
        rw [declarationList?_eq_some_iff] at hlist
        rw [declaration?_eq_some_iff.mp hdecl] at hq
        split at h
        · exact ⟨_, listNode, list, declaration, decl, _, hp, hlistNode, hlist, hnodes, hq, hr,
            Option.some.inj h⟩
        · cases h
      · cases h
    · cases h
  · rintro ⟨forOf, listNode, list, declaration, decl, name, hforOf, hlistNode, hlist, hnodes, hdecl, hname,
      rfl⟩
    simp [hforOf, hlistNode, hlist, hnodes, hdecl, hname, Payload.declarationList?, Payload.declaration?]

theorem identifierForOf?_eq_some_iff {f : IdentifierForOf} :
    a.identifierForOf? i = some f ↔
      ∃ forOf identifier, a.payload? i = some (.forOf forOf) ∧
        a.payload? forOf.initializer = some (.identifier identifier) ∧
        ⟨i, forOf, forOf.initializer, identifier.text⟩ = f := by
  unfold identifierForOf?
  constructor
  · intro h
    obtain ⟨p, hp, h⟩ := Option.bind_eq_some_iff.mp h
    split at h
    · obtain ⟨q, hq, h⟩ := Option.bind_eq_some_iff.mp h
      split at h
      · exact ⟨_, _, hp, hq, Option.some.inj h⟩
      · cases h
    · cases h
  · rintro ⟨forOf, identifier, hforOf, hidentifier, rfl⟩
    simp [hforOf, hidentifier]

/-! ## Accesses -/

/-- The kind of the node at a position, if there is one. -/
def kindAt? (a : Arena) (i : NodeIndex) : Option Kind :=
  (a.payload? i).map (·.kind)

theorem kindAt?_of_payload? {payload : Payload} (h : a.payload? i = some payload) :
    a.kindAt? i = some payload.kind := by
  rw [kindAt?, h, Option.map_some]

theorem kindAt?_congr (h : a.payload? i = b.payload? i) : a.kindAt? i = b.kindAt? i := by
  unfold kindAt?
  rw [h]

/-- Whether a node is a call, and what it calls stands at a given position. -/
def Calls (a : Arena) (p i : NodeIndex) : Prop :=
  ∃ call, a.payload? p = some (.call call) ∧ call.callee = i

theorem isCalleeOfParent_iff : a.isCalleeOfParent i = true ↔ a.Calls (a.parentOf i) i := by
  unfold isCalleeOfParent Calls
  split
  · rename_i call hcall
    simp [hcall]
  · rename_i hne
    simp only [Bool.false_eq_true, false_iff]
    rintro ⟨call, hcall, -⟩
    exact hne call hcall

/-- A field access is a property access that its parent does not call. -/
theorem isFieldPropertyAccess_iff :
    a.isFieldPropertyAccess i = true ↔
      a.kindAt? i = some .propertyAccess ∧ ¬a.Calls (a.parentOf i) i := by
  unfold isFieldPropertyAccess kindAt?
  rw [← isCalleeOfParent_iff]
  cases a.payload? i with
  | none => simp
  | some p => cases p <;> simp [Payload.kind]

theorem isFieldElementAccess_iff :
    a.isFieldElementAccess i = true ↔
      a.kindAt? i = some .elementAccess ∧ ¬a.Calls (a.parentOf i) i := by
  unfold isFieldElementAccess kindAt?
  rw [← isCalleeOfParent_iff]
  cases a.payload? i with
  | none => simp
  | some p => cases p <;> simp [Payload.kind]

/-- A field access depends on the kind of the node and on whether its parent calls it. -/
theorem holds_field_congr {s : Shape} (hs : s = .fieldElementAccess ∨ s = .fieldPropertyAccess)
    (hkind : a.kindAt? i = b.kindAt? i) (hcalls : a.Calls (a.parentOf i) i ↔ b.Calls (b.parentOf i) i) :
    s.holds a i = s.holds b i := by
  obtain rfl | rfl := hs
  · rw [Shape.holds, Shape.holds, Bool.eq_iff_iff, isFieldElementAccess_iff, isFieldElementAccess_iff, hkind, hcalls]
  · rw [Shape.holds, Shape.holds, Bool.eq_iff_iff, isFieldPropertyAccess_iff, isFieldPropertyAccess_iff, hkind,
      hcalls]

end Arena

/-! ## Payload alone -/

/-- The shapes that are decided by the payload of the node alone. -/
def Shape.IsOwn : Shape → Prop
  | .equalsExpression | .compoundAssignmentExpression | .literal | .unaryExpression | .thisKeyword
  | .nullOrUndefinedOrNaN | .numericCoercingOperator | .integerCoercingOperator => True
  | .methodCall | .functionArgInMethodCall | .fieldElementAccess | .fieldPropertyAccess
  | .deleteExpression | .forOfWithSimpleInitializer | .forOfWithIdentifierInitializer => False

/-- Nodes with the same payload have the same shapes of that sort, wherever they are. -/
theorem Shape.holds_congr_payload? {a b : Arena} {i j : NodeIndex} {s : Shape} (hs : s.IsOwn)
    (h : a.payload? i = b.payload? j) : s.holds a i = s.holds b j := by
  cases s with
  | equalsExpression | compoundAssignmentExpression | numericCoercingOperator | integerCoercingOperator =>
      simp only [holds, Arena.isEqualsExpression, Arena.isCompoundAssignment, Arena.coercion?,
        Arena.binaryOperator?, h]
  | literal | thisKeyword | nullOrUndefinedOrNaN =>
      simp only [holds, Arena.isLiteral, Arena.isThis, Arena.isNullish, Arena.keywordAt?, h]
  | unaryExpression => simp only [holds, Arena.isUnary, h]
  | methodCall | functionArgInMethodCall | fieldElementAccess | fieldPropertyAccess | deleteExpression
  | forOfWithSimpleInitializer | forOfWithIdentifierInitializer => exact absurd hs id

end SyntaxShapes
