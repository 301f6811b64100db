import SyntaxShapes.Proofs.Arena.Renumbering
import SyntaxShapes.Proofs.Shape.Parts

/-!
# `SyntaxShapes.Proofs.Shape.Renumbering` — shapes do not depend on the order of the nodes

Every test for a shape uses positions in two ways only: it looks them up, and it compares them with each
other. Both commute with a renaming, so a renamed node has the same shapes, and their parts are the same
nodes under their new positions.

The absent position takes part in this too: the first argument of a call without arguments is absent, and
stays so.

## Contents
- **Parts.** `MethodCall.rename` and its like; `Renamed.bind_get?` and `Renamed.bind_payload?`, one step of a
  chain of look-ups; with them `Renamed.methodCall?`, `Renamed.functionArg?`, `Renamed.deletion?`,
  `Renamed.simpleForOf?`, `Renamed.identifierForOf?`.
- **Tests.** `Renamed.kindAt?`, `Renamed.calls_iff`, `Renamed.binaryOperator?`, `Renamed.keywordAt?`; with
  them `Renamed.holds`, for every shape, and `Renamed.classify`.
-/

namespace SyntaxShapes

/-! ## Parts -/

/-- The parts of a method call under other positions. -/
def MethodCall.rename (ρ : NodeIndex → NodeIndex) (m : MethodCall) : MethodCall where
  index := ρ m.index
  call := Record.rename ρ m.call
  callee := ρ m.callee
  access := Record.rename ρ m.access

/-- The parts of a function that is an argument under other positions. -/
def FunctionArg.rename (ρ : NodeIndex → NodeIndex) (f : FunctionArg) : FunctionArg where
  index := ρ f.index
  function := Record.rename ρ f.function
  methodCall := f.methodCall.rename ρ

/-- The parts of a `delete` under other positions. -/
def Deletion.rename (ρ : NodeIndex → NodeIndex) (d : Deletion) : Deletion where
  index := ρ d.index
  operand := ρ d.operand
  access := Record.rename ρ d.access
  target := d.target

/-- The parts of a loop with a declaration under other positions. -/
def SimpleForOf.rename (ρ : NodeIndex → NodeIndex) (f : SimpleForOf) : SimpleForOf where
  index := ρ f.index
  forOf := Record.rename ρ f.forOf
  declarationList := ρ f.declarationList
  declaration := ρ f.declaration
  listFlags := f.listFlags

/-- The parts of a loop with a bare name under other positions. -/
def IdentifierForOf.rename (ρ : NodeIndex → NodeIndex) (f : IdentifierForOf) : IdentifierForOf where
  index := ρ f.index
  forOf := Record.rename ρ f.forOf
  identifier := ρ f.identifier
  name := f.name

namespace Arena.Renamed

variable {ρ : NodeIndex → NodeIndex} {a b : Arena}

/-- What goes on from a node goes on from the renamed one in the same way, if it does so for every node. -/
theorem bind_get? (h : Renamed ρ a b) {α : Type} (rename : α → α) {step step' : Node → Option α}
    (hstep : ∀ n, step' (n.rename ρ) = (step n).map rename) (i : NodeIndex) :
    (b.get? (ρ i) >>= step') = (a.get? i >>= step).map rename := by
  rw [h.get?]
  cases a.get? i with
  | none => rfl
  | some n => exact hstep n

theorem bind_payload? (h : Renamed ρ a b) {α : Type} (rename : α → α) {step step' : Payload → Option α}
    (hstep : ∀ p, step' (p.rename ρ) = (step p).map rename) (i : NodeIndex) :
    (b.payload? (ρ i) >>= step') = (a.payload? i >>= step).map rename := by
  rw [h.payload?]
  cases a.payload? i with
  | none => rfl
  | some p => exact hstep p

/-- The parts of a method call move with it. -/
theorem methodCall? (h : Renamed ρ a b) (i : NodeIndex) :
    b.methodCall? (ρ i) = (a.methodCall? i).map (MethodCall.rename ρ) := by
  refine h.bind_payload? _ ?_ i
  intro p
  cases p with
  | call call =>
      refine h.bind_payload? _ ?_ call.callee
      intro q
      cases q <;> rfl
  | _ => rfl

theorem functionArg? (h : Renamed ρ a b) (i : NodeIndex) :
    b.functionArg? (ρ i) = (a.functionArg? i).map (FunctionArg.rename ρ) := by
  refine h.bind_get? _ ?_ i
  rintro ⟨flags, pos, stop, parent, payload⟩
  cases payload with
  | functionExpression function =>
      refine h.bind_payload? _ ?_ parent
      intro p
      cases p with
      | call call =>
          -- being the first argument is a comparison, and positions correspond one to one
          have hfirst : (call.arguments.rename ρ).first = ρ i ↔ call.arguments.first = i := by
            rw [NodeList.first_rename h.absent, h.bijective.injective.eq_iff]
          show (if (call.arguments.rename ρ).first = ρ i then b.methodCall? (ρ parent) >>= _ else none) =
            Option.map _ (if call.arguments.first = i then a.methodCall? parent >>= _ else none)
          by_cases hi : call.arguments.first = i
          · rw [if_pos (hfirst.mpr hi), if_pos hi, h.methodCall?]
            cases a.methodCall? parent <;> rfl
          · rw [if_neg (mt hfirst.mp hi), if_neg hi]
            rfl
      | _ => rfl
  | _ => rfl

theorem deletion? (h : Renamed ρ a b) (i : NodeIndex) :
    b.deletion? (ρ i) = (a.deletion? i).map (Deletion.rename ρ) := by
  refine h.bind_payload? _ ?_ i
  intro p
  cases p with
  | delete operand =>
      refine h.bind_payload? _ ?_ operand.expression
      intro q
      cases q <;> rfl
  | _ => rfl

theorem simpleForOf? (h : Renamed ρ a b) (i : NodeIndex) :
    b.simpleForOf? (ρ i) = (a.simpleForOf? i).map (SimpleForOf.rename ρ) := by
  refine h.bind_payload? _ ?_ i
  intro p
  cases p with
  | forOf forOf =>
      refine h.bind_get? _ ?_ forOf.initializer
      rintro ⟨flags, pos, stop, parent, payload⟩
      cases payload with
      | declarationList list =>
          obtain ⟨⟨nodes, listPos, listStop⟩⟩ := list
          match nodes with
          | [] => rfl
          | _ :: _ :: _ => rfl
          | [declaration] =>
              refine h.bind_payload? _ ?_ declaration
              intro q
              cases q with
              | declaration decl =>
                  refine h.bind_payload? _ ?_ decl.name
                  intro r
                  cases r <;> rfl
              | _ => rfl
      | _ => rfl
  | _ => rfl

theorem identifierForOf? (h : Renamed ρ a b) (i : NodeIndex) :
    b.identifierForOf? (ρ i) = (a.identifierForOf? i).map (IdentifierForOf.rename ρ) := by
  refine h.bind_payload? _ ?_ i
  intro p
  cases p with
  | forOf forOf =>
      refine h.bind_payload? _ ?_ forOf.initializer
      intro q
      cases q <;> rfl
  | _ => rfl

/-! ## Tests -/

/-- Kinds do not depend on positions. -/
theorem kindAt? (h : Renamed ρ a b) (i : NodeIndex) : b.kindAt? (ρ i) = a.kindAt? i := by
  unfold Arena.kindAt?
  rw [h.payload?, Option.map_map]
  congr 1
  funext p
  exact p.kind_rename ρ

/-- Who calls whom does not depend on where they stand. -/
theorem calls_iff (h : Renamed ρ a b) {p i : NodeIndex} : b.Calls (ρ p) (ρ i) ↔ a.Calls p i := by
  unfold Calls
  rw [h.payload?]
  cases a.payload? p with
  | none => simp
  | some q =>
      cases q with
      | call call =>
          constructor
          · rintro ⟨_, ⟨⟩, hcallee⟩
            exact ⟨call, rfl, h.bijective.injective hcallee⟩
          · rintro ⟨_, ⟨⟩, rfl⟩
            exact ⟨_, rfl, rfl⟩
      | _ => exact ⟨nofun, nofun⟩

theorem binaryOperator? (h : Renamed ρ a b) (i : NodeIndex) :
    b.binaryOperator? (ρ i) = a.binaryOperator? i := by
  unfold Arena.binaryOperator?
  rw [h.payload?]
  cases a.payload? i with
  | none => rfl
  | some p => cases p <;> rfl

theorem keywordAt? (h : Renamed ρ a b) (i : NodeIndex) : b.keywordAt? (ρ i) = a.keywordAt? i := by
  unfold Arena.keywordAt?
  rw [h.payload?]
  cases a.payload? i with
  | none => rfl
  | some p => cases p <;> rfl

/-- **A node has the same shapes under its new position.** -/
theorem holds (h : Renamed ρ a b) (s : Shape) (i : NodeIndex) : s.holds b (ρ i) = s.holds a i := by
  cases s with
  | equalsExpression | compoundAssignmentExpression | numericCoercingOperator | integerCoercingOperator =>
      simp only [Shape.holds, isEqualsExpression, isCompoundAssignment, coercion?, h.binaryOperator?]
  | thisKeyword | nullOrUndefinedOrNaN => simp only [Shape.holds, isThis, isNullish, h.keywordAt?]
  | literal =>
      simp only [Shape.holds, isLiteral, h.keywordAt?, h.payload?]
      cases a.payload? i with
      | none => rfl
      | some p => cases p <;> rfl
  | unaryExpression =>
      simp only [Shape.holds, isUnary, h.payload?]
      cases a.payload? i with
      | none => rfl
      | some p => cases p <;> rfl
  | fieldElementAccess =>
      show b.isFieldElementAccess (ρ i) = a.isFieldElementAccess i
      rw [Bool.eq_iff_iff, isFieldElementAccess_iff, isFieldElementAccess_iff, h.kindAt?, h.parentOf,
        h.calls_iff]
  | fieldPropertyAccess =>
      show b.isFieldPropertyAccess (ρ i) = a.isFieldPropertyAccess i
      rw [Bool.eq_iff_iff, isFieldPropertyAccess_iff, isFieldPropertyAccess_iff, h.kindAt?, h.parentOf,
        h.calls_iff]
  | methodCall => simp only [Shape.holds, h.methodCall?, Option.isSome_map]
  | functionArgInMethodCall => simp only [Shape.holds, h.functionArg?, Option.isSome_map]
  | deleteExpression => simp only [Shape.holds, h.deletion?, Option.isSome_map]
  | forOfWithSimpleInitializer => simp only [Shape.holds, h.simpleForOf?, Option.isSome_map]
  | forOfWithIdentifierInitializer => simp only [Shape.holds, h.identifierForOf?, Option.isSome_map]

/-- Nor do the shapes of a node. -/
theorem classify (h : Renamed ρ a b) (i : NodeIndex) : b.classify (ρ i) = a.classify i := by
  unfold Arena.classify
  refine List.filter_congr ?_
  intro s _
  exact h.holds s i

end Arena.Renamed

end SyntaxShapes
