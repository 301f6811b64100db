import SyntaxShapes.Proofs.Shape.Parts

/-!
# `SyntaxShapes.Proofs.Shape.Coherence` — parts are parts of the tree

The parts of a shape are copied from up to four nodes into one structure. To mix up two levels there, the
callee with the receiver or the flags of a loop with those of its list, would not change which nodes have the
shape. So for each of the five structures it is written down what the arena has to say about every field of it:
that a node stands there, that the data is the data of that node, and where the positions occur among the
children that the tree itself records. `parts_coherent` says that a node is given some parts exactly when the
arena says all that about them.

## Contents
- **Children.** `Arena.childrenOf_eq_cons`.
- **Calls.** `MethodCall.Describes`, `FunctionArg.Describes`.
- **`delete` and loops.** `Deletion.Describes`, `SimpleForOf.Describes`, `IdentifierForOf.Describes`.
- **All five.** `Arena.parts_coherent`.
-/

namespace SyntaxShapes

variable {a : Arena} {i j : NodeIndex}

/-! ## Children -/

namespace Arena

/-- A first place that has a node is the first child. -/
theorem childrenOf_eq_cons {p q : Payload} {slots : List NodeIndex} (hp : a.payload? i = some p)
    (hslots : p.childSlots = j :: slots) (hq : a.payload? j = some q) :
    a.childrenOf i = j :: slots.filter (!·.isAbsent) := by
  have hj : (!j.isAbsent) = true := by
    simpa [NodeIndex.isAbsent] using ne_absent_of_payload? hq
  rw [childrenOf_eq_of_payload? hp, Payload.children, hslots, List.filter_cons, if_pos hj]

end Arena

/-! ## Calls -/

/-- Whether some parts are what an arena says about a call of a property access. -/
structure MethodCall.Describes (m : MethodCall) (a : Arena) (i : NodeIndex) : Prop where
  /-- The call is the node that was asked about. -/
  index : m.index = i
  /-- A node stands at every position. -/
  resolves : ∀ j ∈ [m.index, m.callee], (a.get? j).isSome
  /-- The node has the data of the call. -/
  call : a.payload? i = some (.call m.call)
  /-- What is called stands where that data says. -/
  callee : m.callee = m.call.callee
  /-- What is called has the data of the access. -/
  access : a.payload? m.callee = some (.propertyAccess m.access)
  /-- The children of what is called are the receiver and the name, as far as there are any. -/
  children_callee : a.childrenOf m.callee = [m.receiver, m.name].filter (!·.isAbsent)
  /-- The children of the call are what is called and the arguments, as far as there are any. -/
  children : a.childrenOf i = m.callee :: m.arguments.filter (!·.isAbsent)

/-- The parts of a method call are found exactly where the tree has them. -/
theorem Arena.methodCall?_eq_some_iff_describes {m : MethodCall} :
    a.methodCall? i = some m ↔ m.Describes a i := by
  rw [methodCall?_eq_some_iff]
  constructor
  · rintro ⟨call, access, hcall, haccess, rfl⟩
    exact
      { index := rfl
        resolves := by
          simpa using ⟨isSome_get?_of_payload? hcall, isSome_get?_of_payload? haccess⟩
        call := hcall
        callee := rfl
        access := haccess
        children_callee := childrenOf_eq_of_payload? haccess
        children := childrenOf_eq_cons hcall rfl haccess }
  · rintro ⟨rfl, -, hcall, hcallee, haccess, -, -⟩
    rw [hcallee] at haccess
    refine ⟨m.call, m.access, hcall, haccess, ?_⟩
    rw [← hcallee]

/-- Whether some parts are what an arena says about a function that is the first argument of a method call. -/
structure FunctionArg.Describes (f : FunctionArg) (a : Arena) (i : NodeIndex) : Prop where
  /-- The function is the node that was asked about. -/
  index : f.index = i
  /-- A node stands there. -/
  resolves : (a.get? f.index).isSome
  /-- The node has the data of the function. -/
  function : a.payload? i = some (.functionExpression f.function)
  /-- The method call is the parent, with its parts. -/
  methodCall : a.methodCall? (a.parentOf i) = some f.methodCall
  /-- So the arena describes it as well. -/
  methodCall_describes : f.methodCall.Describes a (a.parentOf i)
  /-- Its arguments begin with the function. -/
  head?_arguments : f.methodCall.arguments.head? = some i

theorem Arena.functionArg?_eq_some_iff_describes {f : FunctionArg} :
    a.functionArg? i = some f ↔ f.Describes a i := by
  rw [functionArg?_eq_some_iff]
  constructor
  · rintro ⟨function, m, hfunction, hm, hfirst, rfl⟩
    exact
      { index := rfl
        resolves := isSome_get?_of_payload? hfunction
        function := hfunction
        methodCall := hm
        methodCall_describes := methodCall?_eq_some_iff_describes.mp hm
        head?_arguments := (first_eq_iff (ne_absent_of_payload? hfunction)).mp hfirst }
  · rintro ⟨rfl, -, hfunction, hm, -, hhead⟩
    have hfirst := (first_eq_iff (ne_absent_of_payload? hfunction)).mpr hhead
    exact ⟨f.function, f.methodCall, hfunction, hm, hfirst, rfl⟩

/-! ## `delete` and loops -/

/-- Whether some parts are what an arena says about a `delete` of a property or an element. -/
structure Deletion.Describes (d : Deletion) (a : Arena) (i : NodeIndex) : Prop where
  /-- The `delete` is the node that was asked about. -/
  index : d.index = i
  /-- A node stands at every position. -/
  resolves : ∀ j ∈ [d.index, d.operand], (a.get? j).isSome
  /-- The node is a `delete` of the operand. -/
  delete : a.payload? i = some (.delete ⟨d.operand⟩)
  /-- The operand is its only child. -/
  children : a.childrenOf i = [d.operand]
  /-- The operand has the data of the access. -/
  access : a.payload? d.operand = some (.propertyAccess d.access) ∨
    a.payload? d.operand = some (.elementAccess d.access)
  /-- A property is removed exactly when the operand is an access to one. -/
  target_eq_property_iff : d.target = .property ↔ a.kindAt? d.operand = some .propertyAccess
  /-- An element is removed exactly when the operand is an access to one. -/
  target_eq_element_iff : d.target = .element ↔ a.kindAt? d.operand = some .elementAccess

theorem Arena.deletion?_eq_some_iff_describes {d : Deletion} :
    a.deletion? i = some d ↔ d.Describes a i := by
  rw [deletion?_eq_some_iff]
  constructor
  · rintro ⟨⟨operand⟩, access, hdelete, hoperand⟩
    obtain ⟨haccess, rfl⟩ | ⟨haccess, rfl⟩ := hoperand
    · have hkind := kindAt?_of_payload? haccess
      exact
        { index := rfl
          resolves := by
            simpa using ⟨isSome_get?_of_payload? hdelete, isSome_get?_of_payload? haccess⟩
          delete := hdelete
          children := childrenOf_eq_cons hdelete rfl haccess
          access := .inl haccess
          target_eq_property_iff := iff_of_true rfl hkind
          target_eq_element_iff := by simp [hkind, Payload.kind] }
    · have hkind := kindAt?_of_payload? haccess
      exact
        { index := rfl
          resolves := by
            simpa using ⟨isSome_get?_of_payload? hdelete, isSome_get?_of_payload? haccess⟩
          delete := hdelete
          children := childrenOf_eq_cons hdelete rfl haccess
          access := .inr haccess
          target_eq_property_iff := by simp [hkind, Payload.kind]
          target_eq_element_iff := iff_of_true rfl hkind }
  · -- the kind of the operand settles the target, and with it which of the two forms the parts have
    rintro ⟨rfl, -, hdelete, -, haccess, hproperty, helement⟩
    refine ⟨⟨d.operand⟩, d.access, hdelete, haccess.imp ?_ ?_⟩
    · intro haccess
      have htarget := hproperty.mpr (kindAt?_of_payload? haccess)
      exact ⟨haccess, by rw [← htarget]⟩
    · intro haccess
      have htarget := helement.mpr (kindAt?_of_payload? haccess)
      exact ⟨haccess, by rw [← htarget]⟩

/-- Whether some parts are what an arena says about a loop whose initializer declares one name. -/
structure SimpleForOf.Describes (f : SimpleForOf) (a : Arena) (i : NodeIndex) : Prop where
  /-- The loop is the node that was asked about. -/
  index : f.index = i
  /-- A node stands at every position. -/
  resolves : ∀ j ∈ [f.index, f.declarationList, f.declaration], (a.get? j).isSome
  /-- The node has the data of the loop. -/
  forOf : a.payload? i = some (.forOf f.forOf)
  /-- The list of declarations is the initializer of the loop. -/
  declarationList : f.declarationList = f.forOf.initializer
  /-- It is the first child of the loop. -/
  head?_children : (a.childrenOf i).head? = some f.declarationList
  /-- The declaration is the only entry of the list, and the flags are those of the list. -/
  list : ∃ listNode list, a.get? f.declarationList = some listNode ∧
    listNode.payload = .declarationList list ∧ list.declarations.nodes = [f.declaration] ∧
    listNode.flags = f.listFlags
  /-- So it is the only child of the list. -/
  children_list : a.childrenOf f.declarationList = [f.declaration]
  /-- The declaration is one of a name. -/
  declaration : ∃ decl name, a.payload? f.declaration = some (.declaration decl) ∧
    a.payload? decl.name = some (.identifier name)

theorem Arena.simpleForOf?_eq_some_iff_describes {f : SimpleForOf} :
    a.simpleForOf? i = some f ↔ f.Describes a i := by
  rw [simpleForOf?_eq_some_iff]
  constructor
  · rintro ⟨forOf, listNode, list, declaration, decl, name, hforOf, hlistNode, hlist, hnodes, hdecl, hname, rfl⟩
    have hpayload : a.payload? forOf.initializer = some (.declarationList list) :=
      payload?_eq_some_iff.mpr ⟨listNode, hlistNode, hlist⟩
    exact
      { index := rfl
        resolves := by
          simpa using ⟨isSome_get?_of_payload? hforOf, isSome_get?_of_payload? hpayload,
            isSome_get?_of_payload? hdecl⟩
        forOf := hforOf
        declarationList := rfl
        head?_children := by rw [childrenOf_eq_cons hforOf rfl hpayload, List.head?_cons]
        list := ⟨listNode, list, hlistNode, hlist, hnodes, rfl⟩
        children_list := childrenOf_eq_cons hpayload hnodes hdecl
        declaration := ⟨decl, name, hdecl, hname⟩ }
  · rintro ⟨rfl, -, hforOf, hinitializer, -, ⟨listNode, list, hlistNode, hlist, hnodes, hflags⟩, -,
      ⟨decl, name, hdecl, hname⟩⟩
    rw [hinitializer] at hlistNode
    refine ⟨f.forOf, listNode, list, f.declaration, decl, name, hforOf, hlistNode, hlist, hnodes, hdecl, hname, ?_⟩
    rw [← hinitializer, hflags]

/-- Whether some parts are what an arena says about a loop whose initializer is a bare name. -/
structure IdentifierForOf.Describes (f : IdentifierForOf) (a : Arena) (i : NodeIndex) : Prop where
  /-- The loop is the node that was asked about. -/
  index : f.index = i
  /-- A node stands at every position. -/
  resolves : ∀ j ∈ [f.index, f.identifier], (a.get? j).isSome
  /-- The node has the data of the loop. -/
  forOf : a.payload? i = some (.forOf f.forOf)
  /-- The name's node is the initializer of the loop. -/
  identifier : f.identifier = f.forOf.initializer
  /-- It is the first child of the loop. -/
  head?_children : (a.childrenOf i).head? = some f.identifier
  /-- It is a name with that text. -/
  name : a.payload? f.identifier = some (.identifier ⟨f.name⟩)

theorem Arena.identifierForOf?_eq_some_iff_describes {f : IdentifierForOf} :
    a.identifierForOf? i = some f ↔ f.Describes a i := by
  rw [identifierForOf?_eq_some_iff]
  constructor
  · rintro ⟨forOf, ⟨name⟩, hforOf, hidentifier, rfl⟩
    exact
      { index := rfl
        resolves := by
          simpa using ⟨isSome_get?_of_payload? hforOf, isSome_get?_of_payload? hidentifier⟩
        forOf := hforOf
        identifier := rfl
        head?_children := by rw [childrenOf_eq_cons hforOf rfl hidentifier, List.head?_cons]
        name := hidentifier }
  · rintro ⟨rfl, -, hforOf, hinitializer, -, hname⟩
    rw [hinitializer] at hname
    refine ⟨f.forOf, ⟨f.name⟩, hforOf, hname, ?_⟩
    rw [← hinitializer]

/-! ## All five -/

/-- **Parts are parts of the tree.** In every arena, whatever its links, each of the five shapes that have parts
    is found at a position with given parts exactly when the arena describes the position in that way. -/
theorem Arena.parts_coherent (a : Arena) (i : NodeIndex) :
    (∀ m, a.methodCall? i = some m ↔ m.Describes a i) ∧
      (∀ f, a.functionArg? i = some f ↔ f.Describes a i) ∧
      (∀ d, a.deletion? i = some d ↔ d.Describes a i) ∧
      (∀ f, a.simpleForOf? i = some f ↔ f.Describes a i) ∧
      ∀ f, a.identifierForOf? i = some f ↔ f.Describes a i :=
  ⟨fun _ => methodCall?_eq_some_iff_describes, fun _ => functionArg?_eq_some_iff_describes,
    fun _ => deletion?_eq_some_iff_describes, fun _ => simpleForOf?_eq_some_iff_describes,
    fun _ => identifierForOf?_eq_some_iff_describes⟩

end SyntaxShapes
