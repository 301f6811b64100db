import SyntaxShapes.Arena.Basic

/-!
# `SyntaxShapes.Shape.View` — shapes with their parts

Five shapes are made of several nodes. For each there is a structure with the parts that a reader of the
tree wants, and a function that gives those parts when a node has the shape.

## Contents
- **Calls.** `MethodCall`, `FunctionArg`.
- **Loops.** `SimpleForOf`, `IdentifierForOf`.
- **`delete`.** `DeleteTarget`, `Deletion`.
-/

namespace SyntaxShapes

/-! ## Calls -/

/-- `receiver.name(arguments)`. -/
structure MethodCall where
  /-- The call. -/
  index : NodeIndex
  /-- The data of the call. -/
  call : Payload.Call
  /-- The property access that is called. -/
  callee : NodeIndex
  /-- The data of that property access. -/
  access : Payload.Access
  deriving DecidableEq, Repr

namespace MethodCall

/-- What the method is looked up on. -/
def receiver (m : MethodCall) : NodeIndex := m.access.receiver

/-- The name of the method. -/
def name (m : MethodCall) : NodeIndex := m.access.selector

/-- The arguments. -/
def arguments (m : MethodCall) : List NodeIndex := m.call.arguments.nodes

end MethodCall

/-- `receiver.name(function () { … }, …)`. -/
structure FunctionArg where
  /-- The function. -/
  index : NodeIndex
  /-- The data of the function. -/
  function : Payload.Function
  /-- The call that it is the first argument of. -/
  methodCall : MethodCall
  deriving DecidableEq, Repr

namespace Arena

/-- The parts of a call of a property access. -/
def methodCall? (a : Arena) (i : NodeIndex) : Option MethodCall := do
  let .call call ← a.payload? i | none
  let .propertyAccess access ← a.payload? call.callee | none
  return { index := i, call, callee := call.callee, access }

/-- The parts of a function expression that is the first argument of its parent, a method call. -/
def functionArg? (a : Arena) (i : NodeIndex) : Option FunctionArg := do
  let node ← a.get? i
  let .functionExpression function := node.payload | none
  let .call call ← a.payload? node.parent | none
  if call.arguments.first = i then
    return { index := i, function, methodCall := ← a.methodCall? node.parent }
  else none

end Arena

/-! ## Loops -/

/-- `for (let x of xs)`: a list with one declaration, of a name. -/
structure SimpleForOf where
  /-- The loop. -/
  index : NodeIndex
  /-- The data of the loop. -/
  forOf : Payload.ForLoop
  /-- The list of declarations. -/
  declarationList : NodeIndex
  /-- The only declaration. -/
  declaration : NodeIndex
  /-- The flags of the list, which tell `let` from `const`. -/
  listFlags : Flags
  deriving DecidableEq, Repr

/-- `for (x of xs)`: a name that is declared elsewhere. -/
structure IdentifierForOf where
  /-- The loop. -/
  index : NodeIndex
  /-- The data of the loop. -/
  forOf : Payload.ForLoop
  /-- The name's node. -/
  identifier : NodeIndex
  /-- The text of the name. -/
  name : String
  deriving DecidableEq, Repr

namespace Arena

/-- The parts of a loop over values whose initializer declares one name. A destructuring pattern is no
name. -/
def simpleForOf? (a : Arena) (i : NodeIndex) : Option SimpleForOf := do
  let .forOf forOf ← a.payload? i | none
  let listNode ← a.get? forOf.initializer
  let list ← listNode.payload.declarationList?
  let [declaration] := list.declarations.nodes | none
  let decl ← (← a.payload? declaration).declaration?
  let .identifier _ ← a.payload? decl.name | none
  return { index := i, forOf, declarationList := forOf.initializer, declaration,
           listFlags := listNode.flags }

/-- The parts of a loop over values whose initializer is a bare name. -/
def identifierForOf? (a : Arena) (i : NodeIndex) : Option IdentifierForOf := do
  let .forOf forOf ← a.payload? i | none
  let .identifier identifier ← a.payload? forOf.initializer | none
  return { index := i, forOf, identifier := forOf.initializer, name := identifier.text }

end Arena

/-! ## `delete` -/

/-- What a `delete` removes. -/
inductive DeleteTarget
  /-- A property, `delete a.b`. -/
  | property
  /-- An element, `delete a[b]`. -/
  | element
  deriving DecidableEq, Repr

/-- `delete a.b` or `delete a[b]`. -/
structure Deletion where
  /-- The `delete` expression. -/
  index : NodeIndex
  /-- The access that is its operand. -/
  operand : NodeIndex
  /-- The data of that access. -/
  access : Payload.Access
  /-- Which of the two forms it has. -/
  target : DeleteTarget
  deriving DecidableEq, Repr

namespace Arena

/-- The parts of a `delete` of a property or an element. -/
def deletion? (a : Arena) (i : NodeIndex) : Option Deletion := do
  let .delete deletion ← a.payload? i | none
  match ← a.payload? deletion.expression with
  | .propertyAccess access =>
    return { index := i, operand := deletion.expression, access, target := .property }
  | .elementAccess access =>
    return { index := i, operand := deletion.expression, access, target := .element }
  | _ => none

end Arena

end SyntaxShapes
