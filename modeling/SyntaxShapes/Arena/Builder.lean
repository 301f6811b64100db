import SyntaxShapes.Arena.Basic
import SyntaxShapes.Decimal.Numeral

/-!
# `SyntaxShapes.Arena.Builder` — building a tree node by node

A tree is built bottom-up by calls that each add one node. The new node becomes the parent of its
children, so a child that is given to several calls ends with the last of them. Some calls compute the
span of the new node from the nodes that it is made of.

## Contents
- **One node.** `Arena.add`: append, then adopt.
- **Calls.** `Call`, one constructor for each way to add a node; `Call.toNode`, the node that a call makes
  in a given arena.
- **Runs.** `Arena.apply`, `Arena.build`; `size_build`.
-/

namespace SyntaxShapes

namespace Arena

/-- The position that the next node gets. -/
def nextIndex (a : Arena) : NodeIndex := .ofNat a.size

/-- Makes a node the parent of some others. -/
def adopt (a : Arena) (parent : NodeIndex) (children : List NodeIndex) : Arena :=
  children.foldl (fun a c => a.setParent c parent) a

/-- Adds a node and makes it the parent of its children. -/
def add (a : Arena) (n : Node) : Arena :=
  adopt { a with nodes := a.nodes.push n } a.nextIndex n.children

/-- Where a node starts, zero without a node. -/
def posOf (a : Arena) (i : NodeIndex) : UInt32 :=
  ((a.get? i).map (·.pos)).getD 0

/-- Where a node ends, zero without a node. -/
def stopOf (a : Arena) (i : NodeIndex) : UInt32 :=
  ((a.get? i).map (·.stop)).getD 0

@[simp] theorem size_adopt (a : Arena) (p : NodeIndex) (cs : List NodeIndex) :
    (a.adopt p cs).size = a.size := by
  induction cs generalizing a with
  | nil => rfl
  | cons c cs ih => simp [adopt] at ih ⊢; simp [ih]

@[simp] theorem size_add (a : Arena) (n : Node) : (a.add n).size = a.size + 1 := by
  rw [add, size_adopt]
  simp [size]

end Arena

/-- One way to add a node to a tree. -/
inductive Call
  /-- Any node with a given span. -/
  | node (pos stop : UInt32) (flags : Flags) (payload : Payload)
  | identifier (pos stop : UInt32) (text : String)
  /-- A numeric literal; its value is read from its text when the text is a number. -/
  | numericLiteral (pos stop : UInt32) (text : String)
  | stringLiteral (pos stop : UInt32) (text : String)
  | regexLiteral (pos stop : UInt32) (text : String)
  /-- A keyword, as long as its text. -/
  | keyword (pos : UInt32) (keyword : Keyword)
  | token (pos stop : UInt32) (token : Token)
  /-- A binary expression from the start of one operand to the end of the other. -/
  | binary (left : NodeIndex) (operator : Token) (right : NodeIndex)
  | prefixUnary (pos : UInt32) (operator : Token) (operand : NodeIndex)
  | postfixUnary (operand : NodeIndex) (operator : Token) (stop : UInt32)
  | call (callee : NodeIndex) (arguments : List NodeIndex) (stop : UInt32)
  | new (pos : UInt32) (callee : NodeIndex) (arguments : List NodeIndex) (stop : UInt32)
  | propertyAccess (receiver name : NodeIndex)
  | elementAccess (receiver argument : NodeIndex) (stop : UInt32)
  | function (pos stop : UInt32) (data : Payload.Function)
  | arrowFunction (pos stop : UInt32) (data : Payload.Function)
  | delete (pos : UInt32) (expression : NodeIndex)
  | parenthesized (pos : UInt32) (expression : NodeIndex) (stop : UInt32)
  | expressionStatement (expression : NodeIndex) (stop : UInt32)
  | block (pos stop : UInt32) (statements : List NodeIndex)
  | declaration (name initializer : NodeIndex)
  | declarationList (pos stop : UInt32) (flags : Flags) (declarations : List NodeIndex)
  | variableStatement (declarationList : NodeIndex) (stop : UInt32)
  | objectBindingPattern (pos stop : UInt32) (elements : List NodeIndex)
  | arrayBindingPattern (pos stop : UInt32) (elements : List NodeIndex)
  | bindingElement (name : NodeIndex)
  | parameter (name : NodeIndex)
  | forOf (pos : UInt32) (initializer expression statement : NodeIndex)
  | forIn (pos : UInt32) (initializer expression statement : NodeIndex)
  | sourceFile (fileName : String) (stop : UInt32) (statements : List NodeIndex)

namespace Call

/-- A sum of positions that stays at the largest one instead of wrapping. -/
def addClamped (pos : UInt32) (n : Nat) : UInt32 :=
  .ofNat (min (pos.toNat + n) (2 ^ 32 - 1))

/-- The payload of the node that a call makes. -/
def payload : Call → Payload
  | node _ _ _ p => p
  | identifier _ _ text => .identifier ⟨text⟩
  | numericLiteral _ _ text => .numericLiteral ⟨text, Numeral.ofLiteralText? text⟩
  | stringLiteral _ _ text => .stringLiteral ⟨text, none⟩
  | regexLiteral _ _ text => .regularExpressionLiteral ⟨text, none⟩
  | keyword _ k => .keyword ⟨k⟩
  | token _ _ t => .token ⟨t⟩
  | binary left op right => .binary ⟨left, op, right⟩
  | prefixUnary _ op operand => .prefixUnary ⟨op, operand⟩
  | postfixUnary operand op _ => .postfixUnary ⟨op, operand⟩
  | call callee arguments _ => .call ⟨callee, .ofNodes arguments⟩
  | new _ callee arguments _ => .new ⟨callee, .ofNodes arguments⟩
  | propertyAccess receiver name => .propertyAccess ⟨receiver, name, false⟩
  | elementAccess receiver argument _ => .elementAccess ⟨receiver, argument, false⟩
  | function _ _ data => .functionExpression data
  | arrowFunction _ _ data => .arrowFunction data
  | delete _ expression => .delete ⟨expression⟩
  | parenthesized _ expression _ => .parenthesized ⟨expression⟩
  | expressionStatement expression _ => .expressionStatement ⟨expression⟩
  | block _ _ statements => .block ⟨.ofNodes statements⟩
  | declaration name initializer => .declaration ⟨name, initializer⟩
  | declarationList _ _ _ declarations => .declarationList ⟨.ofNodes declarations⟩
  | variableStatement list _ => .variableStatement ⟨list⟩
  | objectBindingPattern _ _ elements => .objectBindingPattern ⟨.ofNodes elements⟩
  | arrayBindingPattern _ _ elements => .arrayBindingPattern ⟨.ofNodes elements⟩
  | bindingElement name => .bindingElement ⟨false, .absent, name, .absent⟩
  | parameter name => .parameter ⟨false, name, .absent⟩
  | forOf _ initializer expression statement => .forOf ⟨false, initializer, expression, statement⟩
  | forIn _ initializer expression statement => .forIn ⟨false, initializer, expression, statement⟩
  | sourceFile fileName _ statements => .sourceFile ⟨fileName, .ofNodes statements⟩

/-- The flags of the node that a call makes. -/
def flags : Call → Flags
  | node _ _ flags _ => flags
  | declarationList _ _ flags _ => flags
  | _ => 0

/-- The start of the node that a call makes in an arena. -/
def pos (a : Arena) : Call → UInt32
  | node pos _ _ _ | identifier pos _ _ | numericLiteral pos _ _ | stringLiteral pos _ _
  | regexLiteral pos _ _ | keyword pos _ | token pos _ _ | prefixUnary pos _ _ | new pos _ _ _
  | function pos _ _ | arrowFunction pos _ _ | delete pos _ | parenthesized pos _ _
  | block pos _ _ | declarationList pos _ _ _ | objectBindingPattern pos _ _
  | arrayBindingPattern pos _ _ | forOf pos _ _ _ | forIn pos _ _ _ => pos
  | binary first _ _ | postfixUnary first _ _ | call first _ _ | propertyAccess first _
  | elementAccess first _ _ | expressionStatement first _ | declaration first _
  | variableStatement first _ | bindingElement first | parameter first => a.posOf first
  | sourceFile _ _ _ => 0

/-- The end of the node that a call makes in an arena. -/
def stop (a : Arena) : Call → UInt32
  | node _ stop _ _ | identifier _ stop _ | numericLiteral _ stop _ | stringLiteral _ stop _
  | regexLiteral _ stop _ | token _ stop _ | postfixUnary _ _ stop | call _ _ stop
  | new _ _ _ stop | elementAccess _ _ stop | function _ stop _ | arrowFunction _ stop _
  | parenthesized _ _ stop | expressionStatement _ stop | block _ stop _
  | declarationList _ stop _ _ | variableStatement _ stop | objectBindingPattern _ stop _
  | arrayBindingPattern _ stop _ | sourceFile _ stop _ => stop
  | keyword pos k => addClamped pos k.text.length
  | binary _ _ last | prefixUnary _ _ last | propertyAccess _ last | delete _ last
  | bindingElement last | parameter last | forOf _ _ _ last | forIn _ _ _ last => a.stopOf last
  | declaration name initializer =>
    if initializer.isAbsent then a.stopOf name else a.stopOf initializer

/-- The node that a call makes in an arena. It has no parent yet. -/
def toNode (a : Arena) (c : Call) : Node :=
  { flags := c.flags, pos := c.pos a, stop := c.stop a, payload := c.payload }

end Call

namespace Arena

/-- The arena after a call. The new node stands at the `nextIndex` of the arena before. -/
def apply (a : Arena) (c : Call) : Arena :=
  a.add (c.toNode a)

/-- The arena after a sequence of calls. -/
def applyAll (a : Arena) (cs : List Call) : Arena :=
  cs.foldl apply a

/-- The arena that a sequence of calls builds from nothing. -/
def build (cs : List Call) : Arena :=
  empty.applyAll cs

@[simp] theorem size_apply (a : Arena) (c : Call) : (a.apply c).size = a.size + 1 := by
  simp [apply]

/-- Each call adds one node. -/
theorem size_build (cs : List Call) : (build cs).size = cs.length := by
  have : ∀ a : Arena, (a.applyAll cs).size = a.size + cs.length := by
    induction cs with
    | nil => intro a; rfl
    | cons c cs ih =>
      intro a
      have := ih (a.apply c)
      simp only [applyAll, List.foldl_cons, List.length_cons] at this ⊢
      rw [this, size_apply]
      omega
  simpa [build, empty, size] using this empty

end Arena

end SyntaxShapes
