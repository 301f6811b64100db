import SyntaxShapes.Json.Reader
import SyntaxShapes.Json.Record
import SyntaxShapes.Node.Payload

/-!
# `SyntaxShapes.Node.Field` — the fields of nodes in JSON

Every structure that a node is made of is a record: a list of fields, each under a key, with a type from
the small universe `Slot` and perhaps a default. Reading, writing and the order of faults follow from that
list.

## Contents
- **Universe.** `Slot`, `Slot.Value`, `Slot.read`, `Slot.write`.
- **Lists.** `NodeList.read` and `NodeList.toJson`; a list may also be written as an array.
- **Records.** The class `Record` with its laws, an instance for each structure, and one for each
  `Kind.Data`.
-/

namespace SyntaxShapes

open Json (Value Field Values ReadError Place Members)

/-! ## Positions and lists -/

/-- Reads a position. -/
def NodeIndex.read (v : Value) : Except ReadError NodeIndex :=
  (Json.readU32 v).map (⟨·⟩)

/-- A position as a JSON number. -/
def NodeIndex.toJson (i : NodeIndex) : Value := .nat i.toNat

namespace NodeList

/-- The types of the fields of a list. -/
inductive Slot
  | nodes | offset

/-- The values of a field type. -/
@[reducible] def Slot.Value : Slot → Type
  | .nodes => List NodeIndex
  | .offset => UInt32

/-- Reads a field of a list. -/
def Slot.read : (s : Slot) → Json.Value → Except ReadError s.Value
  | .nodes, v => Json.readList NodeIndex.read v
  | .offset, v => Json.readU32 v

/-- Writes a field of a list. -/
def Slot.write : (s : Slot) → s.Value → Json.Value
  | .nodes, is => .array (is.map NodeIndex.toJson)
  | .offset, n => .nat n.toNat

/-- The fields of a list. -/
def fields : List (Field Slot.Value) :=
  [⟨"nodes", .nodes, none⟩, ⟨"pos", .offset, some (0 : UInt32)⟩, ⟨"end", .offset, some (0 : UInt32)⟩]

/-- The list with given field values. -/
def ofValues : Values fields → NodeList
  | (nodes, pos, stop, ()) => ⟨nodes, pos, stop⟩

/-- The field values of a list. -/
def toValues (l : NodeList) : Values fields :=
  (l.nodes, l.pos, l.stop, ())

/-- Reads a list, from an object or from an array of its fields. -/
def read (place : Place) : Value → Except ReadError NodeList
  | .object ms => ofValues <$> Json.readObject Slot.read fields ms
  | .array vs => ofValues <$> Json.readArray Slot.read place "NodeList" fields vs
  | v => .error (.wrongType v.found (.record "NodeList"))

/-- A list as a JSON object. -/
def toJson (l : NodeList) : Value :=
  .object (Json.members Slot.write fields l.toValues)

end NodeList

/-! ## The universe of field types -/

/-- The types of the fields that nodes are made of. -/
inductive Slot
  /-- The flags of a node. -/
  | flags
  /-- A position in the source. -/
  | offset
  /-- A node. -/
  | index
  /-- A list of nodes. -/
  | list
  /-- A text. -/
  | text
  /-- A truth value. -/
  | truth
  /-- The value of a numeric literal, which may be absent. -/
  | value
  /-- A keyword. -/
  | keyword
  /-- A token. -/
  | token
  deriving DecidableEq, Repr

namespace Slot

/-- The values of a field type. -/
@[reducible] def Value : Slot → Type
  | flags => UInt16
  | offset => UInt32
  | index => NodeIndex
  | list => NodeList
  | text => String
  | truth => Bool
  | value => Option Binary64
  | keyword => Keyword
  | token => Token

/-- Reads a value of a field type. -/
def read (place : Place) : (s : Slot) → Json.Value → Except ReadError s.Value
  | flags, v => Json.readU16 v
  | offset, v => Json.readU32 v
  | index, v => NodeIndex.read v
  | list, v => NodeList.read place v
  | text, v => Json.readString v
  | truth, v => Json.readBool v
  | value, v => Json.readFloat? v
  | keyword, v => Json.readVariant place v
  | token, v => Json.readVariant place v

/-- Writes a value of a field type; how the value of a literal is written is the caller's choice. -/
def write (number : Binary64 → Json.Value) : (s : Slot) → s.Value → Json.Value
  | flags, n => .nat n.toNat
  | offset, n => .nat n.toNat
  | index, i => i.toJson
  | list, l => l.toJson
  | text, s => .string s
  | truth, b => .bool b
  | value, none => .null
  | value, some x => number x
  | keyword, k => .string k.name
  | token, t => .string t.name

/-- The nodes that a value of a field type refers to. -/
def nodes : (s : Slot) → s.Value → List NodeIndex
  | index, i => [i]
  | list, l => l.nodes
  | flags, _ | offset, _ | text, _ | truth, _ | value, _ | keyword, _ | token, _ => []

end Slot

/-! ## Records -/

/-- A field that must be present. -/
@[reducible] def required (key : String) (s : Slot) : Field Slot.Value := ⟨key, s, none⟩

/-- A field with a default. -/
@[reducible] def defaulted (key : String) (s : Slot) (d : s.Value) : Field Slot.Value := ⟨key, s, some d⟩

/-- A structure that is a tuple of fields. -/
class Record (α : Type) where
  /-- What messages call the structure. -/
  name : String
  /-- The fields, in declaration order. -/
  fields : List (Field Slot.Value)
  /-- The field values of a structure. -/
  toValues : α → Values fields
  /-- The structure with given field values. -/
  ofValues : Values fields → α
  /-- Taking a structure apart and putting it together again gives the same one. -/
  ofValues_toValues : ∀ x, ofValues (toValues x) = x
  /-- Putting field values together and taking them apart again gives the same ones. -/
  toValues_ofValues : ∀ xs, toValues (ofValues xs) = xs

namespace Record

variable {α : Type} [Record α]

/-- Reads a record from the members of an object. -/
def read (place : Place) (ms : Members) : Except ReadError α :=
  ofValues <$> Json.readObject (Slot.read place) (fields α) ms

/-- Reads a record from an array of its fields. -/
def readArray (place : Place) (vs : List Value) : Except ReadError α :=
  ofValues <$> Json.readArray (Slot.read place) place (name α) (fields α) vs

/-- The members of a record's object. -/
def members (number : Binary64 → Value) (x : α) : Members :=
  Json.members (Slot.write number) (fields α) (toValues x)

end Record

namespace Payload

instance : Record Identifier where
  name := "IdentifierData"
  fields := [required "escaped_text" .text]
  toValues x := (x.text, ())
  ofValues := fun (text, ()) => ⟨text⟩
  ofValues_toValues _ := rfl
  toValues_ofValues _ := rfl

instance : Record Literal where
  name := "LiteralData"
  fields := [required "text" .text, defaulted "value" .value none]
  toValues x := (x.text, x.value?, ())
  ofValues := fun (text, value, ()) => ⟨text, value⟩
  ofValues_toValues _ := rfl
  toValues_ofValues _ := rfl

instance : Record KeywordUse where
  name := "KeywordData"
  fields := [required "keyword" .keyword]
  toValues x := (x.keyword, ())
  ofValues := fun (word, ()) => ⟨word⟩
  ofValues_toValues _ := rfl
  toValues_ofValues _ := rfl

instance : Record TokenUse where
  name := "TokenData"
  fields := [required "token" .token]
  toValues x := (x.token, ())
  ofValues := fun (word, ()) => ⟨word⟩
  ofValues_toValues _ := rfl
  toValues_ofValues _ := rfl

instance : Record Binary where
  name := "BinaryExprData"
  fields := [required "left" .index, required "operator_token" .token, required "right" .index]
  toValues x := (x.left, x.operator, x.right, ())
  ofValues := fun (left, operator, right, ()) => ⟨left, operator, right⟩
  ofValues_toValues _ := rfl
  toValues_ofValues _ := rfl

instance : Record Unary where
  name := "UnaryExprData"
  fields := [required "operator" .token, required "operand" .index]
  toValues x := (x.operator, x.operand, ())
  ofValues := fun (operator, operand, ()) => ⟨operator, operand⟩
  ofValues_toValues _ := rfl
  toValues_ofValues _ := rfl

instance : Record Operand where
  name := "UnaryExprDataEx"
  fields := [required "expression" .index]
  toValues x := (x.expression, ())
  ofValues := fun (expression, ()) => ⟨expression⟩
  ofValues_toValues _ := rfl
  toValues_ofValues _ := rfl

instance : Record Call where
  name := "CallExprData"
  fields := [required "expression" .index, defaulted "arguments" .list ({} : NodeList)]
  toValues x := (x.callee, x.arguments, ())
  ofValues := fun (callee, arguments, ()) => ⟨callee, arguments⟩
  ofValues_toValues _ := rfl
  toValues_ofValues _ := rfl

instance : Record Access where
  name := "AccessExprData"
  fields :=
    [required "expression" .index, required "name_or_argument" .index,
     defaulted "question_dot_token" .truth false]
  toValues x := (x.receiver, x.selector, x.isOptional, ())
  ofValues := fun (receiver, selector, isOptional, ()) => ⟨receiver, selector, isOptional⟩
  ofValues_toValues _ := rfl
  toValues_ofValues _ := rfl

instance : Record Function where
  name := "FunctionData"
  fields :=
    [defaulted "is_async" .truth false, defaulted "asterisk_token" .truth false,
     defaulted "name" .index NodeIndex.absent, defaulted "parameters" .list ({} : NodeList),
     required "body" .index]
  toValues x := (x.isAsync, x.isGenerator, x.name, x.parameters, x.body, ())
  ofValues := fun (isAsync, isGenerator, name, parameters, body, ()) =>
    ⟨isAsync, isGenerator, name, parameters, body⟩
  ofValues_toValues _ := rfl
  toValues_ofValues _ := rfl

instance : Record Parameter where
  name := "ParameterData"
  fields :=
    [defaulted "dot_dot_dot_token" .truth false, required "name" .index,
     defaulted "initializer" .index NodeIndex.absent]
  toValues x := (x.isRest, x.name, x.initializer, ())
  ofValues := fun (isRest, name, initializer, ()) => ⟨isRest, name, initializer⟩
  ofValues_toValues _ := rfl
  toValues_ofValues _ := rfl

instance : Record Parenthesized where
  name := "ParenthesizedData"
  fields := [required "expression" .index]
  toValues x := (x.expression, ())
  ofValues := fun (expression, ()) => ⟨expression⟩
  ofValues_toValues _ := rfl
  toValues_ofValues _ := rfl

instance : Record ExpressionStatement where
  name := "ExprStatementData"
  fields := [required "expression" .index]
  toValues x := (x.expression, ())
  ofValues := fun (expression, ()) => ⟨expression⟩
  ofValues_toValues _ := rfl
  toValues_ofValues _ := rfl

instance : Record Block where
  name := "BlockData"
  fields := [defaulted "statements" .list ({} : NodeList)]
  toValues x := (x.statements, ())
  ofValues := fun (statements, ()) => ⟨statements⟩
  ofValues_toValues _ := rfl
  toValues_ofValues _ := rfl

instance : Record VariableStatement where
  name := "VariableStatementData"
  fields := [required "declaration_list" .index]
  toValues x := (x.declarationList, ())
  ofValues := fun (list, ()) => ⟨list⟩
  ofValues_toValues _ := rfl
  toValues_ofValues _ := rfl

instance : Record DeclarationList where
  name := "VariableData"
  fields := [defaulted "declarations" .list ({} : NodeList)]
  toValues x := (x.declarations, ())
  ofValues := fun (declarations, ()) => ⟨declarations⟩
  ofValues_toValues _ := rfl
  toValues_ofValues _ := rfl

instance : Record Declaration where
  name := "VariableDeclarationData"
  fields := [required "name" .index, defaulted "initializer" .index NodeIndex.absent]
  toValues x := (x.name, x.initializer, ())
  ofValues := fun (name, initializer, ()) => ⟨name, initializer⟩
  ofValues_toValues _ := rfl
  toValues_ofValues _ := rfl

instance : Record BindingPattern where
  name := "BindingPatternData"
  fields := [defaulted "elements" .list ({} : NodeList)]
  toValues x := (x.elements, ())
  ofValues := fun (elements, ()) => ⟨elements⟩
  ofValues_toValues _ := rfl
  toValues_ofValues _ := rfl

instance : Record BindingElement where
  name := "BindingElementData"
  fields :=
    [defaulted "dot_dot_dot_token" .truth false,
     defaulted "property_name" .index NodeIndex.absent, required "name" .index,
     defaulted "initializer" .index NodeIndex.absent]
  toValues x := (x.isRest, x.propertyName, x.name, x.initializer, ())
  ofValues := fun (isRest, propertyName, name, initializer, ()) =>
    ⟨isRest, propertyName, name, initializer⟩
  ofValues_toValues _ := rfl
  toValues_ofValues _ := rfl

instance : Record ForLoop where
  name := "ForInOfData"
  fields :=
    [defaulted "await_modifier" .truth false, required "initializer" .index,
     required "expression" .index, required "statement" .index]
  toValues x := (x.isAwait, x.initializer, x.expression, x.statement, ())
  ofValues := fun (isAwait, initializer, expression, statement, ()) =>
    ⟨isAwait, initializer, expression, statement⟩
  ofValues_toValues _ := rfl
  toValues_ofValues _ := rfl

instance : Record SourceFile where
  name := "SourceFileData"
  fields := [required "file_name" .text, defaulted "statements" .list ({} : NodeList)]
  toValues x := (x.fileName, x.statements, ())
  ofValues := fun (fileName, statements, ()) => ⟨fileName, statements⟩
  ofValues_toValues _ := rfl
  toValues_ofValues _ := rfl

end Payload

/-- The data of each kind is a record. -/
instance instRecordData : (k : Kind) → Record k.Data
  | .identifier | .privateIdentifier => inferInstanceAs (Record Payload.Identifier)
  | .numericLiteral | .bigIntLiteral | .stringLiteral | .regularExpressionLiteral
  | .noSubstitutionTemplateLiteral => inferInstanceAs (Record Payload.Literal)
  | .keyword => inferInstanceAs (Record Payload.KeywordUse)
  | .token => inferInstanceAs (Record Payload.TokenUse)
  | .binary => inferInstanceAs (Record Payload.Binary)
  | .prefixUnary | .postfixUnary => inferInstanceAs (Record Payload.Unary)
  | .call | .new => inferInstanceAs (Record Payload.Call)
  | .propertyAccess | .elementAccess => inferInstanceAs (Record Payload.Access)
  | .functionExpression | .arrowFunction => inferInstanceAs (Record Payload.Function)
  | .delete | .typeOf | .void => inferInstanceAs (Record Payload.Operand)
  | .parenthesized => inferInstanceAs (Record Payload.Parenthesized)
  | .expressionStatement => inferInstanceAs (Record Payload.ExpressionStatement)
  | .block => inferInstanceAs (Record Payload.Block)
  | .variableStatement => inferInstanceAs (Record Payload.VariableStatement)
  | .forOf | .forIn => inferInstanceAs (Record Payload.ForLoop)
  | .declarationList => inferInstanceAs (Record Payload.DeclarationList)
  | .declaration => inferInstanceAs (Record Payload.Declaration)
  | .objectBindingPattern | .arrayBindingPattern => inferInstanceAs (Record Payload.BindingPattern)
  | .bindingElement => inferInstanceAs (Record Payload.BindingElement)
  | .parameter => inferInstanceAs (Record Payload.Parameter)
  | .sourceFile => inferInstanceAs (Record Payload.SourceFile)

end SyntaxShapes
