import SyntaxShapes.Proofs.Json.Grammar
import SyntaxShapes.Proofs.Node.RoundTrip

/-!
# `SyntaxShapes.Proofs.Node.Grammar` — the JSON form of a node

The grammar of nodes, written out: which keys a node of each kind has, what may stand under them, and which
of them may be left out. `Node.read_eq_ok_iff_spells` says that reading accepts exactly this and gives the
node that is spelled.

The grammar repeats on purpose what the tables of fields say. It is stated without them, so an entry of a
table that is off (a key, a type or a default) shows here, and so does a pass over the fields that goes
wrong.

## Contents
- **Parts.** `NodeIndex.Spells`, `NodeList.Spells`, `Kind.Spells`.
- **Payloads.** One `Spells` for each structure, and `Payload.Spells` for each kind.
- **Nodes.** `Node.Spells`.
- **Readers.** One equivalence for each layer; `Slot.read_eq_ok_iff`, `Payload.readData_eq_ok_iff`,
  `Node.read_eq_ok_iff_spells`.
-/

namespace SyntaxShapes

open Json (Value Field Values ReadError Members Given AllGiven SpellsU16 SpellsU32 SpellsNumber? SpellsTruth
  SpellsText SpellsWord SpellsList)

/-! ## Parts -/

/-- A position is an integer of thirty-two bits. -/
def NodeIndex.Spells (v : Value) (i : NodeIndex) : Prop := SpellsU32 v i.val

/-- A list of nodes is an object, or an array of one, two or three of its fields in order: the positions,
    where the list starts and where it ends. -/
inductive NodeList.Spells : Value → NodeList → Prop
  | object {ms : Members} {l : NodeList}
      (nodes : Given (SpellsList NodeIndex.Spells) none ms "nodes" l.nodes)
      (pos : Given SpellsU32 (some 0) ms "pos" l.pos)
      (stop : Given SpellsU32 (some 0) ms "end" l.stop) : Spells (.object ms) l
  | nodes {v : Value} {is : List NodeIndex} (nodes : SpellsList NodeIndex.Spells v is) :
      Spells (.array [v]) ⟨is, 0, 0⟩
  | start {v w : Value} {is : List NodeIndex} {m : UInt32} (nodes : SpellsList NodeIndex.Spells v is)
      (pos : SpellsU32 w m) : Spells (.array [v, w]) ⟨is, m, 0⟩
  | span {v w u : Value} {is : List NodeIndex} {m n : UInt32} (nodes : SpellsList NodeIndex.Spells v is)
      (pos : SpellsU32 w m) (stop : SpellsU32 u n) : Spells (.array [v, w, u]) ⟨is, m, n⟩

/-- A kind is a name, or the position of the kind among all thirty-four. -/
inductive Kind.Spells : Value → Kind → Prop
  | name (k : Kind) : Spells (.string k.name) k
  | position {i : Int} {k : Kind} (lower : 0 ≤ i) (upper : i ≤ 33) (found : Kind.all[i.toNat]? = some k) :
      Spells (.number (.int i)) k

/-! ## Payloads

For each structure its keys, what may stand under them, and the value of a key that may be left out.
-/

namespace Payload

variable (ms : Members)

def Identifier.Spells (d : Identifier) : Prop :=
  Given SpellsText none ms "escaped_text" d.text

def Literal.Spells (d : Literal) : Prop :=
  Given SpellsText none ms "text" d.text ∧
  Given SpellsNumber? (some none) ms "value" d.value?

def KeywordUse.Spells (d : KeywordUse) : Prop :=
  Given SpellsWord none ms "keyword" d.keyword

def TokenUse.Spells (d : TokenUse) : Prop :=
  Given SpellsWord none ms "token" d.token

def Binary.Spells (d : Binary) : Prop :=
  Given NodeIndex.Spells none ms "left" d.left ∧
  Given SpellsWord none ms "operator_token" d.operator ∧
  Given NodeIndex.Spells none ms "right" d.right

def Unary.Spells (d : Unary) : Prop :=
  Given SpellsWord none ms "operator" d.operator ∧
  Given NodeIndex.Spells none ms "operand" d.operand

def Operand.Spells (d : Operand) : Prop :=
  Given NodeIndex.Spells none ms "expression" d.expression

def Call.Spells (d : Call) : Prop :=
  Given NodeIndex.Spells none ms "expression" d.callee ∧
  Given NodeList.Spells (some {}) ms "arguments" d.arguments

def Access.Spells (d : Access) : Prop :=
  Given NodeIndex.Spells none ms "expression" d.receiver ∧
  Given NodeIndex.Spells none ms "name_or_argument" d.selector ∧
  Given SpellsTruth (some false) ms "question_dot_token" d.isOptional

def Function.Spells (d : Function) : Prop :=
  Given SpellsTruth (some false) ms "is_async" d.isAsync ∧
  Given SpellsTruth (some false) ms "asterisk_token" d.isGenerator ∧
  Given NodeIndex.Spells (some .absent) ms "name" d.name ∧
  Given NodeList.Spells (some {}) ms "parameters" d.parameters ∧
  Given NodeIndex.Spells none ms "body" d.body

def Parameter.Spells (d : Parameter) : Prop :=
  Given SpellsTruth (some false) ms "dot_dot_dot_token" d.isRest ∧
  Given NodeIndex.Spells none ms "name" d.name ∧
  Given NodeIndex.Spells (some .absent) ms "initializer" d.initializer

def Parenthesized.Spells (d : Parenthesized) : Prop :=
  Given NodeIndex.Spells none ms "expression" d.expression

def ExpressionStatement.Spells (d : ExpressionStatement) : Prop :=
  Given NodeIndex.Spells none ms "expression" d.expression

def Block.Spells (d : Block) : Prop :=
  Given NodeList.Spells (some {}) ms "statements" d.statements

def VariableStatement.Spells (d : VariableStatement) : Prop :=
  Given NodeIndex.Spells none ms "declaration_list" d.declarationList

def DeclarationList.Spells (d : DeclarationList) : Prop :=
  Given NodeList.Spells (some {}) ms "declarations" d.declarations

def Declaration.Spells (d : Declaration) : Prop :=
  Given NodeIndex.Spells none ms "name" d.name ∧
  Given NodeIndex.Spells (some .absent) ms "initializer" d.initializer

def BindingPattern.Spells (d : BindingPattern) : Prop :=
  Given NodeList.Spells (some {}) ms "elements" d.elements

def BindingElement.Spells (d : BindingElement) : Prop :=
  Given SpellsTruth (some false) ms "dot_dot_dot_token" d.isRest ∧
  Given NodeIndex.Spells (some .absent) ms "property_name" d.propertyName ∧
  Given NodeIndex.Spells none ms "name" d.name ∧
  Given NodeIndex.Spells (some .absent) ms "initializer" d.initializer

def ForLoop.Spells (d : ForLoop) : Prop :=
  Given SpellsTruth (some false) ms "await_modifier" d.isAwait ∧
  Given NodeIndex.Spells none ms "initializer" d.initializer ∧
  Given NodeIndex.Spells none ms "expression" d.expression ∧
  Given NodeIndex.Spells none ms "statement" d.statement

def SourceFile.Spells (d : SourceFile) : Prop :=
  Given SpellsText none ms "file_name" d.fileName ∧
  Given NodeList.Spells (some {}) ms "statements" d.statements

/-- The members that spell a payload, its kind apart. -/
def Spells : Payload → Prop
  | .identifier d | .privateIdentifier d => d.Spells ms
  | .numericLiteral d | .bigIntLiteral d | .stringLiteral d | .regularExpressionLiteral d
  | .noSubstitutionTemplateLiteral d => d.Spells ms
  | .keyword d => d.Spells ms
  | .token d => d.Spells ms
  | .binary d => d.Spells ms
  | .prefixUnary d | .postfixUnary d => d.Spells ms
  | .call d | .new d => d.Spells ms
  | .propertyAccess d | .elementAccess d => d.Spells ms
  | .functionExpression d | .arrowFunction d => d.Spells ms
  | .delete d | .typeOf d | .void d => d.Spells ms
  | .parenthesized d => d.Spells ms
  | .expressionStatement d => d.Spells ms
  | .block d => d.Spells ms
  | .variableStatement d => d.Spells ms
  | .forOf d | .forIn d => d.Spells ms
  | .declarationList d => d.Spells ms
  | .declaration d => d.Spells ms
  | .objectBindingPattern d | .arrayBindingPattern d => d.Spells ms
  | .bindingElement d => d.Spells ms
  | .parameter d => d.Spells ms
  | .sourceFile d => d.Spells ms

end Payload

/-! ## Nodes -/

/-- A node is one object: its header, its kind, and the members of its payload. Other keys do not matter. -/
inductive Node.Spells : Value → Node → Prop
  | object {ms : Members} {n : Node} {v : Value}
      (flags : Given SpellsU16 (some 0) ms "flags" n.flags)
      (pos : Given SpellsU32 none ms "pos" n.pos)
      (stop : Given SpellsU32 none ms "end" n.stop)
      (parent : Given NodeIndex.Spells (some .absent) ms "parent" n.parent)
      (found : ms.get? "kind" = some v) (kind : Kind.Spells v n.kind)
      (payload : n.payload.Spells ms) : Spells (.object ms) n

/-! ## Readers -/

variable {v : Json.Value}

theorem NodeIndex.read_eq_ok_iff {i : NodeIndex} : NodeIndex.read v = .ok i ↔ NodeIndex.Spells v i := by
  unfold NodeIndex.read NodeIndex.Spells
  rw [← Json.readU32_eq_ok_iff]
  cases Json.readU32 v with
  | error e => exact ⟨nofun, nofun⟩
  | ok n =>
      constructor
      · intro h
        obtain rfl := Except.ok.inj h
        rfl
      · intro h
        obtain rfl := Except.ok.inj h
        rfl

namespace NodeList

/-- The JSON that spells a field of a list. -/
def Slot.Spells : (s : Slot) → Json.Value → s.Value → Prop
  | .nodes => SpellsList NodeIndex.Spells
  | .offset => SpellsU32

theorem Slot.read_eq_ok_iff (s : Slot) (v : Json.Value) (x : s.Value) : s.read v = .ok x ↔ s.Spells v x := by
  cases s with
  | nodes => exact Json.readList_eq_ok_iff NodeIndex.read_eq_ok_iff
  | offset => exact Json.readU32_eq_ok_iff

theorem read_eq_ok_iff {l : NodeList} : read .inNode v = .ok l ↔ Spells v l := by
  have hread : ∀ f ∈ fields, ∀ v x, f.type.read v = .ok x ↔ f.type.Spells v x :=
    fun f _ => Slot.read_eq_ok_iff f.type
  have hkeys : (fields.map (·.key)).Nodup := by decide
  constructor
  · intro h
    unfold read at h
    split at h
    · obtain ⟨⟨is, m, n, ⟨⟩⟩, hxs, rfl⟩ := Json.map_eq_ok_iff.mp h
      obtain ⟨hnodes, hpos, hstop, -⟩ := (Json.readObject_eq_ok_iff_allGiven hkeys hread).mp hxs
      exact .object hnodes hpos hstop
    · rename_i vs
      obtain ⟨⟨is, m, n, ⟨⟩⟩, hxs, rfl⟩ := Json.map_eq_ok_iff.mp h
      have hitems := (Json.readArray_eq_ok_iff_allItems hread).mp hxs
      -- a list has three fields, of which the last two have defaults
      match vs, hitems with
      | [_], ⟨hnodes, hpos, hstop, _⟩ =>
          obtain rfl := Option.some.inj hpos
          obtain rfl := Option.some.inj hstop
          exact .nodes hnodes
      | [_, _], ⟨hnodes, hpos, hstop, _⟩ =>
          obtain rfl := Option.some.inj hstop
          exact .start hnodes hpos
      | [_, _, _], ⟨hnodes, hpos, hstop, _⟩ => exact .span hnodes hpos hstop
    · cases h
  · rintro (⟨hnodes, hpos, hstop⟩ | hnodes | ⟨hnodes, hpos⟩ | ⟨hnodes, hpos, hstop⟩)
    · refine Json.map_eq_ok_iff.mpr ⟨toValues _, ?_, rfl⟩
      exact (Json.readObject_eq_ok_iff_allGiven hkeys hread).mpr ⟨hnodes, hpos, hstop, trivial⟩
    · refine Json.map_eq_ok_iff.mpr ⟨(_, 0, 0, ()), ?_, rfl⟩
      exact (Json.readArray_eq_ok_iff_allItems hread).mpr ⟨hnodes, rfl, rfl, rfl⟩
    · refine Json.map_eq_ok_iff.mpr ⟨(_, _, 0, ()), ?_, rfl⟩
      exact (Json.readArray_eq_ok_iff_allItems hread).mpr ⟨hnodes, hpos, rfl, rfl⟩
    · refine Json.map_eq_ok_iff.mpr ⟨(_, _, _, ()), ?_, rfl⟩
      exact (Json.readArray_eq_ok_iff_allItems hread).mpr ⟨hnodes, hpos, hstop, rfl⟩

end NodeList

namespace Kind

/-- A kind is read exactly where it is spelled. -/
theorem read_eq_ok_iff {k : Kind} : read .inNode v = .ok k ↔ Spells v k := by
  constructor
  · intro h
    unfold read at h
    split at h
    · obtain rfl := Json.readName_eq_ok_iff.mp h
      exact .name k
    · rename_i i
      split at h
      · rename_i hi
        split at h
        · rename_i hfound
          obtain rfl := Except.ok.inj h
          obtain ⟨hlen, -⟩ := List.getElem?_eq_some_iff.mp hfound
          have hall : all.length = 34 := rfl
          exact .position hi.2 (by omega) hfound
        · cases h
      · cases h
    · cases h
  · rintro (_ | ⟨lower, upper, found⟩)
    · exact Json.readName_eq_ok_iff.mpr rfl
    · refine (if_pos ⟨rfl, lower⟩).trans ?_
      unfold ofPosition?
      rw [found]

/-- The kind of a node is read from its `kind`. -/
theorem readFrom_eq_ok_iff {ms : Members} {k : Kind} :
    readFrom .inNode ms = .ok k ↔ ∃ v, ms.get? "kind" = some v ∧ Spells v k := by
  unfold readFrom
  cases ms.get? "kind" with
  | none => exact ⟨nofun, nofun⟩
  | some v =>
      rw [read_eq_ok_iff]
      constructor
      · intro h
        exact ⟨v, rfl, h⟩
      · rintro ⟨_, ⟨⟩, h⟩
        exact h

end Kind

/-- The JSON that spells a value of a field type. -/
def Slot.Spells : (s : Slot) → Json.Value → s.Value → Prop
  | flags => SpellsU16
  | offset => SpellsU32
  | index => NodeIndex.Spells
  | list => NodeList.Spells
  | text => SpellsText
  | truth => SpellsTruth
  | value => SpellsNumber?
  | keyword => SpellsWord
  | token => SpellsWord

/-- A field is read exactly where it is spelled, whatever its type. -/
theorem Slot.read_eq_ok_iff (s : Slot) (v : Json.Value) (x : s.Value) :
    Slot.read .inNode s v = .ok x ↔ s.Spells v x := by
  cases s with
  | flags => exact Json.readU16_eq_ok_iff
  | offset => exact Json.readU32_eq_ok_iff
  | index => exact NodeIndex.read_eq_ok_iff
  | list => exact NodeList.read_eq_ok_iff
  | text => exact Json.readString_eq_ok_iff
  | truth => exact Json.readBool_eq_ok_iff
  | value => exact Json.readFloat?_eq_ok_iff
  | keyword => exact Json.readVariant_inNode_eq_ok_iff
  | token => exact Json.readVariant_inNode_eq_ok_iff

namespace Payload

/-- The table of fields of each kind is what its grammar says. -/
theorem allGiven_iff_spells {k : Kind} {d : k.Data} {ms : Members} :
    AllGiven Slot.Spells (Record.fields k.Data) (Record.toValues d) ms ↔ (ofData k d).Spells ms := by
  -- by the number of fields: what is left after the last one is trivially true
  cases k with
  | identifier | privateIdentifier | keyword | token | delete | typeOf | void | parenthesized
  | expressionStatement | block | variableStatement | declarationList | objectBindingPattern
  | arrayBindingPattern => exact and_iff_left trivial
  | numericLiteral | bigIntLiteral | stringLiteral | regularExpressionLiteral
  | noSubstitutionTemplateLiteral | prefixUnary | postfixUnary | call | new | declaration | sourceFile =>
      exact and_congr_right fun _ => and_iff_left trivial
  | binary | propertyAccess | elementAccess | parameter =>
      exact and_congr_right fun _ => and_congr_right fun _ => and_iff_left trivial
  | forOf | forIn | bindingElement =>
      exact and_congr_right fun _ => and_congr_right fun _ => and_congr_right fun _ => and_iff_left trivial
  | functionExpression | arrowFunction =>
      exact and_congr_right fun _ => and_congr_right fun _ => and_congr_right fun _ =>
        and_congr_right fun _ => and_iff_left trivial

/-- A payload is read exactly from members that spell it. -/
theorem readData_eq_ok_iff {k : Kind} {ms : Members} {p : Payload} :
    readData k ms = .ok p ↔ p.kind = k ∧ p.Spells ms := by
  have hrecord : ∀ xs, Json.readObject (Slot.read .inNode) (Record.fields k.Data) ms = .ok xs ↔
      AllGiven Slot.Spells (Record.fields k.Data) xs ms := fun _ =>
    Json.readObject_eq_ok_iff_allGiven (Node.nodup_payloadKeys k) fun f _ => Slot.read_eq_ok_iff f.type
  unfold readData Record.read
  rw [Json.map_eq_ok_iff]
  constructor
  · rintro ⟨d, hd, rfl⟩
    obtain ⟨xs, hxs, rfl⟩ := Json.map_eq_ok_iff.mp hd
    refine ⟨kind_ofData k _, ?_⟩
    rw [← allGiven_iff_spells, Record.toValues_ofValues]
    exact (hrecord xs).mp hxs
  · rintro ⟨rfl, hp⟩
    refine ⟨p.data, Json.map_eq_ok_iff.mpr ⟨Record.toValues p.data, ?_, Record.ofValues_toValues _⟩,
      ofData_kind_data p⟩
    rw [hrecord, allGiven_iff_spells, ofData_kind_data]
    exact hp

end Payload

namespace Node

theorem readHeader_eq_ok_iff {ms : Members} {header : Values headerFields} :
    Json.readObject (Slot.read .alone) headerFields ms = .ok header ↔
      AllGiven Slot.Spells headerFields header ms := by
  refine Json.readObject_eq_ok_iff_allGiven (by decide) ?_
  intro f hf v x
  -- where a value stands changes nothing for the fields of a header
  have hplace : Slot.read .alone f.type v = Slot.read .inNode f.type v := by
    simp only [headerFields, List.mem_cons, List.not_mem_nil, or_false] at hf
    rcases hf with rfl | rfl | rfl | rfl <;> rfl
  rw [hplace]
  exact Slot.read_eq_ok_iff f.type v x

/-- **Reading a node accepts exactly its grammar**, and gives the node that is spelled. -/
theorem read_eq_ok_iff_spells (v : Value) (n : Node) : Node.read v = .ok n ↔ Node.Spells v n := by
  constructor
  · intro h
    obtain ⟨ms, rfl⟩ := exists_object_of_read h
    obtain ⟨header, kind, payload, hheader, hkind, hpayload, rfl⟩ := read_object_eq_ok_iff.mp h
    obtain ⟨flags, pos, stop, parent, ⟨⟩⟩ := header
    obtain ⟨hflags, hpos, hstop, hparent, -⟩ := readHeader_eq_ok_iff.mp hheader
    obtain ⟨v, hfound, hv⟩ := Kind.readFrom_eq_ok_iff.mp hkind
    obtain ⟨rfl, hspells⟩ := Payload.readData_eq_ok_iff.mp hpayload
    exact .object hflags hpos hstop hparent hfound hv hspells
  · rintro ⟨hflags, hpos, hstop, hparent, hfound, hkind, hpayload⟩
    refine read_object_eq_ok_iff.mpr ⟨n.header, n.kind, n.payload, ?_, ?_, ?_, n.ofHeader_header⟩
    · exact readHeader_eq_ok_iff.mpr ⟨hflags, hpos, hstop, hparent, trivial⟩
    · exact Kind.readFrom_eq_ok_iff.mpr ⟨_, hfound, hkind⟩
    · exact Payload.readData_eq_ok_iff.mpr ⟨rfl, hpayload⟩

/-- A token whose word stands as an object with an empty object under its name. -/
def emptyWord : Members :=
  [("kind", .string "Token"), ("pos", .nat 0), ("end", .nat 1),
   ("token", .object [("Unknown", .object [])])]

/-- It is read, though a word by itself would be its name or have null under its name. -/
theorem read_emptyWord :
    Node.read (.object emptyWord) = .ok { pos := 0, stop := 1, payload := .token ⟨.unknown⟩ } ∧
      emptyWord.get? "token" = some (.object [("Unknown", .object [])]) ∧
      ∀ t : Token, Value.object [("Unknown", .object [])] ≠ .string t.name ∧
        Value.object [("Unknown", .object [])] ≠ .object [(t.name, .null)] := by
  refine ⟨by rfl, by rfl, ?_⟩
  intro t
  refine ⟨nofun, ?_⟩
  intro h
  have hmember := List.head_eq_of_cons_eq (Value.object.inj h)
  exact nomatch (Prod.mk.inj hmember).2

end Node

end SyntaxShapes
