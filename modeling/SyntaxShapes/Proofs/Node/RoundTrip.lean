import SyntaxShapes.Load.Guard
import SyntaxShapes.Node.Json
import SyntaxShapes.Proofs.Json.Range
import SyntaxShapes.Proofs.Json.Record

/-!
# `SyntaxShapes.Proofs.Node.RoundTrip` — a node that is written can be read again

JSON has no form for an infinity or a NaN, so writing a node can lose one thing: the value of a literal
that is no real number. `Node.kept` is the node after that loss. Reading a written node always succeeds
and gives exactly `Node.kept` (`read_toJson`); a node whose literal value is absent or real comes back as
it was (`kept_eq_self_iff`).

The proof follows the layers of the format: a field value, a record of fields, a payload of each kind, the
flat object of header and payload. What it needs of the kinds is that no two keys of one object are equal
(`nodup_keys`).

## Contents
- **Loss.** `Slot.kept`, `Payload.kept`, `Node.kept`; `HasRealValue`, the nodes without loss.
- **Layers.** `Slot.read_write`, `Payload.readData_of_members_subset`, `Node.read_toJson`.
- **What was read.** `Slot.kept_of_read`, `Node.hasRealValue_of_read`: reading makes nothing that writing
  loses.
- **Guard.** `isNode_toJson`.
-/

namespace SyntaxShapes

open Json (Value Field Values ReadError Place Members)

/-! ## Loss -/

/-- What is left of a field value once it is written: a literal's value goes unless it is a real number. -/
def Slot.kept : (s : Slot) → s.Value → s.Value
  | value, x => x.filter Binary64.isFinite
  | flags, n => n
  | offset, n => n
  | index, i => i
  | list, l => l
  | text, s => s
  | truth, b => b
  | keyword, k => k
  | token, t => t

namespace Payload

/-- The value of the literal that a payload holds, if it holds one with a value. -/
def value? (p : Payload) : Option Binary64 := p.literal?.bind (·.value?)

/-- Whether the value of the literal is a real number, where there is one. -/
def HasRealValue (p : Payload) : Prop := ∀ x ∈ p.value?, x.isFinite = true

/-- The literal with its value lost unless that is a real number. -/
def Literal.kept (d : Literal) : Literal := { d with value? := d.value?.filter Binary64.isFinite }

/-- What is left of a payload once it is written. -/
def kept : Payload → Payload
  | .numericLiteral d => .numericLiteral d.kept
  | .bigIntLiteral d => .bigIntLiteral d.kept
  | .stringLiteral d => .stringLiteral d.kept
  | .regularExpressionLiteral d => .regularExpressionLiteral d.kept
  | .noSubstitutionTemplateLiteral d => .noSubstitutionTemplateLiteral d.kept
  | p => p

/-- Writing keeps a literal exactly when its value is real, or absent. -/
theorem Literal.kept_eq_self_iff {d : Literal} :
    d.kept = d ↔ ∀ x ∈ d.value?, x.isFinite = true := by
  obtain ⟨text, value?⟩ := d
  cases value? with
  | none => simp [kept]
  | some x => simp [kept, Option.filter]

/-- Writing keeps a payload exactly when it has no value that is not real. -/
theorem kept_eq_self_iff {p : Payload} : p.kept = p ↔ p.HasRealValue := by
  unfold HasRealValue value?
  cases p with
  | numericLiteral d | bigIntLiteral d | stringLiteral d | regularExpressionLiteral d
  | noSubstitutionTemplateLiteral d => simp [kept, literal?, Literal.kept_eq_self_iff]
  | _ => simp [kept, literal?]

end Payload

namespace Node

/-- Whether the node is no literal with a value other than a real number. -/
def HasRealValue (n : Node) : Prop := n.payload.HasRealValue

/-- What is left of a node once it is written. -/
def kept (n : Node) : Node := { n with payload := n.payload.kept }

theorem kept_eq_self_iff {n : Node} : n.kept = n ↔ n.HasRealValue := by
  obtain ⟨flags, pos, stop, parent, payload⟩ := n
  unfold HasRealValue
  rw [← Payload.kept_eq_self_iff]
  simp [kept]

end Node

/-! ## Field values -/

theorem readU16_nat (n : UInt16) : Json.readU16 (.nat n.toNat) = .ok n := by
  have h : n.toNat < 2 ^ 16 := n.toNat_lt
  simp only [Value.nat, Json.readU16]
  rw [if_pos (by omega)]
  simp

theorem readU32_nat (n : UInt32) : Json.readU32 (.nat n.toNat) = .ok n := by
  have h : n.toNat < 2 ^ 32 := n.toNat_lt
  simp only [Value.nat, Json.readU32]
  rw [if_pos (by omega)]
  simp

theorem NodeIndex.read_toJson (i : NodeIndex) : NodeIndex.read i.toJson = .ok i := by
  unfold NodeIndex.read NodeIndex.toJson NodeIndex.toNat
  rw [readU32_nat]
  rfl

theorem readName_name {α : Type} [Named α] (a : α) :
    (Json.readName (Named.name a) : Except ReadError α) = .ok a := by
  unfold Json.readName
  rw [Named.ofName?_name]

/-- A number reads back if it is real, and is read as absent if not. -/
theorem readFloat?_kept (x : Option Binary64) :
    Json.readFloat? (Slot.write .ofBinary64 .value x) = .ok (Slot.kept .value x) := by
  cases x with
  | none => rfl
  | some x =>
      show Json.readFloat? (Value.ofBinary64 x) = .ok ((some x).filter Binary64.isFinite)
      unfold Value.ofBinary64
      cases hx : x.isFinite with
      | true => simp [Json.readFloat?, Option.filter, hx]
      | false => simp [Json.readFloat?, Option.filter, hx]

/-- What reads back one by one reads back as a list. -/
theorem mapM_map_eq_ok {α β ε : Type} {read : β → Except ε α} {write : α → β}
    (h : ∀ x, read (write x) = .ok x) (xs : List α) : (xs.map write).mapM read = .ok xs := by
  induction xs with
  | nil => rfl
  | cons x xs ih => simp [h, ih, bind, Except.bind, pure, Except.pure]

namespace NodeList

theorem Slot.read_write (s : Slot) (x : s.Value) : s.read (s.write x) = .ok x := by
  cases s with
  | nodes => exact mapM_map_eq_ok NodeIndex.read_toJson x
  | offset => exact readU32_nat x

/-- A list of positions reads back, in a node or alone. -/
theorem read_toJson (place : Place) (l : NodeList) : NodeList.read place l.toJson = .ok l := by
  have hk : ((Json.members Slot.write fields l.toValues).map (·.1)).Nodup := by
    rw [Json.keys_members]
    decide
  show ofValues <$> Json.readObject Slot.read fields (Json.members Slot.write fields l.toValues) = .ok l
  rw [Json.readObject_of_members_subset (fun _ x => x) Slot.read_write hk (List.Subset.refl _)]
  rfl

end NodeList

/-- **A written field value is read as what writing kept of it.** -/
theorem Slot.read_write (place : Place) (s : Slot) (x : s.Value) :
    Slot.read place s (Slot.write .ofBinary64 s x) = .ok (s.kept x) := by
  cases s with
  | flags => exact readU16_nat x
  | offset => exact readU32_nat x
  | index => exact NodeIndex.read_toJson x
  | list => exact NodeList.read_toJson place x
  | text => rfl
  | truth => rfl
  | value => exact readFloat?_kept x
  | keyword => exact readName_name x
  | token => exact readName_name x

/-! ## Payloads -/

namespace Payload

/-- Losing what cannot be written field by field is losing it from the payload. -/
theorem kept_ofData (k : Kind) (xs : Values (Record.fields k.Data)) :
    (ofData k (Record.ofValues xs)).kept = ofData k (Record.ofValues (Values.map Slot.kept _ xs)) := by
  cases k <;> rfl

theorem kept_eq (p : Payload) :
    p.kept = ofData p.kind (Record.ofValues (Values.map Slot.kept _ (Record.toValues p.data))) := by
  rw [← kept_ofData, Record.ofValues_toValues, ofData_kind_data]

/-- In an object with distinct keys that holds the fields of a payload, the payload is found again. -/
theorem readData_of_members_subset {p : Payload} {ms : Members} (hk : (ms.map (·.1)).Nodup)
    (hsub : Record.members .ofBinary64 p.data ⊆ ms) : readData p.kind ms = .ok p.kept := by
  unfold readData Record.read
  rw [Json.readObject_of_members_subset Slot.kept (Slot.read_write .inNode) hk hsub, kept_eq]
  rfl

end Payload

/-! ## Nodes -/

namespace Node

/-- The members of a node's object, in order. -/
def members (n : Node) : Members :=
  Json.members (Slot.write .ofBinary64) headerFields n.header ++ n.payload.members .ofBinary64

theorem toJson_eq_object (n : Node) : n.toJson = .object n.members := rfl

/-- No key of the header is `kind`, and neither is a key of any payload. -/
theorem nodup_keys (k : Kind) :
    (headerFields.map (·.key) ++ "kind" :: (Record.fields k.Data).map (·.key)).Nodup := by
  cases k <;> decide

theorem nodup_payloadKeys (k : Kind) : ((Record.fields k.Data).map (·.key)).Nodup :=
  (List.nodup_append.mp (nodup_keys k)).2.1.of_cons

/-- A written node has no key twice. -/
theorem nodup_keys_members (n : Node) : (n.members.map (·.1)).Nodup := by
  unfold members Payload.members Record.members
  rw [List.map_append, List.map_cons, Json.keys_members, Json.keys_members]
  exact nodup_keys n.payload.kind

theorem get?_kind_members (n : Node) : n.members.get? "kind" = some (.string n.payload.kind.name) :=
  Members.get?_eq_some_of_mem n.nodup_keys_members
    (List.mem_append_right _ List.mem_cons_self)

/-- The header of a written node reads back. -/
theorem readHeader_members (n : Node) :
    Json.readObject (Slot.read .alone) headerFields n.members = .ok n.header :=
  -- no field of a header is a literal's value, so keeping the header is keeping all of it
  Json.readObject_of_members_subset Slot.kept (Slot.read_write .alone) n.nodup_keys_members
    (List.subset_append_left _ _)

theorem readKind_members (n : Node) : Kind.readFrom .inNode n.members = .ok n.payload.kind := by
  unfold Kind.readFrom
  rw [get?_kind_members]
  exact readName_name n.payload.kind

/-- The payload of a written node reads back, but for a value that is not real. -/
theorem readData_members (n : Node) : Payload.readData n.payload.kind n.members = .ok n.payload.kept :=
  Payload.readData_of_members_subset n.nodup_keys_members fun _ hm =>
    List.mem_append_right _ (List.mem_cons_of_mem _ hm)

/-- **Reading a written node gives what writing kept of it**, whatever the node. -/
theorem read_toJson (n : Node) : Node.read n.toJson = .ok n.kept := by
  rw [toJson_eq_object, Node.read, readHeader_members]
  show (Kind.readFrom .inNode n.members >>= fun kind => Payload.readData kind n.members >>= fun payload =>
    pure (ofHeader payload n.header)) = _
  rw [readKind_members]
  show (Payload.readData n.payload.kind n.members >>= fun payload => pure (ofHeader payload n.header)) = _
  rw [readData_members]
  rfl

end Node

/-! ## What was read -/

/-- A field value that was read from a value with numbers in range loses nothing when it is written. -/
theorem Slot.kept_of_read {place : Place} {s : Slot} {v : Json.Value} {x : s.Value} (hv : v.InRange)
    (h : Slot.read place s v = .ok x) : s.kept x = x := by
  cases s with
  | value =>
      cases x with
      | none => rfl
      | some x =>
          show (some x).filter Binary64.isFinite = some x
          rw [Option.filter_some, if_pos (Json.isFinite_of_readFloat? hv h)]
  | _ => rfl

/-- No default of any payload is a value that cannot be written. -/
theorem Slot.kept_default (k : Kind) :
    ∀ f ∈ Record.fields k.Data, ∀ d, f.default? = some d → f.type.kept d = d := by
  -- the only field that writing can empty is the value of a literal, and its default is empty already
  cases k <;> simp [Record.fields, kept]

namespace Node

/-- Reading a node from an object goes through its header, its kind and its payload. -/
theorem read_object_eq_ok_iff {ms : Members} {n : Node} :
    Node.read (.object ms) = .ok n ↔
      ∃ header kind payload, Json.readObject (Slot.read .alone) headerFields ms = .ok header ∧
        Kind.readFrom .inNode ms = .ok kind ∧ Payload.readData kind ms = .ok payload ∧
        ofHeader payload header = n := by
  rw [Node.read]
  simp only [Json.bind_eq_ok_iff]
  constructor
  · rintro ⟨header, hheader, kind, hkind, payload, hpayload, hn⟩
    exact ⟨header, kind, payload, hheader, hkind, hpayload, Except.ok.inj hn⟩
  · rintro ⟨header, kind, payload, hheader, hkind, hpayload, rfl⟩
    exact ⟨header, hheader, kind, hkind, payload, hpayload, rfl⟩

/-- Only an object is read as a node. -/
theorem exists_object_of_read {v : Value} {n : Node} (h : Node.read v = .ok n) : ∃ ms, v = .object ms := by
  cases v with
  | object ms => exact ⟨ms, rfl⟩
  | null | bool _ | number _ | string _ | array _ => cases h

/-- **A node that was read loses nothing when it is written**, as long as the numbers it was read from are
    ones that JSON text gives. -/
theorem hasRealValue_of_read {v : Value} {n : Node} (hv : v.InRange) (h : Node.read v = .ok n) :
    n.HasRealValue := by
  -- down the layers: the object, its payload, the record of its fields
  obtain ⟨ms, rfl⟩ := exists_object_of_read h
  obtain ⟨header, kind, payload, -, -, hpayload, rfl⟩ := read_object_eq_ok_iff.mp h
  show payload.HasRealValue
  unfold Payload.readData Record.read at hpayload
  obtain ⟨_, hxs, rfl⟩ := Json.map_eq_ok_iff.mp hpayload
  obtain ⟨xs, hread, rfl⟩ := Json.map_eq_ok_iff.mp hxs
  cases hv with
  | object hms =>
      have hkept := Json.map_eq_self_of_fills (fun m hm _ _ => Slot.kept_of_read (hms m hm))
        (Slot.kept_default kind) (Json.readObject_eq_ok_iff.mp hread).2
      rw [← Payload.kept_eq_self_iff, Payload.kept_ofData, hkept]

/-! ## Guard -/

/-- Every written node passes the guard: its four required keys are present and not null. -/
theorem isNode_toJson (n : Node) : Load.isNode n.toJson = true := by
  refine Load.isNode_iff.mpr ⟨n.members, rfl, ?_⟩
  intro key hkey
  simp only [Load.requiredKeys, List.mem_cons, List.not_mem_nil, or_false] at hkey
  unfold Load.isPresent
  -- the kind comes after the header; the other three are header fields and found by evaluation
  rcases hkey with rfl | rfl | rfl | rfl
  · rw [get?_kind_members]
  · rfl
  · rfl
  · rfl

end Node

end SyntaxShapes
