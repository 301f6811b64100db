import SyntaxShapes.Proofs.Json.Grammar
import SyntaxShapes.Proofs.Node.RoundTrip

/-!
# `SyntaxShapes.Proofs.Node.Children` — no place for a child is forgotten

Two things know where a payload keeps its children: the list of places, written out constructor by constructor,
and the table of fields, from which reading and writing follow. They are independent. A place that the list left
out would still be written and read, and only a parent link would be missing, for one kind.

So the positions in a written payload are collected without the list, member by member, each by the type of the
field that its key names. The children are exactly these, in that order and as often, without the absent ones
(`Payload.children_written`). In the object of a whole node the parent is one more position, but no key of the
kind names it (`Node.children_eq_filter_flatMap`).

## Contents
- **Records.** `Values.flatMap`; `flatMap_members`, what the members of a written record give.
- **Positions.** `Slot.nodesIn`, the positions in one value; `Kind.nodesIn`, those in one member.
- **Tables.** `Payload.childSlots_eq_flatMap`, the list of places against the table of fields.
- **Children.** `Payload.children_written`; `Node.children_eq_filter_flatMap`.
-/

namespace SyntaxShapes

open Json (Value Field Values Members)

/-! ## Records -/

namespace Json

variable {τ β : Type} {El : τ → Type} {write : (t : τ) → El t → Value}

/-- What each field value gives, one after the other in declaration order. -/
def Values.flatMap (g : (t : τ) → El t → List β) : (fields : List (Field El)) → Values fields → List β
  | [], _ => []
  | f :: fs, (x, xs) => g f.type x ++ Values.flatMap g fs xs

/-- What is found in the members of a written record is what the field values give. -/
theorem flatMap_members {g : (t : τ) → El t → List β} {found : String × Value → List β}
    {fields : List (Field El)} (hfound : ∀ f ∈ fields, ∀ x, found (f.key, write f.type x) = g f.type x)
    (xs : Values fields) : (members write fields xs).flatMap found = Values.flatMap g fields xs := by
  induction fields with
  | nil => rfl
  | cons f fs ih =>
      obtain ⟨x, xs⟩ := xs
      rw [List.forall_mem_cons] at hfound
      rw [members, Values.flatMap, List.flatMap_cons, hfound.1, ih hfound.2]

end Json

/-! ## Positions -/

/-- The positions in a JSON value that stands for a field of some type: a position itself, the entries of a list
    under `nodes`, and none for any other type. -/
def Slot.nodesIn : Slot → Json.Value → List NodeIndex
  | index, v => (NodeIndex.read v).toOption.toList
  | list, .object ms =>
    match Members.get? "nodes" ms with
    | some (.array vs) => vs.filterMap fun v => (NodeIndex.read v).toOption
    | _ => []
  | _, _ => []

/-- A written field value holds the positions that the field value refers to. -/
theorem Slot.nodesIn_write (number : Binary64 → Json.Value) (s : Slot) (x : s.Value) :
    s.nodesIn (s.write number x) = s.nodes x := by
  cases s with
  | index =>
      show (NodeIndex.read x.toJson).toOption.toList = [x]
      rw [NodeIndex.read_toJson]
      rfl
  | list =>
      show (x.nodes.map NodeIndex.toJson).filterMap (fun v => (NodeIndex.read v).toOption) = x.nodes
      have hread : (fun v => (NodeIndex.read v).toOption) ∘ NodeIndex.toJson = some := by
        funext i
        rw [Function.comp_apply, NodeIndex.read_toJson]
        rfl
      rw [List.filterMap_map, hread, List.filterMap_some]
  | flags | offset | text | truth | value | keyword | token => rfl

/-- The positions in one member of the object of a payload, by the type of the field that its key names. A member
    whose key names no field of the kind holds none. -/
def Kind.nodesIn (k : Kind) (m : String × Value) : List NodeIndex :=
  match (Record.fields k.Data).find? fun f => f.key == m.1 with
  | some f => f.type.nodesIn m.2
  | none => []

/-- Under the key of a field stand the positions that its type says. -/
theorem Kind.nodesIn_field {k : Kind} {f : Field Slot.Value} (hf : f ∈ Record.fields k.Data) (v : Value) :
    k.nodesIn (f.key, v) = f.type.nodesIn v := by
  unfold nodesIn
  rw [Json.find?_key_eq_some (Node.nodup_payloadKeys k) hf]

/-- Under any other key stand none. -/
theorem Kind.nodesIn_of_notMem {k : Kind} {m : String × Value}
    (hm : m.1 ∉ (Record.fields k.Data).map (·.key)) : k.nodesIn m = [] := by
  have hnone : (Record.fields k.Data).find? (fun f => f.key == m.1) = none := by
    rw [List.find?_eq_none]
    intro f hf hkey
    exact hm (List.mem_map.mpr ⟨f, hf, beq_iff_eq.mp hkey⟩)
  unfold nodesIn
  rw [hnone]

namespace Payload

/-! ## Tables -/

/-- The places for children are what the fields refer to, in declaration order. -/
theorem childSlots_eq_flatMap (p : Payload) :
    p.childSlots = Values.flatMap Slot.nodes _ (Record.toValues p.data) := by
  cases p with
  -- where a list of nodes comes last, nothing is appended to it
  | call d | new d => exact congrArg (d.callee :: ·) (List.append_nil _).symm
  | block d | declarationList d | objectBindingPattern d | arrayBindingPattern d | sourceFile d =>
      exact (List.append_nil _).symm
  | _ => rfl

/-- The positions in a written payload are the places for children. -/
theorem flatMap_nodesIn_members (number : Binary64 → Value) (p : Payload) :
    (p.members number).flatMap p.kind.nodesIn = p.childSlots := by
  have hkind : p.kind.nodesIn ("kind", .string p.kind.name) = [] :=
    Kind.nodesIn_of_notMem (List.nodup_cons.mp (List.nodup_append.mp (Node.nodup_keys p.kind)).2.1).1
  have hfields : ∀ f ∈ Record.fields p.kind.Data, ∀ x,
      p.kind.nodesIn (f.key, f.type.write number x) = f.type.nodes x := by
    intro f hf x
    rw [Kind.nodesIn_field hf, Slot.nodesIn_write]
  rw [childSlots_eq_flatMap, members, List.flatMap_cons, hkind, List.nil_append]
  exact Json.flatMap_members hfields _

/-! ## Children -/

/-- **No place for a child is forgotten.** The children of a payload are the positions in what is written of it,
    however the value of a literal is written: in the order of the members, as often as they stand there, without
    the absent ones. -/
theorem children_written (number : Binary64 → Value) (p : Payload) :
    p.children = ((p.members number).flatMap p.kind.nodesIn).filter (!·.isAbsent) ∧
      (∀ i, i ∈ p.children ↔ i ≠ .absent ∧ ∃ m ∈ p.members number, i ∈ p.kind.nodesIn m) ∧
      ∀ i, p.children.count i =
        if i = .absent then 0 else ((p.members number).flatMap p.kind.nodesIn).count i := by
  refine ⟨?_, ?_, ?_⟩
  · rw [flatMap_nodesIn_members]
    rfl
  · intro i
    rw [mem_children, ← flatMap_nodesIn_members number, List.mem_flatMap, and_comm]
  · intro i
    by_cases hi : i = .absent
    · rw [if_pos hi]
      exact List.count_eq_zero.mpr fun hmem => (mem_children.mp hmem).2 hi
    · rw [if_neg hi, flatMap_nodesIn_members]
      exact List.count_filter (by simpa [NodeIndex.isAbsent] using hi)

/-- A function without a name whose parameters repeat a node and leave one out. -/
example : (arrowFunction { parameters := .ofNodes [⟨3⟩, .absent, ⟨3⟩], body := ⟨5⟩ }).children = [⟨3⟩, ⟨3⟩, ⟨5⟩] := by
  decide

end Payload

/-- The children of a node are the positions in its object under the keys of its kind; the parent is none of
    them. -/
theorem Node.children_eq_filter_flatMap (n : Node) :
    n.children = (n.members.flatMap n.kind.nodesIn).filter (!·.isAbsent) := by
  have hheader : (Json.members (Slot.write .ofBinary64) headerFields n.header).flatMap n.kind.nodesIn = [] := by
    rw [List.flatMap_eq_nil_iff]
    intro m hm
    refine Kind.nodesIn_of_notMem fun hkey => ?_
    -- the keys of the object are distinct, so a header key names no field of the kind
    have hmem : m.1 ∈ headerFields.map (·.key) := by
      rw [← Json.keys_members]
      exact List.mem_map.mpr ⟨m, hm, rfl⟩
    exact (List.nodup_append.mp (nodup_keys n.kind)).2.2 _ hmem _ (List.mem_cons_of_mem _ hkey) rfl
  have hpayload := Payload.flatMap_nodesIn_members .ofBinary64 n.payload
  rw [members, List.flatMap_append, hheader, List.nil_append]
  exact congrArg (List.filter (!·.isAbsent)) hpayload.symm

end SyntaxShapes
