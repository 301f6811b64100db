import Mathlib.Logic.Equiv.Defs
import Mathlib.Logic.Function.Defs
import SyntaxShapes.Arena.Basic
import SyntaxShapes.Node.Field
import SyntaxShapes.Proofs.Json.Record

/-!
# `SyntaxShapes.Proofs.Arena.Renumbering` — the same tree in another order

The order in which the nodes of a tree stand in the arena is an accident of how it was built. Here the
nodes change places: each moves where a permutation takes it, and every position that a node names, in its
payload or as its parent, follows. Which fields of a payload name positions is known from their types, so
one definition covers all kinds.

What later proofs need of a renumbered arena is little: `Renamed` says that positions correspond one to one,
that the absent one stays, and that look-ups correspond.

## Contents
- **Renaming.** `Slot.rename`, `Record.rename`, `Payload.rename`, `Node.rename`; `childSlots_rename`.
- **Renumbering.** `Arena.moved`, where a permutation takes a position; `Arena.renumber`.
- **Correspondence.** `Arena.Renamed`; `renamed_renumber`; `Renamed.payload?`, `Renamed.parentOf`,
  `Renamed.childrenOf`.
-/

namespace SyntaxShapes

open Json (Values)

/-! ## Renaming -/

/-- A list of nodes with other positions for them. -/
def NodeList.rename (ρ : NodeIndex → NodeIndex) (l : NodeList) : NodeList :=
  { l with nodes := l.nodes.map ρ }

/-- A field value with other positions for the nodes that it names. -/
def Slot.rename (ρ : NodeIndex → NodeIndex) : (s : Slot) → s.Value → s.Value
  | index, i => ρ i
  | list, l => l.rename ρ
  | flags, n => n
  | offset, n => n
  | text, s => s
  | truth, b => b
  | value, x => x
  | keyword, k => k
  | token, t => t

/-- A structure with other positions for the nodes that its fields name. -/
def Record.rename {α : Type} [Record α] (ρ : NodeIndex → NodeIndex) (x : α) : α :=
  ofValues (Values.map (Slot.rename ρ) (fields α) (toValues x))

/-- A payload with other positions for the nodes that it names. -/
def Payload.rename (ρ : NodeIndex → NodeIndex) (p : Payload) : Payload :=
  ofData p.kind (Record.rename ρ p.data)

/-- A node with other positions for the nodes that it names, its parent among them. -/
def Node.rename (ρ : NodeIndex → NodeIndex) (n : Node) : Node :=
  { n with parent := ρ n.parent, payload := n.payload.rename ρ }

theorem Payload.kind_rename (ρ : NodeIndex → NodeIndex) (p : Payload) : (p.rename ρ).kind = p.kind :=
  kind_ofData p.kind _

/-- Every place for a child is renamed. -/
theorem Payload.childSlots_rename (ρ : NodeIndex → NodeIndex) (p : Payload) :
    (p.rename ρ).childSlots = p.childSlots.map ρ := by
  cases p with
  | functionExpression d | arrowFunction d =>
      show ρ d.name :: d.parameters.nodes.map ρ ++ [ρ d.body] = (d.name :: d.parameters.nodes ++ [d.body]).map ρ
      rw [List.map_append]
      rfl
  | _ => rfl

/-- The first of a renamed list is the first one renamed; that of an empty list stays absent. -/
theorem NodeList.first_rename {ρ : NodeIndex → NodeIndex} (hρ : ρ .absent = .absent) (l : NodeList) :
    (l.rename ρ).first = ρ l.first := by
  obtain ⟨nodes, pos, stop⟩ := l
  cases nodes with
  | nil => exact hρ.symm
  | cons i is => rfl

namespace Arena

/-! ## Renumbering -/

/-- Where a permutation of the nodes of an arena takes a position. A position without a node stays. -/
def moved (a : Arena) (f : Equiv.Perm (Fin a.size)) (i : NodeIndex) : NodeIndex :=
  if h : i.toNat < a.size then .ofNat (f ⟨i.toNat, h⟩) else i

/-- The arena whose nodes have moved where a permutation takes them. -/
def renumber (a : Arena) (f : Equiv.Perm (Fin a.size)) : Arena :=
  ⟨Array.ofFn fun k =>
    have _hk : (f.symm k : Nat) < a.nodes.size := (f.symm k).isLt
    a.nodes[(f.symm k : Nat)].rename (a.moved f)⟩

variable {a : Arena} {f : Equiv.Perm (Fin a.size)} {i : NodeIndex}

@[simp] theorem size_renumber (a : Arena) (f : Equiv.Perm (Fin a.size)) : (a.renumber f).size = a.size := by
  unfold renumber size
  rw [Array.size_ofFn]

/-- A position with a node goes where the permutation takes it. -/
theorem moved_of_lt (h : i.toNat < a.size) : a.moved f i = .ofNat (f ⟨i.toNat, h⟩) := dif_pos h

theorem moved_of_not_lt (h : ¬i.toNat < a.size) : a.moved f i = i := dif_neg h

theorem toNat_moved (hsize : a.size < 2 ^ 32) (h : i.toNat < a.size) :
    (a.moved f i).toNat = f ⟨i.toNat, h⟩ := by
  have hlt : (f ⟨i.toNat, h⟩ : Nat) < a.size := (f ⟨i.toNat, h⟩).isLt
  rw [moved_of_lt h, NodeIndex.toNat_ofNat (by omega)]

/-- Moving along the inverse permutation and then along the permutation leads back. -/
theorem moved_moved_symm (hsize : a.size < 2 ^ 32) (f : Equiv.Perm (Fin a.size)) (i : NodeIndex) :
    a.moved f (a.moved f.symm i) = i := by
  by_cases h : i.toNat < a.size
  · have hnat := toNat_moved (f := f.symm) hsize h
    have hlt : (a.moved f.symm i).toNat < a.size := by
      rw [hnat]
      exact (f.symm ⟨i.toNat, h⟩).isLt
    rw [← NodeIndex.toNat_inj, toNat_moved hsize hlt]
    have he : (⟨(a.moved f.symm i).toNat, hlt⟩ : Fin a.size) = f.symm ⟨i.toNat, h⟩ := Fin.ext hnat
    rw [he, Equiv.apply_symm_apply]
  · rw [moved_of_not_lt h, moved_of_not_lt h]

/-- No two positions go to the same one, and none is left out. -/
theorem bijective_moved (hsize : a.size < 2 ^ 32) (f : Equiv.Perm (Fin a.size)) :
    Function.Bijective (a.moved f) := by
  constructor
  · exact Function.LeftInverse.injective (moved_moved_symm hsize f.symm)
  · exact Function.RightInverse.surjective (moved_moved_symm hsize f)

/-! ## Correspondence -/

/-- Whether one arena is another with its positions renamed. -/
structure Renamed (ρ : NodeIndex → NodeIndex) (a b : Arena) : Prop where
  /-- Positions correspond one to one. -/
  bijective : Function.Bijective ρ
  /-- The position that names no node is the same. -/
  absent : ρ .absent = .absent
  /-- Nodes correspond, with the positions that they name. -/
  get? : ∀ i, b.get? (ρ i) = (a.get? i).map (Node.rename ρ)

/-- What stands at the new position of a node is the node, with the positions in it renamed. -/
theorem get?_renumber (hsize : a.size < 2 ^ 32 - 1) (f : Equiv.Perm (Fin a.size)) (i : NodeIndex) :
    (a.renumber f).get? (a.moved f i) = (a.get? i).map (Node.rename (a.moved f)) := by
  by_cases h : i.toNat < a.size
  · have hnat := toNat_moved (f := f) (by omega) h
    have hlt : (a.moved f i).toNat < a.size := by
      rw [hnat]
      exact (f ⟨i.toNat, h⟩).isLt
    have hi : i ≠ .absent := by
      rintro rfl
      rw [NodeIndex.toNat_absent] at h
      omega
    have hmoved : a.moved f i ≠ .absent := by
      intro he
      rw [he, NodeIndex.toNat_absent] at hlt
      omega
    -- the node that stands where `i` moved is the one that stood at `i`
    have hback : f.symm ⟨(a.moved f i).toNat, hlt⟩ = ⟨i.toNat, h⟩ := by
      rw [Equiv.symm_apply_eq]
      exact Fin.ext hnat
    have hnode : a.get? i = some a.nodes[i.toNat] :=
      get?_eq_some_iff.mpr ⟨hi, Array.getElem?_eq_getElem h⟩
    rw [hnode, Option.map_some, get?_eq_some_iff]
    refine ⟨hmoved, ?_⟩
    unfold renumber
    rw [Array.getElem?_ofFn, dif_pos hlt]
    simp only [hback]
    rfl
  · have hold : a.get? i = none := by
      rw [← Option.not_isSome_iff_eq_none, isSome_get?_iff]
      exact fun hs => h hs.2
    have hnew : (a.renumber f).get? i = none := by
      rw [← Option.not_isSome_iff_eq_none, isSome_get?_iff, size_renumber]
      exact fun hs => h hs.2
    rw [moved_of_not_lt h, hold, hnew]
    rfl

/-- Renumbering is a renaming. -/
theorem renamed_renumber (hsize : a.size < 2 ^ 32 - 1) (f : Equiv.Perm (Fin a.size)) :
    Renamed (a.moved f) a (a.renumber f) where
  bijective := bijective_moved (by omega) f
  absent := by
    refine moved_of_not_lt ?_
    rw [NodeIndex.toNat_absent]
    omega
  get? := get?_renumber hsize f

namespace Renamed

variable {ρ : NodeIndex → NodeIndex} {b : Arena}

theorem payload? (h : Renamed ρ a b) (i : NodeIndex) :
    b.payload? (ρ i) = (a.payload? i).map (Payload.rename ρ) := by
  unfold Arena.payload?
  rw [h.get?, Option.map_map, Option.map_map]
  rfl

/-- The parent of a node moves with it. -/
theorem parentOf (h : Renamed ρ a b) (i : NodeIndex) : b.parentOf (ρ i) = ρ (a.parentOf i) := by
  unfold Arena.parentOf
  rw [h.get?]
  cases a.get? i with
  | none => exact h.absent.symm
  | some n => rfl

theorem isAbsent (h : Renamed ρ a b) (i : NodeIndex) : (ρ i).isAbsent = i.isAbsent := by
  rw [Bool.eq_iff_iff, NodeIndex.isAbsent_iff, NodeIndex.isAbsent_iff]
  constructor
  · intro hi
    exact h.bijective.injective (hi.trans h.absent.symm)
  · rintro rfl
    exact h.absent

/-- The children of a node move with it. -/
theorem childrenOf (h : Renamed ρ a b) (i : NodeIndex) : b.childrenOf (ρ i) = (a.childrenOf i).map ρ := by
  unfold Arena.childrenOf
  rw [h.get?]
  cases a.get? i with
  | none => rfl
  | some n =>
      show ((n.payload.rename ρ).childSlots.filter (!·.isAbsent)) =
        (n.payload.childSlots.filter (!·.isAbsent)).map ρ
      rw [Payload.childSlots_rename, List.filter_map]
      refine congrArg (List.map ρ) (List.filter_congr ?_)
      intro c _
      rw [Function.comp_apply, h.isAbsent]

end Renamed

end Arena

end SyntaxShapes
