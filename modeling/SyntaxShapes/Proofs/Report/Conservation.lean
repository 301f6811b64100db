import Mathlib.Data.List.Perm.Basic
import Mathlib.Logic.ExistsUnique
import SyntaxShapes.Arena.Builder
import SyntaxShapes.Proofs.Report.Tally

/-!
# `SyntaxShapes.Proofs.Report.Conservation` — every access is called or a field

Whether an access is a field is read off its parent, looking up; whether a call is a method call is read
off its callee, looking down. In a tree whose parents are those that list the node as a child, the two
views agree: the called accesses of a kind and the calls of an access of that kind correspond one to one,
by going to the parent. So every access is counted once, as a field or with the call of it.

## Contents
- **Consistency.** `Arena.Consistent`; `Consistent.eq_parentOf`, the call of a node is its parent.
- **Correspondence.** `Arena.isCallOf`, calls by what they call; `perm_map_parentOf`, `countP_conserved`.
- **Shapes.** `countP_fieldAccess`, `countP_methodCall`; `accesses_conserved`.
-/

namespace SyntaxShapes

namespace Arena

variable {a : Arena} {i p : NodeIndex} {k : Kind}

/-! ## Consistency -/

/-- Whether every child that exists has the node as its parent that lists it. -/
def Consistent (a : Arena) : Prop :=
  ∀ p c, c ∈ a.childrenOf p → (a.get? c).isSome = true → a.parentOf c = p

/-- It is enough to look at the nodes that there are. -/
theorem consistent_of_forall_indices (hsize : a.size < 2 ^ 32 - 1)
    (h : ∀ p ∈ a.indices, ∀ c ∈ a.childrenOf p, (a.get? c).isSome = true → a.parentOf c = p) :
    a.Consistent := by
  intro p c hc
  refine h p ((isSome_get?_iff_mem_indices hsize).mp ?_) c hc
  unfold childrenOf at hc
  cases hp : a.get? p with
  | none =>
      rw [hp] at hc
      exact absurd hc List.not_mem_nil
  | some n => rfl

/-- What a call calls is one of its children. -/
theorem mem_childrenOf_of_calls (h : a.Calls p i) (hi : (a.get? i).isSome = true) : i ∈ a.childrenOf p := by
  obtain ⟨call, hcall, rfl⟩ := h
  exact mem_childrenOf_of_childSlot hcall List.mem_cons_self (isSome_get?_iff.mp hi).1

/-- In a consistent tree, nothing but its parent calls a node. -/
theorem Consistent.eq_parentOf (ha : a.Consistent) (h : a.Calls p i) (hi : (a.get? i).isSome = true) :
    p = a.parentOf i :=
  (ha p i (mem_childrenOf_of_calls h hi) hi).symm

theorem isSome_get?_of_kindAt? (h : a.kindAt? i = some k) : (a.get? i).isSome = true := by
  unfold kindAt? payload? at h
  cases hi : a.get? i with
  | none =>
      rw [hi] at h
      cases h
  | some n => rfl

theorem isSome_get?_of_calls (h : a.Calls p i) : (a.get? p).isSome = true := by
  obtain ⟨call, hcall, -⟩ := h
  exact isSome_get?_of_payload? hcall

/-! ## Correspondence -/

/-- Whether a node is a call of something of a given kind. -/
def isCallOf (a : Arena) (k : Kind) (n : Node) : Bool :=
  match n.payload with
  | .call call => a.kindAt? call.callee == some k
  | _ => false

/-- A node is a call of some kind exactly when it calls a node of this kind. -/
theorem any_isCallOf_iff :
    (a.get? p).any (a.isCallOf k) = true ↔ ∃ i, a.Calls p i ∧ a.kindAt? i = some k := by
  unfold Calls payload?
  cases a.get? p with
  | none => simp
  | some n =>
      obtain ⟨flags, pos, stop, parent, payload⟩ := n
      cases payload <;> simp [isCallOf]

theorem any_kind_iff : (a.get? i).any (·.kind == k) = true ↔ a.kindAt? i = some k := by
  unfold kindAt? payload?
  cases a.get? i with
  | none => simp
  | some n => simp [Node.kind]

/-- **Called nodes of a kind and calls of such a node correspond**, by going to the parent. -/
theorem perm_map_parentOf (ha : a.Consistent) (hsize : a.size < 2 ^ 32 - 1) (k : Kind) :
    ((a.indices.filter fun i => (a.get? i).any (·.kind == k) && a.isCalleeOfParent i).map a.parentOf).Perm
      (a.indices.filter fun p => (a.get? p).any (a.isCallOf k)) := by
  have hcalled : ∀ i, ((a.get? i).any (·.kind == k) && a.isCalleeOfParent i) = true ↔
      a.kindAt? i = some k ∧ a.Calls (a.parentOf i) i := by
    intro i
    rw [Bool.and_eq_true, any_kind_iff, isCalleeOfParent_iff]
  refine (List.perm_ext_iff_of_nodup ?_ ((nodup_indices a).filter _)).mpr ?_
  · -- a call has one callee, so different callees have different calls
    refine List.Nodup.map_on ?_ ((nodup_indices a).filter _)
    intro i hi j hj he
    rw [List.mem_filter, hcalled] at hi hj
    obtain ⟨-, -, calli, hcalli, rfl⟩ := hi
    obtain ⟨-, -, callj, hcallj, rfl⟩ := hj
    rw [he, hcallj] at hcalli
    obtain ⟨⟩ := hcalli
    rfl
  · intro p
    rw [List.mem_map, List.mem_filter, any_isCallOf_iff]
    constructor
    · rintro ⟨i, hi, rfl⟩
      rw [List.mem_filter, hcalled] at hi
      obtain ⟨-, hk, hcalls⟩ := hi
      exact ⟨(isSome_get?_iff_mem_indices hsize).mp (isSome_get?_of_calls hcalls), i, hcalls, hk⟩
    · rintro ⟨-, i, hcalls, hk⟩
      have hi := isSome_get?_of_kindAt? hk
      have hp := ha.eq_parentOf hcalls hi
      subst hp
      refine ⟨i, ?_, rfl⟩
      rw [List.mem_filter, hcalled]
      exact ⟨(isSome_get?_iff_mem_indices hsize).mp hi, hk, hcalls⟩

/-- **The nodes of a kind are those that are not called, and one for each call of such a node.** -/
theorem countP_conserved (ha : a.Consistent) (hsize : a.size < 2 ^ 32 - 1) (k : Kind) :
    (a.indices.countP fun i => (a.get? i).any (·.kind == k) && !a.isCalleeOfParent i) +
        a.nodes.countP (a.isCallOf k) =
      a.nodes.countP (·.kind == k) := by
  have hcalls : a.nodes.countP (a.isCallOf k) =
      a.indices.countP fun i => (a.get? i).any (·.kind == k) && a.isCalleeOfParent i := by
    rw [countP_nodes hsize, List.countP_eq_length_filter, List.countP_eq_length_filter,
      ← (perm_map_parentOf ha hsize k).length_eq, List.length_map]
  -- the nodes of the kind, split by whether they are called
  have hsplit := List.length_eq_countP_add_countP a.isCalleeOfParent
    (l := a.indices.filter fun i => (a.get? i).any (·.kind == k))
  rw [← List.countP_eq_length_filter, List.countP_filter, List.countP_filter] at hsplit
  rw [hcalls, countP_nodes hsize, hsplit, Nat.add_comm]
  congr 1
  · exact List.countP_congr fun i _ => by simp [Bool.and_comm]
  · exact List.countP_congr fun i _ => by simp [Bool.and_comm]

end Arena

/-! ## Shapes -/

namespace Report

variable {a : Arena}

/-- An access that is not called is a field access of its kind. -/
theorem countP_fieldAccess {s : Shape} {k : Kind}
    (hs : ∀ i, s.holds a i = true ↔ a.kindAt? i = some k ∧ ¬a.Calls (a.parentOf i) i) :
    (a.indices.countP fun i => s.holds a i) =
      a.indices.countP fun i => (a.get? i).any (·.kind == k) && !a.isCalleeOfParent i := by
  refine List.countP_congr ?_
  intro i _
  rw [hs, Bool.and_eq_true, Arena.any_kind_iff, ← Arena.isCalleeOfParent_iff]
  simp

/-- A method call is a call of a property access. -/
theorem countP_methodCall (hsize : a.size < 2 ^ 32 - 1) :
    (a.indices.countP fun i => Shape.methodCall.holds a i) =
      a.nodes.countP (a.isCallOf .propertyAccess) := by
  rw [Arena.countP_nodes hsize]
  refine List.countP_congr ?_
  intro i _
  rw [Arena.any_isCallOf_iff]
  show (a.methodCall? i).isSome = true ↔ _
  rw [Option.isSome_iff_exists]
  simp only [Arena.methodCall?_eq_some_iff]
  constructor
  · rintro ⟨m, call, access, hcall, haccess, rfl⟩
    refine ⟨call.callee, ⟨call, hcall, rfl⟩, ?_⟩
    unfold Arena.kindAt?
    rw [haccess]
    rfl
  · rintro ⟨c, ⟨call, hcall, rfl⟩, hk⟩
    obtain ⟨payload, hpayload, hkind⟩ := Option.map_eq_some_iff.mp hk
    cases payload with
    | propertyAccess access => exact ⟨_, call, access, hcall, hpayload, rfl⟩
    | _ => cases hkind

/-- **Accesses are conserved.** In a consistent tree without malformed nodes, whatever the options: the
    field accesses and the method calls are together as many as the property accesses, and the field
    accesses by element with the calls of an element access as many as the element accesses. For each
    access by itself: either it is a field access and nothing calls it, or it is none and one call does. -/
theorem accesses_conserved (l : Load.Loaded) (o : Options) (hsize : l.arena.size < 2 ^ 32 - 1)
    (hconsistent : l.arena.Consistent) (hmalformed : l.malformed = []) :
    (ofLoaded l o).count .fieldPropertyAccess + (ofLoaded l o).count .methodCall =
        l.arena.nodes.countP (·.kind == .propertyAccess) ∧
      (ofLoaded l o).count .fieldElementAccess + l.arena.nodes.countP (l.arena.isCallOf .elementAccess) =
        l.arena.nodes.countP (·.kind == .elementAccess) ∧
      ∀ i, l.arena.kindAt? i = some .propertyAccess ∨ l.arena.kindAt? i = some .elementAccess →
        ((.fieldPropertyAccess ∈ l.arena.classify i ∨ .fieldElementAccess ∈ l.arena.classify i) ∧
            ¬∃ p, l.arena.Calls p i) ∨
          (.fieldPropertyAccess ∉ l.arena.classify i ∧ .fieldElementAccess ∉ l.arena.classify i ∧
            ∃! p, l.arena.Calls p i) := by
  obtain ⟨a, malformed, events⟩ := l
  subst hmalformed
  have hall : usableIndices a [] = a.indices := List.filter_eq_self.mpr fun _ _ => rfl
  have hcount : ∀ s : Shape, (build a [] o).count s = a.indices.countP fun i => s.holds a i := by
    intro s
    rw [count_build, tally_allEntries, hall]
  refine ⟨?_, ?_, ?_⟩
  · show (build a [] o).count .fieldPropertyAccess + (build a [] o).count .methodCall = _
    rw [hcount, hcount, countP_methodCall hsize,
      countP_fieldAccess (s := .fieldPropertyAccess) fun _ => Arena.isFieldPropertyAccess_iff]
    exact Arena.countP_conserved hconsistent hsize .propertyAccess
  · show (build a [] o).count .fieldElementAccess + _ = _
    rw [hcount, countP_fieldAccess (s := .fieldElementAccess) fun _ => Arena.isFieldElementAccess_iff]
    exact Arena.countP_conserved hconsistent hsize .elementAccess
  · intro i hk
    have hsome : (a.get? i).isSome = true := hk.elim Arena.isSome_get?_of_kindAt? Arena.isSome_get?_of_kindAt?
    simp only [Arena.mem_classify, Shape.holds, Arena.isFieldPropertyAccess_iff,
      Arena.isFieldElementAccess_iff]
    by_cases hcalled : a.Calls (a.parentOf i) i
    · refine Or.inr ⟨fun h => h.2 hcalled, fun h => h.2 hcalled, a.parentOf i, hcalled, ?_⟩
      intro p hp
      exact hconsistent.eq_parentOf hp hsome
    · refine Or.inl ⟨hk.imp (fun h => ⟨h, hcalled⟩) fun h => ⟨h, hcalled⟩, ?_⟩
      rintro ⟨p, hp⟩
      rw [hconsistent.eq_parentOf hp hsome] at hp
      exact hcalled hp

/-- `a.b()` and `c.d[e]()`, without anything malformed. -/
def calledAccesses : Load.Loaded where
  arena := .build [.identifier 0 1 "a", .identifier 2 3 "b", .propertyAccess (.ofNat 0) (.ofNat 1),
    .call (.ofNat 2) [] 5, .identifier 6 7 "c", .identifier 8 9 "d",
    .propertyAccess (.ofNat 4) (.ofNat 5), .identifier 10 11 "e",
    .elementAccess (.ofNat 6) (.ofNat 7) 12, .call (.ofNat 8) [] 14]
  malformed := []
  events := []

/-- Of the two property accesses the first is called, and the second is not; what the second call calls is
    the only element access. -/
theorem accesses_conserved_calledAccesses :
    calledAccesses.arena.size < 2 ^ 32 - 1 ∧ calledAccesses.arena.Consistent ∧
      (ofLoaded calledAccesses {}).count .fieldPropertyAccess +
        (ofLoaded calledAccesses {}).count .methodCall = 2 ∧
      (ofLoaded calledAccesses {}).count .fieldElementAccess + 1 = 1 := by
  have hsize : calledAccesses.arena.size < 2 ^ 32 - 1 := by decide
  have hconsistent : calledAccesses.arena.Consistent :=
    Arena.consistent_of_forall_indices hsize (by decide)
  obtain ⟨hproperty, helement, -⟩ := accesses_conserved calledAccesses {} hsize hconsistent rfl
  exact ⟨hsize, hconsistent, hproperty.trans (by decide), helement.trans (by decide)⟩

end Report

end SyntaxShapes
