import SyntaxShapes.Proofs.Load.Loop

/-!
# `SyntaxShapes.Proofs.Load.Alignment` — no raw node moves another

A tree is loaded from a list of raw nodes, some of which cannot be used. `Aligned` says how the loaded
tree stands to that list: one node for each raw node, in place; one record for each raw node that cannot be
used, in order of position. `load_alignment` says that every value that holds raw nodes is loaded, and
aligned with them.

A record names its position in thirty-two bits. That the records stand in order of position is said of the
positions themselves, for lists of any length; the recorded numbers are the positions as long as the list
is not longer than thirty-two bits can count.

## Contents
- **Raw nodes.** `HoldsNodes`, where a value keeps them; `rawNodes_eq_ok_iff`.
- **One node.** `Usable`; `readNode_eq_ok_iff`, `readNode_eq_error_iff`.
- **Records.** `failures`, the positions that failed, with the reasons.
- **All nodes.** `Aligned`, `aligned_ofResults`; `exists_mem_malformed_iff`, `isEmpty_malformed_iff`.
- **Recorded numbers.** `mem_malformed_iff`, `pairwise_malformed`, `mem_index_malformed_iff`.
- **Loading.** `exists_load_iff`, `load_alignment`.
-/

namespace SyntaxShapes.Load

open Json (Value ReadError)

/-! ## Raw nodes -/

/-- Where a value keeps raw nodes: it is an array of them, or an object with that array under `nodes`. -/
inductive HoldsNodes : Value → List Value → Prop
  | array (raws : List Value) : HoldsNodes (.array raws) raws
  | object {ms : Json.Members} {raws : List Value} (h : ms.get? "nodes" = some (.array raws)) :
      HoldsNodes (.object ms) raws

theorem rawNodes_eq_ok_iff {v : Value} {raws : List Value} : rawNodes v = .ok raws ↔ HoldsNodes v raws := by
  constructor
  · intro h
    unfold rawNodes at h
    split at h
    · obtain rfl := Except.ok.inj h
      exact .array _
    · split at h
      · rename_i hget
        obtain rfl := Except.ok.inj h
        exact .object hget
      · cases h
      · cases h
    · cases h
  · intro h
    cases h with
    | array => rfl
    | object hget => simp only [rawNodes, hget]

/-- What loading gives is the tree made of the results for the raw nodes. -/
theorem load_eq_ok_iff {v : Value} {l : Loaded} :
    load v = .ok l ↔ ∃ raws, HoldsNodes v raws ∧ l = .ofResults (raws.map readNode) := by
  rw [load_eq_map]
  constructor
  · intro h
    cases hr : rawNodes v with
    | error e => rw [hr] at h; cases h
    | ok raws =>
        rw [hr] at h
        exact ⟨raws, rawNodes_eq_ok_iff.mp hr, (Except.ok.inj h).symm⟩
  · rintro ⟨raws, hraws, rfl⟩
    rw [rawNodes_eq_ok_iff.mpr hraws]
    rfl

/-! ## One node -/

/-- Whether a raw node can be used: it passes the guard, and its fields can be read. -/
def Usable (r : Value) : Prop := isNode r = true ∧ ∃ n, Node.read r = .ok n

theorem isNode_eq_false_iff {r : Value} : isNode r = false ↔ ∃ fault, guardFault? r = some fault := by
  unfold isNode
  cases guardFault? r with
  | none => simp
  | some fault => simp

theorem mapError_eq_ok_iff {α ε ε' : Type} {f : ε → ε'} {x : Except ε α} {a : α} :
    x.mapError f = .ok a ↔ x = .ok a := by
  constructor
  · intro h
    cases x with
    | error e => cases h
    | ok b => exact congrArg _ (Except.ok.inj h)
  · rintro rfl
    rfl

theorem mapError_eq_error_iff {α ε ε' : Type} {f : ε → ε'} {x : Except ε α} {e' : ε'} :
    x.mapError f = .error e' ↔ ∃ e, x = .error e ∧ f e = e' := by
  constructor
  · intro h
    cases x with
    | error e => exact ⟨e, rfl, Except.error.inj h⟩
    | ok b => cases h
  · rintro ⟨e, rfl, rfl⟩
    rfl

/-- A raw node is read exactly when it passes the guard and its fields can be read. -/
theorem readNode_eq_ok_iff {r : Value} {n : Node} :
    readNode r = .ok n ↔ isNode r = true ∧ Node.read r = .ok n := by
  unfold readNode isNode
  cases guardFault? r with
  | some fault => simp
  | none => simp [mapError_eq_ok_iff]

theorem readNode_eq_error_iff {r : Value} {reason : Reason} :
    readNode r = .error reason ↔
      (∃ fault, guardFault? r = some fault ∧ .guard fault = reason) ∨
        (isNode r = true ∧ ∃ e, Node.read r = .error e ∧ .read e = reason) := by
  unfold readNode isNode
  cases guardFault? r with
  | some fault => simp
  | none => simp [mapError_eq_error_iff]

/-- A raw node fails exactly when it cannot be used. -/
theorem exists_readNode_eq_error_iff {r : Value} : (∃ reason, readNode r = .error reason) ↔ ¬Usable r := by
  constructor
  · rintro ⟨reason, hr⟩ ⟨hguard, n, hn⟩
    rw [readNode_eq_ok_iff.mpr ⟨hguard, hn⟩] at hr
    cases hr
  · intro h
    cases hr : readNode r with
    | error reason => exact ⟨reason, rfl⟩
    | ok n =>
        obtain ⟨hguard, hn⟩ := readNode_eq_ok_iff.mp hr
        exact absurd ⟨hguard, n, hn⟩ h

/-! ## Records -/

/-- The positions of the failures among some results, in order, with their reasons. -/
def failures (results : List (Except Reason Node)) : List (Nat × Reason) :=
  results.zipIdx.filterMap fun
    | (.ok _, _) => none
    | (.error reason, i) => some (i, reason)

/-- The failures are the errors among the results, with their positions. -/
theorem mem_failures {results : List (Except Reason Node)} {i : Nat} {reason : Reason} :
    (i, reason) ∈ failures results ↔ results[i]? = some (.error reason) := by
  unfold failures
  rw [List.mem_filterMap, ← List.mk_mem_zipIdx_iff_getElem?]
  constructor
  · rintro ⟨⟨result, j⟩, hmem, heq⟩
    cases result with
    | ok n => cases heq
    | error e =>
        obtain ⟨rfl, rfl⟩ := Prod.mk.inj (Option.some.inj heq)
        exact hmem
  · intro hmem
    exact ⟨_, hmem, rfl⟩

/-- Failures stand in order of position, each position once. -/
theorem pairwise_failures (results : List (Except Reason Node)) :
    (failures results).Pairwise fun f g => f.1 < g.1 := by
  -- the positions are a range, and leaving some out keeps their order
  have hzip : results.zipIdx.Pairwise fun a b => a.2 < b.2 := by
    rw [← List.pairwise_map (f := Prod.snd), List.zipIdx_map_snd]
    exact List.pairwise_lt_range'
  unfold failures
  rw [List.pairwise_filterMap]
  refine hzip.imp ?_
  rintro ⟨a, i⟩ ⟨b, j⟩ hij f hf g hg
  cases a with
  | ok n => cases hf
  | error e =>
      cases b with
      | ok n => cases hg
      | error e' =>
          obtain rfl := Option.some.inj hf
          obtain rfl := Option.some.inj hg
          exact hij

/-- There is one record for each failure. -/
theorem malformed_ofResults (results : List (Except Reason Node)) :
    (Loaded.ofResults results).malformed = (failures results).map fun f => ⟨.ofNat f.1, f.2⟩ := by
  unfold failures
  rw [List.map_filterMap]
  show results.zipIdx.filterMap malformedOf? = _
  congr 1
  funext r
  obtain ⟨result, i⟩ := r
  cases result with
  | ok n => rfl
  | error e => rfl

/-! ## All nodes -/

/-- Whether the wording of a reason says why a raw node cannot be used: the guard's own text where the
    guard refused it, and else the text of the fault that reading it met. -/
def Explains (reason : Reason) (r : Value) : Prop :=
  (isNode r = false ∧ reason.message = "missing one of kind, flags, pos, end") ∨
    (isNode r = true ∧ ∃ e, Node.read r = .error e ∧ reason.message = e.message)

/-- The reason for which a raw node fails explains it. -/
theorem explains_of_readNode_eq_error {r : Value} {reason : Reason} (h : readNode r = .error reason) :
    Explains reason r := by
  rcases readNode_eq_error_iff.mp h with ⟨fault, hfault, rfl⟩ | ⟨hguard, e, he, rfl⟩
  · exact Or.inl ⟨isNode_eq_false_iff.mpr ⟨fault, hfault⟩, rfl⟩
  · exact Or.inr ⟨hguard, e, he, rfl⟩

/-- A loaded tree in step with the raw nodes that it was loaded from. -/
structure Aligned (raws : List Value) (l : Loaded) : Prop where
  /-- Every raw node has its place, and nothing else does. -/
  size : l.arena.size = raws.length
  /-- A usable raw node stands in its place as it reads. -/
  usable : ∀ (i : Nat) (r : Value) (n : Node), raws[i]? = some r → isNode r = true →
    Node.read r = .ok n → l.arena.nodes[i]? = some n
  /-- In the place of any other stands an unknown token, without flags, span or parent. -/
  unusable : ∀ (i : Nat) (r : Value), raws[i]? = some r → ¬Usable r →
    l.arena.nodes[i]? = some ⟨0, 0, 0, .absent, .token ⟨.unknown⟩⟩
  /-- The records are those of the positions that cannot be used: each once, in order, and each with a
      reason that explains it. -/
  records : ∃ fs : List (Nat × Reason),
    l.malformed = fs.map (fun f => ⟨.ofNat f.1, f.2⟩) ∧
    fs.Pairwise (fun f g => f.1 < g.1) ∧
    (∀ i : Nat, (∃ reason, (i, reason) ∈ fs) ↔ ∃ r, raws[i]? = some r ∧ ¬Usable r) ∧
    ∀ (i : Nat) (reason : Reason) (r : Value), (i, reason) ∈ fs → raws[i]? = some r → Explains reason r

variable {raws : List Value}

theorem nodes_ofResults (results : List (Except Reason Node)) (i : Nat) :
    (Loaded.ofResults results).arena.nodes[i]? = results[i]?.map nodeOf := by
  simp [Loaded.ofResults]

theorem mem_failures_map_readNode {i : Nat} {reason : Reason} :
    (i, reason) ∈ failures (raws.map readNode) ↔ ∃ r, raws[i]? = some r ∧ readNode r = .error reason := by
  rw [mem_failures, List.getElem?_map, Option.map_eq_some_iff]

/-- The tree made of the results is aligned with the raw nodes. -/
theorem aligned_ofResults (raws : List Value) : Aligned raws (.ofResults (raws.map readNode)) where
  size := by
    rw [Loaded.size_ofResults, List.length_map]
  usable i r n hr hguard hn := by
    rw [nodes_ofResults, List.getElem?_map, hr, Option.map_some, readNode_eq_ok_iff.mpr ⟨hguard, hn⟩]
    rfl
  unusable i r hr hbad := by
    obtain ⟨reason, hreason⟩ := exists_readNode_eq_error_iff.mpr hbad
    rw [nodes_ofResults, List.getElem?_map, hr, Option.map_some, hreason]
    rfl
  records := by
    refine ⟨failures (raws.map readNode), malformed_ofResults _, pairwise_failures _, ?_, ?_⟩
    · intro i
      constructor
      · rintro ⟨reason, hmem⟩
        obtain ⟨r, hr, hreason⟩ := mem_failures_map_readNode.mp hmem
        exact ⟨r, hr, exists_readNode_eq_error_iff.mp ⟨reason, hreason⟩⟩
      · rintro ⟨r, hr, hbad⟩
        obtain ⟨reason, hreason⟩ := exists_readNode_eq_error_iff.mpr hbad
        exact ⟨reason, mem_failures_map_readNode.mpr ⟨r, hr, hreason⟩⟩
    · intro i reason r hmem hr
      obtain ⟨r', hr', hreason⟩ := mem_failures_map_readNode.mp hmem
      obtain rfl := Option.some.inj (hr.symm.trans hr')
      exact explains_of_readNode_eq_error hreason

/-- For any number of raw nodes, the reasons on record are those for which some raw node cannot be used. -/
theorem exists_mem_malformed_iff {reason : Reason} :
    (∃ m ∈ (Loaded.ofResults (raws.map readNode)).malformed, m.reason = reason) ↔
      ∃ r ∈ raws, readNode r = .error reason := by
  rw [malformed_ofResults]
  constructor
  · rintro ⟨m, hm, rfl⟩
    obtain ⟨⟨i, e⟩, hmem, rfl⟩ := List.mem_map.mp hm
    obtain ⟨r, hr, he⟩ := mem_failures_map_readNode.mp hmem
    exact ⟨r, List.mem_of_getElem? hr, he⟩
  · rintro ⟨r, hr, he⟩
    obtain ⟨i, hi⟩ := List.mem_iff_getElem?.mp hr
    exact ⟨_, List.mem_map_of_mem (mem_failures_map_readNode.mpr ⟨r, hi, he⟩), rfl⟩

/-- Nothing is on record exactly when every raw node can be used. -/
theorem isEmpty_malformed_iff :
    (Loaded.ofResults (raws.map readNode)).malformed.isEmpty = true ↔ ∀ r ∈ raws, Usable r := by
  rw [List.isEmpty_iff, List.eq_nil_iff_forall_not_mem]
  constructor
  · intro h r hr
    refine Classical.byContradiction fun hbad => ?_
    obtain ⟨reason, he⟩ := exists_readNode_eq_error_iff.mpr hbad
    obtain ⟨m, hm, -⟩ := exists_mem_malformed_iff.mpr ⟨r, hr, he⟩
    exact h m hm
  · intro h m hm
    obtain ⟨r, hr, he⟩ := exists_mem_malformed_iff.mp ⟨m, hm, rfl⟩
    exact exists_readNode_eq_error_iff.mp ⟨m.reason, he⟩ (h r hr)

/-! ## Recorded numbers -/

/-- While the positions fit thirty-two bits, a record is there exactly for the raw node at the position
    that it names, and depends on that raw node alone. -/
theorem mem_malformed_iff (hlen : raws.length ≤ 2 ^ 32) {m : Malformed} :
    m ∈ (Loaded.ofResults (raws.map readNode)).malformed ↔
      ∃ r, raws[m.index.toNat]? = some r ∧ readNode r = .error m.reason := by
  rw [malformed_ofResults, List.mem_map]
  constructor
  · rintro ⟨⟨i, reason⟩, hmem, rfl⟩
    obtain ⟨r, hr, hreason⟩ := mem_failures_map_readNode.mp hmem
    have hi : i < raws.length := (List.getElem?_eq_some_iff.mp hr).1
    refine ⟨r, ?_, hreason⟩
    show raws[(UInt32.ofNat i).toNat]? = some r
    rw [UInt32.toNat_ofNat_of_lt' (Nat.lt_of_lt_of_le hi hlen)]
    exact hr
  · -- a recorded number is a position as it stands, whatever the length
    rintro ⟨r, hr, hreason⟩
    refine ⟨(m.index.toNat, m.reason), mem_failures_map_readNode.mpr ⟨r, hr, hreason⟩, ?_⟩
    show (⟨.ofNat m.index.toNat, m.reason⟩ : Malformed) = m
    rw [UInt32.ofNat_toNat]

/-- While the positions fit thirty-two bits, the recorded numbers increase. -/
theorem pairwise_malformed (hlen : raws.length ≤ 2 ^ 32) :
    ((Loaded.ofResults (raws.map readNode)).malformed.map (·.index)).Pairwise (· < ·) := by
  rw [malformed_ofResults, List.map_map, List.pairwise_map]
  refine (pairwise_failures _).imp_of_mem ?_
  rintro ⟨i, e⟩ ⟨j, e'⟩ hi hj hij
  obtain ⟨r, hr, -⟩ := mem_failures_map_readNode.mp hi
  obtain ⟨r', hr', -⟩ := mem_failures_map_readNode.mp hj
  have hi' : i < raws.length := (List.getElem?_eq_some_iff.mp hr).1
  have hj' : j < raws.length := (List.getElem?_eq_some_iff.mp hr').1
  show UInt32.ofNat i < UInt32.ofNat j
  rw [UInt32.lt_iff_toNat_lt, UInt32.toNat_ofNat_of_lt' (Nat.lt_of_lt_of_le hi' hlen),
    UInt32.toNat_ofNat_of_lt' (Nat.lt_of_lt_of_le hj' hlen)]
  exact hij

/-- While the positions fit thirty-two bits, the recorded numbers are the positions that cannot be used. -/
theorem mem_index_malformed_iff (hlen : raws.length ≤ 2 ^ 32) {i : UInt32} :
    i ∈ (Loaded.ofResults (raws.map readNode)).malformed.map (·.index) ↔
      ∃ r, raws[i.toNat]? = some r ∧ ¬Usable r := by
  rw [List.mem_map]
  constructor
  · rintro ⟨m, hm, rfl⟩
    obtain ⟨r, hr, hreason⟩ := (mem_malformed_iff hlen).mp hm
    exact ⟨r, hr, exists_readNode_eq_error_iff.mp ⟨m.reason, hreason⟩⟩
  · rintro ⟨r, hr, hbad⟩
    obtain ⟨reason, hreason⟩ := exists_readNode_eq_error_iff.mpr hbad
    exact ⟨⟨i, reason⟩, (mem_malformed_iff hlen).mpr ⟨r, hr, hreason⟩, rfl⟩

/-! ## Loading -/

theorem load_eq_ofResults {v : Value} (h : HoldsNodes v raws) :
    load v = .ok (.ofResults (raws.map readNode)) :=
  load_eq_ok_iff.mpr ⟨raws, h, rfl⟩

theorem exists_load_iff {v : Value} : (∃ l, load v = .ok l) ↔ ∃ raws, HoldsNodes v raws := by
  constructor
  · rintro ⟨l, hl⟩
    obtain ⟨raws, hraws, -⟩ := load_eq_ok_iff.mp hl
    exact ⟨raws, hraws⟩
  · rintro ⟨raws, hraws⟩
    exact ⟨_, load_eq_ofResults hraws⟩

/-- **Loading keeps positions.** Exactly the values that hold raw nodes are loaded, whatever else stands
    beside `nodes`, and the loaded tree is aligned with them. What becomes of a raw node, as a node and as
    a record, is the same in every list that has it at the same position. -/
theorem load_alignment (v : Value) :
    ((∃ l, load v = .ok l) ↔ ∃ raws, HoldsNodes v raws) ∧
      ∀ raws, HoldsNodes v raws → load v = load (.array raws) ∧
        ∃ l, load v = .ok l ∧ Aligned raws l ∧
          (raws.length ≤ 2 ^ 32 →
            (l.malformed.map (·.index)).Pairwise (· < ·) ∧
              ∀ i : UInt32,
                i ∈ l.malformed.map (·.index) ↔ ∃ r, raws[i.toNat]? = some r ∧ ¬Usable r) ∧
          ∀ raws' l', load (.array raws') = .ok l' → ∀ i : Nat, raws[i]? = raws'[i]? →
            l.arena.nodes[i]? = l'.arena.nodes[i]? ∧
              (raws.length ≤ 2 ^ 32 → raws'.length ≤ 2 ^ 32 → ∀ m : Malformed, m.index.toNat = i →
                (m ∈ l.malformed ↔ m ∈ l'.malformed)) := by
  refine ⟨exists_load_iff, ?_⟩
  intro raws hraws
  have hload := load_eq_ofResults hraws
  refine ⟨hload.trans (load_eq_ofResults (.array raws)).symm, _, hload, aligned_ofResults raws, ?_, ?_⟩
  · intro hlen
    exact ⟨pairwise_malformed hlen, fun i => mem_index_malformed_iff hlen⟩
  · -- node and record are functions of the raw node and its position
    intro raws' l' hl' i hi
    obtain ⟨_, ⟨⟩, rfl⟩ := load_eq_ok_iff.mp hl'
    refine ⟨?_, ?_⟩
    · rw [nodes_ofResults, nodes_ofResults, List.getElem?_map, List.getElem?_map, hi]
    · rintro hlen hlen' m rfl
      rw [mem_malformed_iff hlen, mem_malformed_iff hlen', hi]

end SyntaxShapes.Load
