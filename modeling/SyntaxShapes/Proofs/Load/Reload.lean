import SyntaxShapes.Proofs.Arena.Adoption
import SyntaxShapes.Proofs.Decimal.Overflow
import SyntaxShapes.Proofs.Load.Alignment
import SyntaxShapes.Proofs.Node.RoundTrip

/-!
# `SyntaxShapes.Proofs.Load.Reload` — a tree that is written can be loaded again

Writing a tree and loading what was written gives the tree back but for the loss of `Node.kept`: no node is
refused, and each is what writing kept of it (`load_written`). What remains is to say which trees lose
nothing.

* A tree that was loaded loses nothing. However its nodes were spelled the first time, loading settles them
  at once: every later round gives the same tree (`load_settles`).
* A tree that was built loses the values of the literals that are no real numbers. A numeric literal has
  such a value when its text is `inf` or `nan`, or a number past the largest real one, such as `1e400`
  (`load_build_iff`).

## Contents
- **Written trees.** `Arena.kept`, `Arena.HasRealValues`; `Written`, the two forms of a written tree;
  `load_written`.
- **Loaded trees.** `hasRealValues_of_load`, `load_settles`.
- **Built trees.** `Call.HasRealValue`, `hasRealValues_build_iff`, `load_build_iff`.
-/

namespace SyntaxShapes

open Json (Value)

/-! ## Written trees -/

namespace Arena

/-- What is left of a tree once it is written. -/
def kept (a : Arena) : Arena := ⟨a.nodes.map Node.kept⟩

/-- Whether no literal in a tree has a value other than a real number. -/
def HasRealValues (a : Arena) : Prop := ∀ n ∈ a.nodes, n.HasRealValue

/-- Writing keeps a tree exactly when its literals have real values, or none. -/
theorem kept_eq_self_iff {a : Arena} : a.kept = a ↔ a.HasRealValues := by
  obtain ⟨nodes⟩ := a
  unfold kept HasRealValues
  rw [Arena.mk.injEq, Array.map_eq_iff]
  constructor
  · intro h n hn
    obtain ⟨i, hi, rfl⟩ := Array.mem_iff_getElem.mp hn
    have hsome := h i
    rw [Array.getElem?_eq_getElem hi, Option.map_some] at hsome
    exact Node.kept_eq_self_iff.mp (Option.some.inj hsome).symm
  · intro h i
    cases hn : nodes[i]? with
    | none => rfl
    | some n =>
        rw [Option.map_some, Node.kept_eq_self_iff.mpr (h n (Array.mem_of_getElem? hn))]

end Arena

namespace Load

/-- A written tree: the object that holds its nodes, or the bare array of them. -/
inductive Written (a : Arena) : Value → Prop
  | object : Written a a.toJson
  | array : Written a a.nodesJson

/-- Both written forms of a tree hold its nodes. -/
theorem Written.holdsNodes {a : Arena} {w : Value} (h : Written a w) :
    HoldsNodes w (a.nodes.toList.map Node.toJson) := by
  cases h with
  | object => exact .object rfl
  | array => exact .array _

/-- A written node is usable and reads back as what writing keeps of it. -/
theorem readNode_toJson (n : Node) : readNode n.toJson = .ok n.kept :=
  readNode_eq_ok_iff.mpr ⟨n.isNode_toJson, n.read_toJson⟩

theorem failures_map_ok (ns : List Node) : failures (ns.map .ok) = [] := by
  rw [List.eq_nil_iff_forall_not_mem]
  rintro ⟨i, reason⟩ hmem
  rw [mem_failures, List.getElem?_map, Option.map_eq_some_iff] at hmem
  obtain ⟨n, -, hn⟩ := hmem
  cases hn

theorem arena_ofResults_map_ok (ns : List Node) : (Loaded.ofResults (ns.map .ok)).arena = ⟨ns.toArray⟩ := by
  unfold Loaded.ofResults
  have hid : nodeOf ∘ Except.ok = id := rfl
  rw [List.map_map, hid, List.map_id]

/-- **A written tree is loaded without a malformed node, as what writing kept of it.** -/
theorem load_written {a : Arena} {w : Value} (h : Written a w) :
    ∃ l, load w = .ok l ∧ l.malformed = [] ∧ l.arena = a.kept := by
  -- no written node fails, so there are no records, and the nodes are those that were kept
  have hread : (a.nodes.toList.map Node.toJson).map readNode = (a.nodes.toList.map Node.kept).map .ok := by
    simp only [List.map_map, Function.comp_def, readNode_toJson]
  refine ⟨_, load_eq_ofResults h.holdsNodes, ?_, ?_⟩
  · rw [hread, malformed_ofResults, failures_map_ok]
    rfl
  · rw [hread, arena_ofResults_map_ok, ← Array.toList_map, Array.toArray_toList]
    rfl

/-! ## Loaded trees -/

theorem inRange_of_holdsNodes {v : Value} {raws : List Value} (hv : v.InRange) (h : HoldsNodes v raws) :
    ∀ r ∈ raws, r.InRange := by
  cases h with
  | array =>
      cases hv with
      | array hvs => exact hvs
  | object hget =>
      cases hv with
      | object hms =>
          cases hms _ (Json.Members.mem_of_get?_eq_some hget) with
          | array hvs => exact hvs

/-- Neither a node that was read nor the placeholder has a value to lose. -/
theorem hasRealValue_nodeOf_readNode {r : Value} (hr : r.InRange) : (nodeOf (readNode r)).HasRealValue := by
  cases hn : readNode r with
  | error reason => exact fun x hx => nomatch hx
  | ok n => exact Node.hasRealValue_of_read hr (readNode_eq_ok_iff.mp hn).2

/-- What is loaded from a value in range has real values only. -/
theorem hasRealValues_of_load {v : Value} {l : Loaded} (hv : v.InRange) (h : load v = .ok l) :
    l.arena.HasRealValues := by
  obtain ⟨raws, hraws, rfl⟩ := load_eq_ok_iff.mp h
  intro n hn
  obtain ⟨i, hi⟩ := Array.mem_iff_getElem?.mp hn
  rw [nodes_ofResults, List.getElem?_map, Option.map_map, Option.map_eq_some_iff] at hi
  obtain ⟨r, hr, rfl⟩ := hi
  exact hasRealValue_nodeOf_readNode (inRange_of_holdsNodes hv hraws r (List.mem_of_getElem? hr))

/-- **Loading settles at once.** A node whose literal value is absent or a real number passes the guard when
    it is written, and reads as itself. Every text has only numbers in range. So a tree that was loaded from
    such numbers, in whatever spelling, comes back the same from each of its written forms, with no malformed
    node. -/
theorem load_settles :
    (∀ n : Node, n.HasRealValue → isNode n.toJson = true ∧ Node.read n.toJson = .ok n) ∧
      (∀ (text : String) (v : Value), Json.parse? text = some v → v.InRange) ∧
      ∀ (v : Value) (l : Loaded), v.InRange → load v = .ok l →
        ∀ w, Written l.arena w → ∃ l', load w = .ok l' ∧ l'.malformed = [] ∧ l'.arena = l.arena := by
  refine ⟨?_, fun text v hv => Json.inRange_of_parse? hv, ?_⟩
  · intro n hn
    refine ⟨n.isNode_toJson, ?_⟩
    rw [n.read_toJson, Node.kept_eq_self_iff.mpr hn]
  · intro v l hv hl w hw
    obtain ⟨l', hl', hmalformed, harena⟩ := load_written hw
    refine ⟨l', hl', hmalformed, ?_⟩
    rw [harena, Arena.kept_eq_self_iff]
    exact hasRealValues_of_load hv hl

/-- A literal whose kind is given by position and whose value is an integer, and something that is no
    node. -/
def looseNodes : Value :=
  .object [("nodes", .array [
    .object [("kind", .nat 2), ("flags", .nat 0), ("pos", .nat 3), ("end", .nat 4), ("text", .string "5"),
      ("value", .nat 5)],
    .null])]

theorem inRange_looseNodes : looseNodes.InRange := by
  refine .object ?_
  simp only [List.mem_singleton, forall_eq]
  refine .array ?_
  simp only [List.mem_cons, List.not_mem_nil, or_false, forall_eq_or_imp, forall_eq]
  refine ⟨.object ?_, .null⟩
  simp only [List.mem_cons, List.not_mem_nil, or_false, forall_eq_or_imp, forall_eq]
  exact ⟨Value.inRange_nat (by decide), Value.inRange_nat (by decide), Value.inRange_nat (by decide),
    Value.inRange_nat (by decide), .string _, Value.inRange_nat (by decide)⟩

/-- The second loading finds the literal and the placeholder of the first, and nothing malformed. -/
theorem load_settles_looseNodes :
    ∃ l l', load looseNodes = .ok l ∧ l.malformed.map (·.index) = [1] ∧ load l.arena.toJson = .ok l' ∧
      l'.malformed = [] ∧ l'.arena.nodes =
        #[⟨0, 3, 4, .absent, .numericLiteral ⟨"5", some (.ofNat 5)⟩⟩, .placeholder] := by
  obtain ⟨l', hl', hmalformed, harena⟩ := load_settles.2.2 looseNodes _ inRange_looseNodes rfl _ .object
  refine ⟨_, l', rfl, by decide, hl', hmalformed, ?_⟩
  rw [harena]
  decide

end Load

/-! ## Built trees -/

/-- Whether a call makes no literal with a value other than a real number: it is given none, and no text of
    one. -/
def Call.HasRealValue : Call → Prop
  | .node _ _ _ payload => payload.HasRealValue
  | .numericLiteral _ _ text => Numeral.IsReal text
  | _ => True

/-- Whether a call makes a value that is not real can be told from what it is given. -/
theorem Call.hasRealValue_payload_iff {c : Call} : c.payload.HasRealValue ↔ c.HasRealValue := by
  cases c with
  | node => exact Iff.rfl
  | numericLiteral => exact Numeral.isReal_iff
  | _ => exact iff_of_true (fun x hx => nomatch hx) trivial

theorem Arena.hasRealValues_build_iff {cs : List Call} :
    (build cs).HasRealValues ↔ ∀ c ∈ cs, c.HasRealValue := by
  -- whether a value is real is said of payloads, and those are known for every run
  have hpayloads : (build cs).HasRealValues ↔ ∀ p ∈ (build cs).payloads, p.HasRealValue := by
    simp [HasRealValues, payloads, Node.HasRealValue]
  rw [hpayloads, payloads_build]
  simp [Call.hasRealValue_payload_iff]

namespace Load

/-- **A built tree comes back exactly when no call makes a literal whose value is no real number.** It is
    loaded in any case, without a malformed node; where it does not come back, those values are all that
    is lost. -/
theorem load_build_iff (cs : List Call) {w : Value} (hw : Written (.build cs) w) :
    ∃ l, load w = .ok l ∧ l.malformed = [] ∧ l.arena = (Arena.build cs).kept ∧
      (l.arena = .build cs ↔ ∀ c ∈ cs, c.HasRealValue) := by
  obtain ⟨l, hl, hmalformed, harena⟩ := load_written hw
  refine ⟨l, hl, hmalformed, harena, ?_⟩
  rw [harena, Arena.kept_eq_self_iff, Arena.hasRealValues_build_iff]

/-- A literal of a real number comes back with its value. -/
theorem load_build_iff_realLiteral :
    ∃ l, load (Arena.build [.numericLiteral 0 7 "4.25e-3"]).toJson = .ok l ∧ l.malformed = [] ∧
      l.arena = .build [.numericLiteral 0 7 "4.25e-3"] := by
  obtain ⟨l, hl, hmalformed, -, hiff⟩ := load_build_iff [.numericLiteral 0 7 "4.25e-3"] .object
  refine ⟨l, hl, hmalformed, hiff.mpr ?_⟩
  intro c hc
  obtain rfl := List.mem_singleton.mp hc
  exact Numeral.isReal_iff.mp (by decide)

/-- A literal of a number that is too large does not. -/
theorem load_build_ne_hugeLiteral :
    ¬∃ l, load (Arena.build [.numericLiteral 0 5 "1e400"]).toJson = .ok l ∧ l.malformed = [] ∧
      l.arena = .build [.numericLiteral 0 5 "1e400"] := by
  rintro ⟨l, hl, -, harena⟩
  obtain ⟨l', hl', -, harena'⟩ := load_written (.object (a := .build [.numericLiteral 0 5 "1e400"]))
  obtain rfl : l' = l := Except.ok.inj (hl'.symm.trans hl)
  rw [harena', Arena.kept_eq_self_iff, Arena.hasRealValues_build_iff] at harena
  have hreal : Numeral.IsReal "1e400" := harena _ (List.mem_singleton.mpr rfl)
  have hfinite := Numeral.isReal_iff.mpr hreal (.infinity false) (by decide)
  exact absurd hfinite (by decide)

end Load

end SyntaxShapes
