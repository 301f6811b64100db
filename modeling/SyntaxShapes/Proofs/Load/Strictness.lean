import Mathlib.Data.List.Forall2
import SyntaxShapes.Arena.Json
import SyntaxShapes.Proofs.Load.Reload
import SyntaxShapes.Proofs.Node.Grammar

/-!
# `SyntaxShapes.Proofs.Load.Strictness` — the two ways to read a tree

`Arena.read` reads a tree or fails; `load` reads what it can and keeps a record of the rest. Both read the
nodes one by one with `Node.read`, so they differ in what comes before: `load` asks the guard first. Of what
`Node.read` accepts, the guard refuses the nodes without flags, and only these (`readNode_of_read`): reading
takes absent flags for none, but finds a fault in everything else that the guard looks for.

So `load` without a record is `Arena.read` of nodes that the guard lets through (`load_clean_iff`), and
whatever `Arena.read` accepts is loaded but for the nodes without flags (`load_of_read`).

## Contents
- **One node.** `hasFlags`; `guardFault?_of_read`, `readNode_of_read`.
- **Strict reading.** `Arena.read_object_eq_ok_iff`.
- **Nothing on record.** `load_clean_iff`.
- **Records.** `failures_of_read`, `load_of_read`.
- **Both.** `load_strict`.
-/

namespace SyntaxShapes

open Json (Value Members Given SpellsList)

/-! ## One node -/

namespace Load

/-- Whether a value is an object that has something under `flags`. -/
def hasFlags : Value → Bool
  | .object ms => (Json.Members.get? "flags" ms).isSome
  | _ => false

theorem isPresent_iff {ms : Members} {key : String} :
    isPresent ms key = true ↔ ∃ v, ms.get? key = some v ∧ v ≠ .null := by
  unfold isPresent
  cases ms.get? key with
  | none => simp
  | some v => cases v <;> simp

/-- A key that has to give something is present for the guard, unless null gives something too. -/
theorem isPresent_of_given {α : Type} {spells : Value → α → Prop} {ms : Members} {key : String} {x : α}
    (h : Given spells none ms key x) (hnull : ∀ y, ¬spells .null y) : isPresent ms key = true := by
  cases h with
  | absent _ hdefault => cases hdefault
  | present found spelled =>
      refine isPresent_iff.mpr ⟨_, found, ?_⟩
      rintro rfl
      exact hnull x spelled

variable {r : Value} {n : Node}

/-- **All that the guard can miss in a readable node are its flags.** -/
theorem guardFault?_of_read (h : Node.read r = .ok n) :
    guardFault? r = if hasFlags r then none else some (.missing "flags") := by
  obtain ⟨hflags, hpos, hstop, -, hfound, hkind, -⟩ := (Node.read_eq_ok_iff_spells r n).mp h
  rename_i ms v
  have hk : isPresent ms "kind" = true := by
    refine isPresent_iff.mpr ⟨v, hfound, ?_⟩
    rintro rfl
    cases hkind
  have hp : isPresent ms "pos" = true := isPresent_of_given hpos nofun
  have hs : isPresent ms "end" = true := isPresent_of_given hstop nofun
  unfold guardFault? requiredKeys hasFlags
  cases hflags with
  | present found spelled =>
      have hf : isPresent ms "flags" = true := by
        refine isPresent_iff.mpr ⟨_, found, ?_⟩
        rintro rfl
        cases spelled
      simp [hk, hf, hp, hs, found]
  | absent missing =>
      have hf : isPresent ms "flags" = false := by
        unfold isPresent
        rw [missing]
      simp [hk, hf, missing]

/-- So a readable node is used when it has flags, and else goes on record for them. -/
theorem readNode_of_read (h : Node.read r = .ok n) :
    readNode r = if hasFlags r then .ok n else .error (.guard (.missing "flags")) := by
  unfold readNode
  rw [guardFault?_of_read h]
  cases hasFlags r with
  | true =>
      show (Node.read r).mapError _ = .ok n
      rw [h]
      rfl
  | false => rfl

end Load

/-! ## Strict reading -/

/-- The nodes that some raw nodes are read as, when none of them is at fault. -/
def Node.ReadAs (raws : List Value) (nodes : List Node) : Prop :=
  List.Forall₂ (fun r n => Node.read r = .ok n) raws nodes

/-- Each raw node is read as the node in its position. -/
theorem Node.ReadAs.getElem? {raws : List Value} {nodes : List Node} (h : Node.ReadAs raws nodes) {k : Nat}
    {r : Value} (hr : raws[k]? = some r) : ∃ n, nodes[k]? = some n ∧ Node.read r = .ok n := by
  obtain ⟨hk, rfl⟩ := List.getElem?_eq_some_iff.mp hr
  have hk' : k < nodes.length := by
    rw [← h.length_eq]
    exact hk
  exact ⟨nodes[k], List.getElem?_eq_getElem hk', h.get hk hk'⟩

/-- The JSON that holds the nodes of an arena. -/
def Arena.SpellsNodes (_ : Unit) : Value → List Node → Prop :=
  SpellsList fun r n => Node.read r = .ok n

theorem Arena.readNodes_eq_ok_iff (f : Json.Field fun _ : Unit => List Node) (v : Value) (nodes : List Node) :
    readNodes f.type v = .ok nodes ↔ SpellsNodes f.type v nodes :=
  Json.readList_eq_ok_iff Iff.rfl

/-- An arena is read exactly from an object that gives its nodes. -/
theorem Arena.read_object_eq_ok_iff_given {ms : Members} {a : Arena} :
    Arena.read (.object ms) = .ok a ↔ Given (SpellsNodes ()) none ms "nodes" a.nodes.toList := by
  have hobject : ∀ xs, Json.readObject readNodes fields ms = .ok xs ↔ Json.AllGiven SpellsNodes fields xs ms :=
    fun _ => Json.readObject_eq_ok_iff_allGiven (by decide) fun f _ => readNodes_eq_ok_iff f
  unfold Arena.read
  rw [Json.map_eq_ok_iff]
  constructor
  · rintro ⟨⟨nodes, ⟨⟩⟩, hnodes, rfl⟩
    exact ((hobject _).mp hnodes).1
  · intro h
    exact ⟨(a.nodes.toList, ()), (hobject _).mpr ⟨h, trivial⟩, rfl⟩

/-- **A tree is read strictly when each of its raw nodes is read.** -/
theorem Arena.read_object_eq_ok_iff {ms : Members} {a : Arena} (hkeys : (ms.map (·.1)).Nodup) :
    Arena.read (.object ms) = .ok a ↔
      ∃ raws, ms.get? "nodes" = some (.array raws) ∧ Node.ReadAs raws a.nodes.toList := by
  rw [read_object_eq_ok_iff_given, Json.given_none_iff hkeys]
  constructor
  · rintro ⟨_, hget, ⟨hnodes⟩⟩
    exact ⟨_, hget, hnodes⟩
  · rintro ⟨raws, hget, hnodes⟩
    exact ⟨_, hget, .array hnodes⟩

/-! ## Nothing on record -/

namespace Load

variable {ms : Members} {raws : List Value} {a : Arena} {l : Loaded}

/-- The tree that is loaded without a record consists of the nodes that its raw nodes are read as. -/
theorem malformed_ofResults_eq_nil_iff :
    (Loaded.ofResults (raws.map readNode)).malformed = [] ∧ (Loaded.ofResults (raws.map readNode)).arena = a ↔
      Node.ReadAs raws a.nodes.toList ∧ ∀ r ∈ raws, isNode r = true := by
  have hall : (Node.ReadAs raws a.nodes.toList ∧ ∀ r ∈ raws, isNode r = true) ↔
      raws.map readNode = a.nodes.toList.map .ok := by
    rw [and_comm, Node.ReadAs, ← List.forall₂_and_left, ← List.forall₂_eq_eq_eq, List.forall₂_map_left_iff,
      List.forall₂_map_right_iff]
    simp only [readNode_eq_ok_iff]
  rw [hall]
  constructor
  · rintro ⟨hnil, rfl⟩
    have husable := isEmpty_malformed_iff.mp (List.isEmpty_iff.mpr hnil)
    show raws.map readNode = ((raws.map readNode).map nodeOf).map .ok
    rw [List.map_map, List.map_map]
    refine List.map_congr_left ?_
    intro r hr
    obtain ⟨hguard, n, hn⟩ := husable r hr
    show readNode r = .ok (nodeOf (readNode r))
    rw [readNode_eq_ok_iff.mpr ⟨hguard, hn⟩]
    rfl
  · intro h
    rw [h, malformed_ofResults, failures_map_ok, arena_ofResults_map_ok, Array.toArray_toList]
    exact ⟨rfl, rfl⟩

/-- **`load` without a record is strict reading of nodes that the guard lets through.** -/
theorem load_clean_iff (hkeys : (ms.map (·.1)).Nodup) :
    (∃ l, load (.object ms) = .ok l ∧ l.malformed = [] ∧ l.arena = a) ↔
      Arena.read (.object ms) = .ok a ∧
        ∃ raws, ms.get? "nodes" = some (.array raws) ∧ ∀ r ∈ raws, isNode r = true := by
  rw [Arena.read_object_eq_ok_iff hkeys]
  constructor
  · rintro ⟨l, hl, hclean⟩
    obtain ⟨raws, hraws, rfl⟩ := load_eq_ok_iff.mp hl
    obtain ⟨hread, hguard⟩ := malformed_ofResults_eq_nil_iff.mp hclean
    cases hraws with
    | object hget => exact ⟨⟨raws, hget, hread⟩, raws, hget, hguard⟩
  · rintro ⟨⟨raws, hget, hread⟩, raws', hget', hguard⟩
    obtain rfl : raws = raws' := Value.array.inj (Option.some.inj (hget.symm.trans hget'))
    exact ⟨_, load_eq_ofResults (.object hget), malformed_ofResults_eq_nil_iff.mpr ⟨hread, hguard⟩⟩

/-! ## Records -/

/-- The failures among readable nodes are those without flags. -/
theorem failures_of_read {nodes : List Node} (h : Node.ReadAs raws nodes) :
    failures (raws.map readNode) =
      (raws.zipIdx.filter fun p => !hasFlags p.1).map fun p => (p.2, .guard (.missing "flags")) := by
  unfold failures
  rw [List.zipIdx_map, List.filterMap_map, ← List.filterMap_eq_map, List.filterMap_filter]
  refine List.filterMap_congr ?_
  rintro ⟨r, k⟩ hmem
  obtain ⟨n, -, hn⟩ := h.getElem? (List.mk_mem_zipIdx_iff_getElem?.mp hmem)
  rw [Function.comp_apply, Prod.map_apply, readNode_of_read hn]
  cases hasFlags r with
  | true => rfl
  | false => rfl

/-- **Whatever is read strictly is loaded**, with a record for each node without flags. -/
theorem load_of_read (h : Arena.read (.object ms) = .ok a) :
    ∃ raws l, ms.get? "nodes" = some (.array raws) ∧ load (.object ms) = .ok l ∧ l.arena.size = a.size ∧
      l.malformed = ((raws.zipIdx.filter fun p => !hasFlags p.1).map fun p =>
        ⟨.ofNat p.2, .guard (.missing "flags")⟩) ∧
      ∀ (k : Nat) (r : Value), raws[k]? = some r → hasFlags r = true →
        l.arena.nodes[k]? = a.nodes[k]? := by
  cases Arena.read_object_eq_ok_iff_given.mp h with
  | absent _ hdefault => cases hdefault
  | present hget hspells =>
      obtain ⟨hread⟩ := hspells
      rename_i raws
      refine ⟨raws, _, hget, load_eq_ofResults (.object hget), ?_, ?_, ?_⟩
      · rw [Loaded.size_ofResults, List.length_map]
        exact hread.length_eq
      · rw [malformed_ofResults, failures_of_read hread, List.map_map]
        rfl
      · intro k r hr hflags
        obtain ⟨n, hn, hr'⟩ := Node.ReadAs.getElem? hread hr
        rw [nodes_ofResults, List.getElem?_map, hr, Option.map_some, readNode_of_read hr', if_pos hflags,
          ← Array.getElem?_toList, hn]
        rfl

/-! ## Both -/

/-- **The two ways to read agree.** No object of a text repeats a key. For every object without repeated
    keys: `load` succeeds with nothing on record exactly when `Arena.read` succeeds and the guard lets every
    raw node through, and both then give the same tree. Where `Arena.read` succeeds, the records of `load`
    are those of the positions without flags, in order, and in every other place both trees have the same
    node. -/
theorem load_strict :
    (∀ text ms, Json.parse? text = some (.object ms) → (ms.map (·.1)).Nodup) ∧
      ∀ ms : Members, (ms.map (·.1)).Nodup → ∀ a : Arena,
        ((∃ l, load (.object ms) = .ok l ∧ l.malformed = [] ∧ l.arena = a) ↔
          Arena.read (.object ms) = .ok a ∧
            ∃ raws, ms.get? "nodes" = some (.array raws) ∧ ∀ r ∈ raws, isNode r = true) ∧
        (Arena.read (.object ms) = .ok a →
          ∃ raws l, ms.get? "nodes" = some (.array raws) ∧ load (.object ms) = .ok l ∧
            l.arena.size = a.size ∧
            l.malformed = ((raws.zipIdx.filter fun p => !hasFlags p.1).map fun p =>
              ⟨.ofNat p.2, .guard (.missing "flags")⟩) ∧
            ∀ (k : Nat) (r : Value), raws[k]? = some r → hasFlags r = true →
              l.arena.nodes[k]? = a.nodes[k]?) := by
  refine ⟨?_, fun ms hkeys a => ⟨load_clean_iff hkeys, load_of_read⟩⟩
  intro text ms h
  cases Json.distinctKeys_of_parse? h with
  | object keys => exact keys

/-- Two tokens, the second without flags. -/
def secondWithoutFlags : Members :=
  [("nodes", .array [
    .object [("kind", .string "Token"), ("flags", .nat 4), ("pos", .nat 0), ("end", .nat 1),
      ("token", .string "CommaToken")],
    .object [("kind", .string "Token"), ("pos", .nat 1), ("end", .nat 2), ("token", .string "CommaToken")]])]

/-- Read strictly, the second token has no flags; loaded, it is on record. -/
theorem load_strict_secondWithoutFlags :
    Arena.read (.object secondWithoutFlags) =
        .ok ⟨#[⟨4, 0, 1, .absent, .token ⟨.comma⟩⟩, ⟨0, 1, 2, .absent, .token ⟨.comma⟩⟩]⟩ ∧
      ∃ l, load (.object secondWithoutFlags) = .ok l ∧ l.malformed = [⟨1, .guard (.missing "flags")⟩] ∧
        l.arena.nodes[0]? = some ⟨4, 0, 1, .absent, .token ⟨.comma⟩⟩ := by
  have hread : Arena.read (.object secondWithoutFlags) =
      .ok ⟨#[⟨4, 0, 1, .absent, .token ⟨.comma⟩⟩, ⟨0, 1, 2, .absent, .token ⟨.comma⟩⟩]⟩ := by rfl
  obtain ⟨raws, l, hget, hl, -, hmalformed, hnodes⟩ :=
    (load_strict.2 secondWithoutFlags (by decide) _).2 hread
  obtain rfl := Value.array.inj (Option.some.inj hget)
  exact ⟨hread, l, hl, hmalformed, hnodes 0 _ rfl rfl⟩

end Load

end SyntaxShapes
