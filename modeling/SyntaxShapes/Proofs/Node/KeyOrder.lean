import SyntaxShapes.Proofs.Json.KeyOrder
import SyntaxShapes.Proofs.Node.Grammar

/-!
# `SyntaxShapes.Proofs.Node.KeyOrder` — the order of the keys of a node

An object is read as a node in three steps: its header, its kind, the data of that kind. Each step looks only at
keys of its own, in the order in which these stand. So the fault that is found in an object depends on the order
of the header keys and on the order of the payload keys, but not on how the two and `kind` are mixed; and a key
of none of the three does nothing (`Node.read_congr`).

Which node is read, if one is, depends on no order at all, neither in the object nor in the lists inside it
(`Node.read_of_reordered`): the grammar of nodes speaks of keys by look-up only.

## Contents
- **Keys.** `Node.headerKeys`, `Kind.keys`.
- **Faults.** `Node.read_congr`.
- **Nodes.** `Slot.ignoresOrder_spells`; `Node.read_of_reordered`.
- **Both.** `Node.read_keyOrder`.
-/

namespace SyntaxShapes

open Json (Value Members ReadError IgnoresOrder)

/-! ## Keys -/

/-- The keys of a header. -/
def Node.headerKeys : List String := headerFields.map (·.key)

/-- The keys of the data of a kind. -/
def Kind.keys (k : Kind) : List String := (Record.fields k.Data).map (·.key)

/-! ## Faults -/

/-- Reading the kind looks at `kind` alone. -/
theorem Kind.readFrom_congr {ms ns : Members} (h : ms.get? "kind" = ns.get? "kind") (place : Json.Place) :
    Kind.readFrom place ms = Kind.readFrom place ns := by
  unfold Kind.readFrom
  rw [h]

/-- Reading a payload looks at the keys of its kind alone. -/
theorem Payload.readData_congr {k : Kind} {ms ns : Members} (h : ms.only k.keys = ns.only k.keys) :
    Payload.readData k ms = Payload.readData k ns := by
  unfold Payload.readData Record.read
  rw [Json.readObject_congr h]

/-- **Reading a node, whether it succeeds or not, depends on the header keys in their order, on the kind, and on
    the keys of that kind in their order.** -/
theorem Node.read_congr {ms ns : Members} (hheader : ms.only headerKeys = ns.only headerKeys)
    (hkind : ms.get? "kind" = ns.get? "kind")
    (hpayload : ∀ k, Kind.readFrom .inNode ms = .ok k → ms.only k.keys = ns.only k.keys) :
    Node.read (.object ms) = Node.read (.object ns) := by
  rw [Node.read, Node.read, Json.readObject_congr hheader, ← Kind.readFrom_congr hkind]
  cases hk : Kind.readFrom .inNode ms with
  | error e => rfl
  | ok k =>
      show (_ >>= fun header => Payload.readData k ms >>= fun payload => pure (ofHeader payload header)) =
        (_ >>= fun header => Payload.readData k ns >>= fun payload => pure (ofHeader payload header))
      rw [Payload.readData_congr (hpayload k hk)]

/-! ## Nodes -/

theorem NodeIndex.ignoresOrder_spells : IgnoresOrder NodeIndex.Spells :=
  fun v w i => Json.ignoresOrder_spellsU32 v w i.val

theorem NodeList.ignoresOrder_spells : IgnoresOrder NodeList.Spells := by
  have hnodes := Json.ignoresOrder_spellsList NodeIndex.ignoresOrder_spells
  have hoffset := Json.ignoresOrder_spellsU32
  intro v w l hv h hspells
  cases hspells with
  | object nodes pos stop =>
      obtain ⟨ns, rfl⟩ : ∃ ns, w = .object ns := by
        cases h
        exact ⟨_, rfl⟩
      exact .object (nodes.reordered hnodes hv h) (pos.reordered hoffset hv h)
        (stop.reordered hoffset hv h)
  | nodes nodes =>
      cases hv with
      | array hvs =>
          cases h with
          | @array _ ws length items =>
              match ws, length with
              | [_], _ => exact .nodes (hnodes _ _ _ (hvs _ (by simp)) (items 0 _ _ rfl rfl) nodes)
  | start nodes pos =>
      cases hv with
      | array hvs =>
          cases h with
          | @array _ ws length items =>
              match ws, length with
              | [_, _], _ =>
                  exact .start (hnodes _ _ _ (hvs _ (by simp)) (items 0 _ _ rfl rfl) nodes)
                    (hoffset _ _ _ (hvs _ (by simp)) (items 1 _ _ rfl rfl) pos)
  | span nodes pos stop =>
      cases hv with
      | array hvs =>
          cases h with
          | @array _ ws length items =>
              match ws, length with
              | [_, _, _], _ =>
                  exact .span (hnodes _ _ _ (hvs _ (by simp)) (items 0 _ _ rfl rfl) nodes)
                    (hoffset _ _ _ (hvs _ (by simp)) (items 1 _ _ rfl rfl) pos)
                    (hoffset _ _ _ (hvs _ (by simp)) (items 2 _ _ rfl rfl) stop)

theorem Kind.ignoresOrder_spells : IgnoresOrder Kind.Spells := by
  rintro _ _ _ - h (_ | ⟨lower, upper, found⟩)
  · cases h
    exact .name _
  · cases h
    exact .position lower upper found

/-- Lists are the only field values that may be written in several orders. -/
theorem Slot.ignoresOrder_spells (s : Slot) : IgnoresOrder s.Spells := by
  cases s with
  | flags => exact Json.ignoresOrder_spellsU16
  | offset => exact Json.ignoresOrder_spellsU32
  | index => exact NodeIndex.ignoresOrder_spells
  | list => exact NodeList.ignoresOrder_spells
  | text => exact Json.ignoresOrder_spellsText
  | truth => exact Json.ignoresOrder_spellsTruth
  | value => exact Json.ignoresOrder_spellsNumber?
  | keyword => exact Json.ignoresOrder_spellsWord
  | token => exact Json.ignoresOrder_spellsWord

namespace Payload

variable {ms ns : Members}

/-- Members that spell a payload still do when they change places. -/
theorem Spells.reordered (hms : (Value.object ms).DistinctKeys)
    (h : (Value.object ms).Reordered (.object ns)) {p : Payload} (hp : p.Spells ms) : p.Spells ns := by
  rw [← ofData_kind_data p, ← allGiven_iff_spells] at hp ⊢
  exact hp.reordered Slot.ignoresOrder_spells hms h

end Payload

namespace Node

variable {v w : Value} {n : Node}

/-- **A node is read as the same node in every order of the keys.** -/
theorem read_of_reordered (hv : v.DistinctKeys) (h : v.Reordered w) (hread : Node.read v = .ok n) :
    Node.read w = .ok n := by
  rw [read_eq_ok_iff_spells] at hread ⊢
  obtain ⟨hflags, hpos, hstop, hparent, hfound, hkind, hpayload⟩ := hread
  obtain ⟨ns, rfl⟩ : ∃ ns, w = .object ns := by
    cases h
    exact ⟨_, rfl⟩
  have hoffset := Json.ignoresOrder_spellsU32
  cases hv with
  | object hkeys hvalues =>
      have hms := Value.DistinctKeys.object hkeys hvalues
      obtain ⟨u, hu, hvu⟩ := h.exists_get?_eq_some hkeys hfound
      exact .object (hflags.reordered Json.ignoresOrder_spellsU16 hms h) (hpos.reordered hoffset hms h)
        (hstop.reordered hoffset hms h) (hparent.reordered NodeIndex.ignoresOrder_spells hms h) hu
        (Kind.ignoresOrder_spells _ _ _ (hvalues _ (Members.mem_of_get?_eq_some hfound)) hvu hkind)
        (hpayload.reordered hms h)

/-! ## Both -/

/-- **What the order of keys decides.** No object of a text repeats a key. In every object without repeated keys,
    at any depth: in other orders of its keys and of those of the objects inside it, the same node is read, or
    none. The fault is the same too, if nothing changes inside, the header keys keep their order, and so do
    those of the node's kind. A key that is none of these, and not `kind`, may be added anywhere. -/
theorem read_keyOrder :
    (∀ text v, Json.parse? text = some v → v.DistinctKeys) ∧
      ∀ ms : Members, (Value.object ms).DistinctKeys →
        (∀ w, (Value.object ms).Reordered w → ∀ n, Node.read (.object ms) = .ok n ↔ Node.read w = .ok n) ∧
        (∀ ns, ms.Perm ns → Members.SameOrder headerKeys ms ns →
          (∀ k, Kind.readFrom .inNode ms = .ok k → Members.SameOrder k.keys ms ns) →
          Node.read (.object ms) = Node.read (.object ns)) ∧
        ∀ before after key v, before ++ after = ms → key ∉ headerKeys → key ≠ "kind" →
          (∀ k, Kind.readFrom .inNode ms = .ok k → key ∉ k.keys) →
          Node.read (.object (before ++ (key, v) :: after)) = Node.read (.object ms) := by
  refine ⟨fun text v => Json.distinctKeys_of_parse?, fun ms hms => ⟨?_, ?_, ?_⟩⟩
  · intro w h n
    exact ⟨read_of_reordered hms h, read_of_reordered (h.distinctKeys hms) h.symm⟩
  · intro ns hperm hheader hpayload
    cases hms with
    | object hkeys =>
        exact read_congr (Members.only_eq_of_perm hkeys hperm hheader) (Members.get?_of_perm hkeys hperm "kind")
          fun k hk => Members.only_eq_of_perm hkeys hperm (hpayload k hk)
  · rintro before after key v rfl hheader hkind hpayload
    exact (read_congr (Members.only_insert hheader v) (Members.get?_insert hkind v)
      fun k hk => Members.only_insert (hpayload k hk) v).symm

/-- A call with one argument, its header, kind and data mixed. -/
def mixedCall (flags callee : Value) : Members :=
  [("flags", flags), ("kind", .string "CallExpression"), ("pos", .nat 0),
   ("arguments", .object [("nodes", .array [.nat 2]), ("end", .nat 3)]), ("end", .nat 4), ("expression", callee)]

/-- The same call, its kind first, then the data, then the header; its argument list may be in another order. -/
def sortedCall (flags callee : Value) (arguments : Members) : Members :=
  [("kind", .string "CallExpression"), ("arguments", .object arguments), ("expression", callee),
   ("flags", flags), ("pos", .nat 0), ("end", .nat 4)]

theorem distinctKeys_arguments :
    (Value.object [("nodes", .array [.nat 2]), ("end", .nat 3)]).DistinctKeys := by
  refine .object (by decide) ?_
  simp only [List.forall_mem_cons]
  exact ⟨.array (by simpa using .number _), .number _, List.forall_mem_nil _⟩

theorem distinctKeys_mixedCall {flags callee : Value} (hflags : flags.DistinctKeys)
    (hcallee : callee.DistinctKeys) : (Value.object (mixedCall flags callee)).DistinctKeys := by
  refine .object (by simp [mixedCall]) ?_
  simp only [mixedCall, List.forall_mem_cons]
  exact ⟨hflags, .string _, .number _, distinctKeys_arguments, .number _, hcallee, List.forall_mem_nil _⟩

theorem reordered_mixedCall :
    (Value.object (mixedCall (.nat 4) (.nat 1))).Reordered
      (.object (sortedCall (.nat 4) (.nat 1) [("end", .nat 3), ("nodes", .array [.nat 2])])) := by
  have harguments : (Value.object [("nodes", .array [.nat 2]), ("end", .nat 3)]).Reordered
      (.object [("end", .nat 3), ("nodes", .array [.nat 2])]) :=
    .of_perm distinctKeys_arguments (.swap _ _ [])
  refine .object (by decide) ?_
  intro key v w hv hw
  simp only [mixedCall, List.mem_cons, Prod.mk.injEq, List.not_mem_nil, or_false] at hv
  obtain ⟨rfl, rfl⟩ | ⟨rfl, rfl⟩ | ⟨rfl, rfl⟩ | ⟨rfl, rfl⟩ | ⟨rfl, rfl⟩ | ⟨rfl, rfl⟩ := hv
  all_goals
    obtain rfl : w = _ := by simpa [sortedCall] using hw
    first | exact harguments | constructor

/-- A call is read with its data before its header and its argument list turned around. Where flags and callee
    are both at fault, the flags are reported, whichever of them comes first, and with a comment among them. -/
theorem read_keyOrder_mixedCall :
    (∃ v, Json.parse? "[0]" = some v ∧ v.DistinctKeys) ∧
      Node.read (.object (sortedCall (.nat 4) (.nat 1) [("end", .nat 3), ("nodes", .array [.nat 2])])) =
        .ok ⟨4, 0, 4, .absent, .call ⟨⟨1⟩, ⟨[⟨2⟩], 0, 3⟩⟩⟩ ∧
      Node.read (.object (sortedCall (.bool true) (.bool true) [("nodes", .array [.nat 2]), ("end", .nat 3)])) =
        .error (.wrongType (.boolean true) .u16) ∧
      Node.read (.object (("comment", .null) :: mixedCall (.bool true) (.bool true))) =
        .error (.wrongType (.boolean true) .u16) := by
  have hfault : Node.read (.object (mixedCall (.bool true) (.bool true))) =
      .error (.wrongType (.boolean true) .u16) := by rfl
  have hkind : ∀ k, Kind.readFrom .inNode (mixedCall (.bool true) (.bool true)) = .ok k → k = .call :=
    fun k hk => (Except.ok.inj hk).symm
  obtain ⟨horder, -, -⟩ := read_keyOrder.2 _ (distinctKeys_mixedCall (.number (.int 4)) (.number (.int 1)))
  obtain ⟨-, hsame, hadd⟩ := read_keyOrder.2 _ (distinctKeys_mixedCall (.bool true) (.bool true))
  obtain ⟨v, hv⟩ := Option.isSome_iff_exists.mp (by decide +kernel : (Json.parse? "[0]").isSome = true)
  refine ⟨⟨v, hv, read_keyOrder.1 "[0]" v hv⟩, ?_, ?_, ?_⟩
  · exact (horder _ reordered_mixedCall _).mp rfl
  · rw [← hsame _ ?_ (by decide) ?_, hfault]
    · have hplaces : ([0, 1, 2, 3, 4, 5] : List (Fin 6)).Perm [1, 3, 5, 0, 2, 4] := by decide
      exact hplaces.map fun k => (mixedCall (.bool true) (.bool true)).get k
    · intro k hk
      rw [hkind k hk]
      decide
  · rw [← hfault]
    refine hadd [] _ "comment" .null rfl (by decide) (by decide) ?_
    intro k hk
    rw [hkind k hk]
    decide

end Node

end SyntaxShapes
