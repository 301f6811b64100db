import SyntaxShapes.Proofs.Arena.Span

/-!
# `SyntaxShapes.Proofs.Arena.Adoption` — the last adopter wins

A call appends one node and makes it the parent of its children, as far as they exist by then. Nothing
else is ever changed. So the state after any run of calls can be said in full: node `k` is the one that the
`k`-th call made, but for its parent, and the parent of a node is the last node, itself or a later one,
that lists it as a child.

Children may be shared, repeated, missing, yet to come, or the new node itself. A child that does not
exist when it is listed is not adopted by that node, even if it comes later; this is why an adopter never
stands before its child.

The number of calls stays below the position that means no node; from there on positions would repeat.

## Contents
- **One call.** `get?_adopt`, `get?_apply`; from them `childrenOf_apply` and `parentOf_apply`.
- **Invariant.** `LastAdopter`, `Linked`; kept by a call (`Linked.apply`) and so by a run (`linked_build`,
  through `build_keeps`).
- **Recomputation.** `lastAdopter`, the same link from the payloads alone; `Computed`, `computed_build`.
- **Frame.** `exists_get?_apply`, `exists_get?_applyAll`: later calls touch nothing but the parent.
- **All together.** `build_exact`.
-/

namespace SyntaxShapes.Arena

variable {a : Arena} {c : Call} {i : NodeIndex}

/-! ## One call -/

/-- Adopting some nodes changes their parent, and nothing else. -/
theorem get?_adopt (a : Arena) (p : NodeIndex) (cs : List NodeIndex) (i : NodeIndex) :
    (a.adopt p cs).get? i =
      if i ∈ cs then (a.get? i).map fun n => { n with parent := p } else a.get? i := by
  induction cs generalizing a with
  | nil => rfl
  | cons d cs ih =>
      show ((a.setParent d p).adopt p cs).get? i = _
      rw [ih, get?_setParent]
      by_cases hd : i = d
      · -- adopting a child twice is adopting it once
        subst hd
        cases a.get? i <;> simp
      · by_cases hcs : i ∈ cs
        · simp [hd, hcs]
        · simp [hd, hcs]

theorem toNat_nextIndex (h : a.size < 2 ^ 32) : a.nextIndex.toNat = a.size :=
  NodeIndex.toNat_ofNat h

/-- While there is room, the next node gets a position. -/
theorem nextIndex_ne_absent (h : a.size < 2 ^ 32 - 1) : a.nextIndex ≠ .absent := by
  intro he
  have hn := toNat_nextIndex (a := a) (by omega)
  rw [he, NodeIndex.toNat_absent] at hn
  omega

theorem lt_size_of_get? {n : Node} (h : a.get? i = some n) : i.toNat < a.size :=
  (isSome_get?_iff.mp (by rw [h]; rfl)).2

theorem get?_push (h : a.size < 2 ^ 32 - 1) (n : Node) (i : NodeIndex) :
    ({ a with nodes := a.nodes.push n } : Arena).get? i = if i = a.nextIndex then some n else a.get? i := by
  have hnext := toNat_nextIndex (a := a) (by omega)
  -- the new node stands past all that were there, and its position still means a node
  by_cases hi : i = a.nextIndex
  · subst hi
    rw [if_pos rfl, get?_eq_some_iff]
    refine ⟨nextIndex_ne_absent h, ?_⟩
    rw [hnext]
    simp [size]
  · have hne : i.toNat ≠ a.nodes.size := fun he => hi (NodeIndex.toNat_inj.mp (he.trans hnext.symm))
    rw [if_neg hi]
    unfold get?
    rw [Array.getElem?_push, if_neg hne]

/-- What a call leaves at each position: the new node, or what was there, adopted if it is listed. -/
theorem get?_apply (h : a.size < 2 ^ 32 - 1) (c : Call) (i : NodeIndex) :
    (a.apply c).get? i =
      if i ∈ c.payload.children then
        (if i = a.nextIndex then some (c.toNode a) else a.get? i).map
          fun n => { n with parent := a.nextIndex }
      else if i = a.nextIndex then some (c.toNode a) else a.get? i := by
  unfold apply add
  rw [get?_adopt, get?_push h]
  rfl

/-- Nothing stands at the next position yet. -/
theorem get?_nextIndex (h : a.size < 2 ^ 32) : a.get? a.nextIndex = none := by
  cases hn : a.get? a.nextIndex with
  | none => rfl
  | some n =>
      have hlt := lt_size_of_get? hn
      rw [toNat_nextIndex h] at hlt
      exact absurd hlt (Nat.lt_irrefl _)

/-- A call gives children to its own node only. -/
theorem childrenOf_apply (h : a.size < 2 ^ 32 - 1) (c : Call) (p : NodeIndex) :
    (a.apply c).childrenOf p = if p = a.nextIndex then c.payload.children else a.childrenOf p := by
  unfold childrenOf
  rw [get?_apply h]
  by_cases hp : p = a.nextIndex
  · by_cases hc : p ∈ c.payload.children
    · rw [if_pos hc, if_pos hp, if_pos hp]
      rfl
    · rw [if_neg hc, if_pos hp, if_pos hp]
      rfl
  · rw [if_neg hp, if_neg hp]
    split
    · cases a.get? p <;> rfl
    · rfl

/-- A call becomes the parent of the children that it lists, as far as they exist, itself included. -/
theorem parentOf_apply (h : a.size < 2 ^ 32 - 1) (c : Call) (i : NodeIndex) :
    (a.apply c).parentOf i =
      if i ∈ c.payload.children ∧ i.toNat ≤ a.size then a.nextIndex else a.parentOf i := by
  have hnext := toNat_nextIndex (a := a) (by omega)
  unfold parentOf
  rw [get?_apply h]
  -- the new node itself, then a child that exists, then one that does not
  by_cases hi : i = a.nextIndex
  · subst hi
    rw [get?_nextIndex (by omega), hnext]
    by_cases hc : a.nextIndex ∈ c.payload.children
    · simp [hc]
    · simp [hc, Call.toNode]
  · have hne : i.toNat ≠ a.size := fun he => hi (NodeIndex.toNat_inj.mp (he.trans hnext.symm))
    rw [if_neg hi]
    by_cases hc : i ∈ c.payload.children
    · cases hn : a.get? i with
      | some n =>
          have hlt := lt_size_of_get? hn
          rw [if_pos hc, if_pos ⟨hc, by omega⟩]
          rfl
      | none =>
          -- what does not exist, absent or not, is past the end
          have hge : ¬i.toNat ≤ a.size := by
            intro hle
            have hsome : (a.get? i).isSome := by
              refine isSome_get?_iff.mpr ⟨?_, by omega⟩
              rintro rfl
              rw [NodeIndex.toNat_absent] at hle
              omega
            rw [hn] at hsome
            cases hsome
          rw [if_pos hc, if_neg fun hle => hge hle.2]
          rfl
    · rw [if_neg hc, if_neg fun hle => hc hle.1]

/-! ## Invariant -/

/-- Whether `p` is the last node that lists `i` as a child, among `i` itself and the nodes after it. -/
structure LastAdopter (a : Arena) (i p : NodeIndex) : Prop where
  /-- The node lists `i`. -/
  lists : i ∈ a.childrenOf p
  /-- It does not stand before `i`. -/
  le : i.toNat ≤ p.toNat
  /-- No other such node stands after it. -/
  last : ∀ q, i ∈ a.childrenOf q → i.toNat ≤ q.toNat → q.toNat ≤ p.toNat

/-- Whether the parent of every node is its last adopter, and absent where there is none. -/
def Linked (a : Arena) : Prop :=
  ∀ i, LastAdopter a i (a.parentOf i) ∨
    (a.parentOf i = .absent ∧ ∀ p, i ∈ a.childrenOf p → ¬i.toNat ≤ p.toNat)

theorem lt_size_of_mem_childrenOf {p : NodeIndex} (h : i ∈ a.childrenOf p) : p.toNat < a.size := by
  unfold childrenOf at h
  cases hp : a.get? p with
  | none =>
      rw [hp] at h
      exact absurd h (by simp)
  | some n => exact lt_size_of_get? hp

theorem childrenOf_nextIndex (h : a.size < 2 ^ 32) : a.childrenOf a.nextIndex = [] := by
  unfold childrenOf
  rw [get?_nextIndex h]
  rfl

/-- Listing a child that exists makes the new node its last adopter. -/
theorem lastAdopter_nextIndex (h : a.size < 2 ^ 32 - 1) (hc : i ∈ c.payload.children)
    (hle : i.toNat ≤ a.size) : LastAdopter (a.apply c) i a.nextIndex := by
  have hnext := toNat_nextIndex (a := a) (by omega)
  refine ⟨?_, by omega, ?_⟩
  · rw [childrenOf_apply h, if_pos rfl]
    exact hc
  · intro q hq _
    have hlt := lt_size_of_mem_childrenOf hq
    rw [size_apply] at hlt
    omega

/-- Any other call leaves the last adopter of a node as it was. -/
theorem LastAdopter.apply {p : NodeIndex} (h : a.size < 2 ^ 32 - 1) (hp : LastAdopter a i p)
    (hc : ¬(i ∈ c.payload.children ∧ i.toNat ≤ a.size)) : LastAdopter (a.apply c) i p := by
  -- the last adopter so far lists something, and the new position listed nothing
  have hne : p ≠ a.nextIndex := by
    rintro rfl
    have hlists := hp.lists
    rw [childrenOf_nextIndex (by omega)] at hlists
    exact absurd hlists (by simp)
  refine ⟨?_, hp.le, ?_⟩
  · rw [childrenOf_apply h, if_neg hne]
    exact hp.lists
  · intro q hq hle
    rw [childrenOf_apply h] at hq
    by_cases hqn : q = a.nextIndex
    · -- the new node does not list `i`, or `i` does not exist yet
      subst hqn
      rw [if_pos rfl] at hq
      rw [toNat_nextIndex (by omega)] at hle
      exact absurd ⟨hq, hle⟩ hc
    · rw [if_neg hqn] at hq
      exact hp.last q hq hle

/-- **A call keeps the links.** -/
theorem Linked.apply (h : a.size < 2 ^ 32 - 1) (ha : Linked a) (c : Call) : Linked (a.apply c) := by
  intro i
  rw [parentOf_apply h]
  by_cases hc : i ∈ c.payload.children ∧ i.toNat ≤ a.size
  · rw [if_pos hc]
    exact Or.inl (lastAdopter_nextIndex h hc.1 hc.2)
  · rw [if_neg hc]
    rcases ha i with hp | ⟨habsent, hnone⟩
    · exact Or.inl (hp.apply h hc)
    · refine Or.inr ⟨habsent, ?_⟩
      intro p hp hle
      rw [childrenOf_apply h] at hp
      by_cases hpn : p = a.nextIndex
      · subst hpn
        rw [if_pos rfl] at hp
        rw [toNat_nextIndex (by omega)] at hle
        exact hc ⟨hp, hle⟩
      · rw [if_neg hpn] at hp
        exact hnone p hp hle

/-- What every call keeps, a run of calls keeps, as long as there are positions for its nodes. -/
theorem applyAll_keeps {P : Arena → Prop} (hstep : ∀ a c, a.size < 2 ^ 32 - 1 → P a → P (a.apply c))
    (ha : P a) (cs : List Call) (h : a.size + cs.length < 2 ^ 32) : P (a.applyAll cs) := by
  induction cs generalizing a with
  | nil => exact ha
  | cons c cs ih =>
      -- the arena is general in the induction: the rest of the run starts after the first call
      rw [List.length_cons] at h
      refine ih (hstep a c (by omega) ha) ?_
      rw [size_apply]
      omega

/-- What the empty arena has, and every call keeps, holds after every run. -/
theorem build_keeps {P : Arena → Prop} (hstep : ∀ a c, a.size < 2 ^ 32 - 1 → P a → P (a.apply c))
    (hempty : P empty) (cs : List Call) (h : cs.length < 2 ^ 32) : P (build cs) := by
  refine applyAll_keeps hstep hempty cs ?_
  show 0 + cs.length < 2 ^ 32
  omega

theorem linked_empty : Linked empty := by
  intro i
  refine Or.inr ⟨?_, ?_⟩
  · simp [parentOf, get?, empty]
  · intro p hp
    exact absurd hp (by simp [childrenOf, get?, empty])

/-- **Every run of calls gives linked nodes.** -/
theorem linked_build (cs : List Call) (h : cs.length < 2 ^ 32) : Linked (build cs) :=
  build_keeps (fun _ c hsize ha => ha.apply hsize c) linked_empty cs h

/-! ## Recomputation -/

/-- The last adopter of a position, computed from the payloads of the nodes in order. -/
def lastAdopter (ps : List Payload) (i : NodeIndex) : NodeIndex :=
  ps.zipIdx.foldl (fun found (p, k) => if i ∈ p.children ∧ i.toNat ≤ k then .ofNat k else found) .absent

/-- One more payload takes over the children that it lists, as far as they are there, itself included. -/
theorem lastAdopter_concat (ps : List Payload) (p : Payload) (i : NodeIndex) :
    lastAdopter (ps ++ [p]) i =
      if i ∈ p.children ∧ i.toNat ≤ ps.length then .ofNat ps.length else lastAdopter ps i := by
  unfold lastAdopter
  rw [List.zipIdx_append, List.foldl_append]
  simp

/-- The payloads of the nodes, in order. -/
def payloads (a : Arena) : List Payload := a.nodes.toList.map (·.payload)

theorem payloads_setParent (a : Arena) (d p : NodeIndex) : (a.setParent d p).payloads = a.payloads := by
  unfold payloads setParent
  split
  · rfl
  · apply List.ext_getElem?
    intro k
    simp only [List.getElem?_map, Array.getElem?_toList, Array.getElem?_modify]
    split
    · cases a.nodes[k]? <;> rfl
    · rfl

theorem payloads_adopt (a : Arena) (p : NodeIndex) (ds : List NodeIndex) :
    (a.adopt p ds).payloads = a.payloads := by
  induction ds generalizing a with
  | nil => rfl
  | cons d ds ih =>
      show ((a.setParent d p).adopt p ds).payloads = _
      rw [ih, payloads_setParent]

/-- A call adds its payload at the end. -/
theorem payloads_apply (a : Arena) (c : Call) : (a.apply c).payloads = a.payloads ++ [c.payload] := by
  unfold apply add
  rw [payloads_adopt]
  simp [payloads, Call.toNode]

theorem payloads_applyAll (a : Arena) (cs : List Call) :
    (a.applyAll cs).payloads = a.payloads ++ cs.map Call.payload := by
  induction cs generalizing a with
  | nil => exact (List.append_nil _).symm
  | cons c cs ih =>
      show ((a.apply c).applyAll cs).payloads = _
      rw [ih, payloads_apply, List.append_assoc]
      rfl

/-- The payloads are those of the calls. -/
theorem payloads_build (cs : List Call) : (build cs).payloads = cs.map Call.payload :=
  payloads_applyAll empty cs

theorem length_payloads (a : Arena) : a.payloads.length = a.size := by
  unfold payloads size
  rw [List.length_map, Array.length_toList]

/-- Whether all parents are what the payloads say. -/
def Computed (a : Arena) : Prop := ∀ i, a.parentOf i = lastAdopter a.payloads i

/-- A call keeps parents computable: it sets just those that its payload says. -/
theorem Computed.apply (h : a.size < 2 ^ 32 - 1) (ha : Computed a) (c : Call) : Computed (a.apply c) := by
  intro i
  rw [parentOf_apply h, payloads_apply, lastAdopter_concat, length_payloads, ha i]
  rfl

theorem computed_build (cs : List Call) (h : cs.length < 2 ^ 32) : Computed (build cs) := by
  refine build_keeps (fun _ c hsize ha => ha.apply hsize c) ?_ cs h
  intro i
  simp [parentOf, get?, empty, payloads, lastAdopter]

/-! ## Frame -/

/-- A call makes its node, with or without itself as parent. -/
theorem exists_get?_apply_nextIndex (h : a.size < 2 ^ 32 - 1) (c : Call) :
    ∃ p, (a.apply c).get? a.nextIndex = some { c.toNode a with parent := p } := by
  rw [get?_apply h, if_pos rfl]
  by_cases hc : a.nextIndex ∈ c.payload.children
  · exact ⟨a.nextIndex, by rw [if_pos hc]; rfl⟩
  · exact ⟨(c.toNode a).parent, by rw [if_neg hc]⟩

/-- A call touches nothing of an existing node but its parent, even where positions repeat. -/
theorem exists_get?_apply {n : Node} (hn : a.get? i = some n) (c : Call) :
    ∃ p, (a.apply c).get? i = some { n with parent := p } := by
  obtain ⟨hne, hnode⟩ := get?_eq_some_iff.mp hn
  have hpush : ({ a with nodes := a.nodes.push (c.toNode a) } : Arena).get? i = some n := by
    have hlt : i.toNat < a.nodes.size := lt_size_of_get? hn
    refine get?_eq_some_iff.mpr ⟨hne, ?_⟩
    rw [Array.getElem?_push, if_neg (Nat.ne_of_lt hlt)]
    exact hnode
  unfold apply add
  rw [get?_adopt, hpush]
  split
  · exact ⟨a.nextIndex, rfl⟩
  · exact ⟨n.parent, rfl⟩

/-- Neither does a run of calls. -/
theorem exists_get?_applyAll {n : Node} (hn : a.get? i = some n) (cs : List Call)
    (h : a.size + cs.length < 2 ^ 32) : ∃ p, (a.applyAll cs).get? i = some { n with parent := p } := by
  refine applyAll_keeps (P := fun b => ∃ p, b.get? i = some { n with parent := p }) ?_ ⟨n.parent, hn⟩ cs h
  rintro b c _ ⟨p, hp⟩
  obtain ⟨q, hq⟩ := exists_get?_apply hp c
  exact ⟨q, hq⟩

/-- A run can be cut in two. -/
theorem build_append (before after : List Call) :
    build (before ++ after) = (build before).applyAll after := by
  unfold build applyAll
  rw [List.foldl_append]

/-! ## All together -/

/-- **The state after any run of calls.** The `k`-th call gets position `k`, and from then on that position
    holds the node of that call, of which only the parent may change; an end of its span that the call takes
    from an operand is where the operand has it before the call. The parent of every position is its
    last adopter, and absent where there is none; so a parent never stands before its child and always lists
    it, and all parents can be computed from the payloads. -/
theorem build_exact (cs : List Call) (hlen : cs.length < 2 ^ 32) :
    (∀ before c after, cs = before ++ c :: after →
      (build before).nextIndex.toNat = before.length ∧
        ∃ n, (build cs).get? (build before).nextIndex = some n ∧ n.flags = c.flags ∧
          n.pos = c.pos (build before) ∧ n.stop = c.stop (build before) ∧ n.payload = c.payload ∧
          n.pos = c.posFrom.offset (build before).posOf ∧ n.stop = c.stopFrom.offset (build before).stopOf) ∧
      (∀ i, LastAdopter (build cs) i ((build cs).parentOf i) ∨
        ((build cs).parentOf i = .absent ∧ ∀ p, i ∈ (build cs).childrenOf p → ¬i.toNat ≤ p.toNat)) ∧
      (∀ i, (build cs).parentOf i ≠ .absent →
        i.toNat ≤ ((build cs).parentOf i).toNat ∧ i ∈ (build cs).childrenOf ((build cs).parentOf i)) ∧
      ∀ i, (build cs).parentOf i = lastAdopter ((build cs).nodes.toList.map (·.payload)) i := by
  have hlinked := linked_build cs hlen
  refine ⟨?_, hlinked, ?_, computed_build cs hlen⟩
  · -- the call makes its node, and the calls after it keep all but the parent
    rintro before c after rfl
    rw [List.length_append, List.length_cons] at hlen
    have hsize : (build before).size = before.length := size_build before
    refine ⟨by rw [toNat_nextIndex (by omega), hsize], ?_⟩
    obtain ⟨p, hp⟩ := exists_get?_apply_nextIndex (a := build before) (by omega) c
    obtain ⟨q, hq⟩ := exists_get?_applyAll hp after (by rw [size_apply]; omega)
    rw [build_append]
    exact ⟨_, hq, rfl, rfl, rfl, rfl, c.pos_eq _, c.stop_eq _⟩
  · intro i hi
    rcases hlinked i with hp | ⟨habsent, -⟩
    · exact ⟨hp.le, hp.lists⟩
    · exact absurd habsent hi

/-- A name, a block that lists it twice, itself, the node to come and one that never comes, and a pair of
    parentheses around the name. -/
def untidyCalls : List Call :=
  [.identifier 0 1 "a", .block 0 9 ([0, 0, 1, 2, 7].map .ofNat), .parenthesized 0 (.ofNat 0) 9]

/-- The parentheses take the name from the block, the block is its own parent, and the parentheses, which
    the block lists too early, have none. -/
theorem build_exact_untidyCalls :
    untidyCalls.length < 2 ^ 32 ∧
      ([0, 1, 2].map NodeIndex.ofNat).map (build untidyCalls).parentOf = [.ofNat 2, .ofNat 1, .absent] := by
  have hlen : untidyCalls.length < 2 ^ 32 := by decide
  refine ⟨hlen, ?_⟩
  obtain ⟨-, -, -, hcomputed⟩ := build_exact untidyCalls hlen
  rw [List.map_congr_left fun i _ => hcomputed i]
  decide

end SyntaxShapes.Arena
