import SyntaxShapes.Proofs.Load.Alignment
import SyntaxShapes.Proofs.Report.Exactness

/-!
# `SyntaxShapes.Proofs.Report.Callbacks` — a method call has one callback

A function is reported as an argument when its parent is a method call, and it is the first argument there. A call
has one first argument, so functions that are reported have different parents, even in a tree whose nodes share
children, have wrong parents, or go round in circles. And the parent is always reported as a method call: what
stands in for a node that could not be used is no call.

So a report never counts more of these functions than method calls.

## Contents
- **Parents.** `Arena.exists_methodCall?_of_holds`, `Arena.eq_of_parentOf_eq`.
- **Usable nodes.** `Load.index_ne_of_payload?`, `Report.parentOf_mem_usableIndices`.
- **Reports.** `Report.tally_functionArg_le`, `Report.exists_entry`; `Report.callbacks_injective`.
-/

namespace SyntaxShapes

open Load (Loaded Malformed)

/-! ## Parents -/

namespace Arena

variable {a : Arena} {i j : NodeIndex}

/-- A function that is an argument is the first one of its parent, a method call. -/
theorem exists_methodCall?_of_holds (h : Shape.functionArgInMethodCall.holds a i = true) :
    ∃ m, a.methodCall? (a.parentOf i) = some m ∧ m.arguments.head? = some i := by
  obtain ⟨f, hf⟩ := Option.isSome_iff_exists.mp h
  obtain ⟨function, m, hfunction, hm, hfirst, -⟩ := functionArg?_eq_some_iff.mp hf
  -- the absent position stands for a missing first argument, but no node stands there
  exact ⟨m, hm, (first_eq_iff (ne_absent_of_payload? hfunction)).mp hfirst⟩

/-- **No two functions are the first argument of the same call.** -/
theorem eq_of_parentOf_eq (hi : Shape.functionArgInMethodCall.holds a i = true)
    (hj : Shape.functionArgInMethodCall.holds a j = true) (h : a.parentOf i = a.parentOf j) : i = j := by
  obtain ⟨m, hm, hfirst⟩ := exists_methodCall?_of_holds hi
  obtain ⟨m', hm', hfirst'⟩ := exists_methodCall?_of_holds hj
  rw [h, hm'] at hm
  obtain rfl := Option.some.inj hm
  exact Option.some.inj (hfirst.symm.trans hfirst')

end Arena

/-! ## Usable nodes -/

/-- Where a node could not be used, nothing stands but an unknown token. -/
theorem Load.index_ne_of_payload? {v : Json.Value} {l : Loaded} (h : load v = .ok l)
    (hsize : l.arena.size ≤ 2 ^ 32) {i : NodeIndex} {p : Payload} (hp : l.arena.payload? i = some p)
    (hne : p ≠ .token ⟨.unknown⟩) : ∀ m ∈ l.malformed, m.index ≠ i.val := by
  obtain ⟨raws, -, rfl⟩ := load_eq_ok_iff.mp h
  rw [Loaded.size_ofResults, List.length_map] at hsize
  rintro m hm hindex
  obtain ⟨r, hr, hreason⟩ := (mem_malformed_iff hsize).mp hm
  obtain ⟨n, hn, rfl⟩ := Arena.payload?_eq_some_iff.mp hp
  have hget := (Arena.get?_eq_some_iff.mp hn).2
  rw [nodes_ofResults, List.getElem?_map] at hget
  have hplace : raws[i.toNat]? = some r := by
    rw [← hr, hindex]
    rfl
  rw [hplace, Option.map_some, hreason] at hget
  obtain rfl := Option.some.inj hget
  exact hne rfl

/-- Positions run out where thirty-two bits do. -/
theorem Arena.size_lt_of_mem_indices {a : Arena} {i : NodeIndex} (hsize : a.size ≤ 2 ^ 32) (hi : i ∈ a.indices) :
    a.size < 2 ^ 32 := by
  obtain ⟨k, hk, -⟩ := List.mem_map.mp hi
  rw [List.mem_range] at hk
  omega

namespace Report

variable {v : Json.Value} {l : Loaded} {o : Options} {i : NodeIndex} {e : Entry}

section

variable (h : Load.load v = .ok l) (hsize : l.arena.size ≤ 2 ^ 32)
include h hsize

/-- The call around a function that is an argument is usable, if the function is. -/
theorem parentOf_mem_usableIndices (hi : i ∈ usableIndices l.arena l.malformed)
    (hs : Shape.functionArgInMethodCall.holds l.arena i = true) :
    l.arena.parentOf i ∈ usableIndices l.arena l.malformed ∧
      Shape.methodCall.holds l.arena (l.arena.parentOf i) = true := by
  obtain ⟨m, hm, -⟩ := Arena.exists_methodCall?_of_holds hs
  obtain ⟨call, -, hcall, -⟩ := Arena.methodCall?_eq_some_iff.mp hm
  obtain ⟨n, hn, -⟩ := Arena.payload?_eq_some_iff.mp hcall
  have hlt := Arena.size_lt_of_mem_indices hsize (List.mem_filter.mp hi).1
  have hindex : l.arena.parentOf i ∈ l.arena.indices :=
    (Arena.mem_indices_iff hlt).mpr (Array.getElem?_eq_some_iff.mp (Arena.get?_eq_some_iff.mp hn).2).1
  have hmalformed := Load.index_ne_of_payload? h hsize hcall (by simp)
  refine ⟨List.mem_filter.mpr ⟨hindex, ?_⟩, Option.isSome_iff_exists.mpr ⟨m, hm⟩⟩
  simpa using hmalformed

/-! ## Reports -/

/-- There are no more functions that are arguments than method calls. -/
theorem tally_functionArg_le :
    tally (allEntries l.arena l.malformed) .functionArgInMethodCall ≤
      tally (allEntries l.arena l.malformed) .methodCall := by
  let functions := (usableIndices l.arena l.malformed).filter (Shape.holds l.arena · .functionArgInMethodCall)
  have hnodup : (functions.map l.arena.parentOf).Nodup := by
    refine List.Nodup.map_on ?_ (((Arena.nodup_indices l.arena).filter _).filter _)
    intro i hi j hj
    exact Arena.eq_of_parentOf_eq (List.mem_filter.mp hi).2 (List.mem_filter.mp hj).2
  have hsub : functions.map l.arena.parentOf ⊆
      (usableIndices l.arena l.malformed).filter (Shape.holds l.arena · .methodCall) := by
    intro p hp
    obtain ⟨i, hi, rfl⟩ := List.mem_map.mp hp
    obtain ⟨husable, hs⟩ := List.mem_filter.mp hi
    exact List.mem_filter.mpr (parentOf_mem_usableIndices h hsize husable hs)
  have hlength := (List.subperm_of_subset hnodup hsub).length_le
  rwa [List.length_map, ← List.countP_eq_length_filter, ← List.countP_eq_length_filter, ← tally_allEntries,
    ← tally_allEntries] at hlength

end

/-- A listed node is usable, and listed with what its position says. -/
theorem entryAt?_of_mem_nodes (he : e ∈ (ofLoaded l o).nodes) :
    ⟨e.index⟩ ∈ usableIndices l.arena l.malformed ∧ entryAt? l.arena ⟨e.index⟩ = some e := by
  obtain ⟨i, hi, he⟩ := List.mem_filterMap.mp (mem_nodes_ofLoaded.mp he).1
  have hindex : ⟨e.index⟩ = i := congrArg NodeIndex.mk (index_of_entryAt? he)
  rw [hindex]
  exact ⟨hi, he⟩

/-- A usable node with a shape is listed, without a filter or with one for the shape. -/
theorem exists_entry {s : Shape} (hi : i ∈ usableIndices l.arena l.malformed) (hs : s.holds l.arena i = true)
    (ho : o.only = [] ∨ s ∈ o.only) : ∃ e ∈ (ofLoaded l o).nodes, e.index = i.val ∧ s ∈ e.shapes := by
  obtain ⟨n, hn⟩ := Option.isSome_iff_exists.mp (Shape.isSome_get?_of_holds hs)
  have hmem : s ∈ l.arena.classify i := Arena.mem_classify.mpr hs
  have hentry : entryAt? l.arena i = some ⟨i.val, n.kind, n.pos, n.stop, l.arena.classify i⟩ :=
    entryAt?_eq_some_iff.mpr ⟨n, hn, rfl⟩
  refine ⟨_, mem_nodes_ofLoaded.mpr ⟨List.mem_filterMap.mpr ⟨i, hi, hentry⟩, ?_⟩, rfl, hmem⟩
  obtain honly | honly := ho
  · exact .inl ⟨honly, .inr (List.ne_nil_of_mem hmem)⟩
  · exact .inr ⟨s, hmem, honly⟩

/-- The nodes that a report lists as a function that is an argument. -/
def callbacks (r : Report) : Set Entry :=
  {e | e ∈ r.nodes ∧ .functionArgInMethodCall ∈ e.shapes}

/-- **Callbacks are injected into method calls.** In a report on anything that was loaded: going to the parent is
    injective on the functions that are listed as an argument, and leads to a method call that has the function
    as its first argument. With no more nodes than thirty-two bits can tell apart, that call is not
    malformed, and is listed too, unless the options leave it out; and for all options there are at least as
    many method calls as such functions. -/
theorem callbacks_injective (h : Load.load v = .ok l) (o : Options) :
    Set.InjOn (fun e : Entry => l.arena.parentOf ⟨e.index⟩) (ofLoaded l o).callbacks ∧
      (∀ e ∈ (ofLoaded l o).callbacks, ∃ m, l.arena.methodCall? (l.arena.parentOf ⟨e.index⟩) = some m ∧
        m.arguments.head? = some ⟨e.index⟩) ∧
      (l.arena.size ≤ 2 ^ 32 →
        (∀ e ∈ (ofLoaded l o).callbacks, l.IsUsable (l.arena.parentOf ⟨e.index⟩) ∧
          (o.only = [] ∨ .methodCall ∈ o.only → ∃ e' ∈ (ofLoaded l o).nodes,
            e'.index = (l.arena.parentOf ⟨e.index⟩).val ∧ .methodCall ∈ e'.shapes)) ∧
        (ofLoaded l o).count .functionArgInMethodCall ≤ (ofLoaded l o).count .methodCall) := by
  have hholds : ∀ e ∈ (ofLoaded l o).callbacks, Shape.functionArgInMethodCall.holds l.arena ⟨e.index⟩ = true := by
    rintro e ⟨he, hs⟩
    obtain ⟨n, -, hentry⟩ := entryAt?_eq_some_iff.mp (entryAt?_of_mem_nodes he).2
    rw [hentry] at hs
    exact Arena.mem_classify.mp hs
  refine ⟨?_, fun e he => Arena.exists_methodCall?_of_holds (hholds e he), ?_⟩
  · intro e he e' he' hparent
    have hindex := Arena.eq_of_parentOf_eq (hholds e he) (hholds e' he') hparent
    have hentry := (entryAt?_of_mem_nodes he.1).2
    rw [hindex, (entryAt?_of_mem_nodes he'.1).2] at hentry
    exact (Option.some.inj hentry).symm
  · intro hsize
    refine ⟨?_, ?_⟩
    · intro e he
      obtain ⟨husable, hs⟩ := parentOf_mem_usableIndices h hsize (entryAt?_of_mem_nodes he.1).1 (hholds e he)
      refine ⟨⟨Shape.isSome_get?_of_holds hs, ?_⟩, exists_entry husable hs⟩
      simpa using (List.mem_filter.mp husable).2
    · rw [ofLoaded, count_build, count_build]
      exact tally_functionArg_le h hsize

/-- The raw nodes of a method call with two functions, the first of which is also what the method is looked up
    on; and of a third function, whose parent could not be used. -/
def looseCallbacks : List Json.Value :=
  .null :: [
    Node.toJson ⟨0, 0, 9, ⟨3⟩, .functionExpression { body := .absent }⟩,
    Node.toJson ⟨0, 0, 11, ⟨3⟩, .propertyAccess ⟨⟨1⟩, ⟨0⟩, false⟩⟩,
    Node.toJson ⟨0, 0, 30, ⟨4⟩, .call ⟨⟨2⟩, .ofNodes [⟨1⟩, ⟨4⟩]⟩⟩,
    Node.toJson ⟨0, 20, 29, ⟨3⟩, .functionExpression { body := .absent }⟩,
    Node.toJson ⟨0, 30, 39, ⟨0⟩, .functionExpression { body := .absent }⟩]

/-- Of the three functions one is reported, with the call that it is the first argument of. -/
theorem callbacks_injective_looseCallbacks :
    ∃ l, Load.load (.array looseCallbacks) = .ok l ∧
      (ofLoaded l {}).nodes = [⟨1, .functionExpression, 0, 9, [.functionArgInMethodCall]⟩,
        ⟨3, .call, 0, 30, [.methodCall]⟩] ∧
      l.IsUsable ⟨3⟩ ∧ (ofLoaded l {}).count .functionArgInMethodCall ≤ (ofLoaded l {}).count .methodCall := by
  have h := Load.load_eq_ofResults (.array looseCallbacks)
  have hnodes : (ofLoaded (.ofResults (looseCallbacks.map Load.readNode)) {}).nodes =
      [⟨1, .functionExpression, 0, 9, [.functionArgInMethodCall]⟩, ⟨3, .call, 0, 30, [.methodCall]⟩] := by
    rfl
  obtain ⟨-, -, hbounded⟩ := callbacks_injective h {}
  obtain ⟨hcallbacks, hcount⟩ := hbounded (by decide +kernel)
  have hcallback := hcallbacks ⟨1, .functionExpression, 0, 9, [.functionArgInMethodCall]⟩
    ⟨hnodes ▸ List.mem_cons_self, List.mem_cons_self⟩
  exact ⟨_, h, hnodes, hcallback.1, hcount⟩

end Report

end SyntaxShapes
