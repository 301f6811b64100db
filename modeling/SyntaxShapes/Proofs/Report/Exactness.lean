import Mathlib.Data.List.Sort
import Mathlib.Data.Set.Card
import SyntaxShapes.Proofs.Report.Renumbering

/-!
# `SyntaxShapes.Proofs.Report.Exactness` — what a report says, and nothing else

A report is described here without the way in which it is made: which positions it lists, in which order,
what it says of each, and which numbers it gives (`Report.IsExact`). The description leaves no room: exactly
one report on a tree has it, for any options (`eq_ofLoaded_iff`). So whatever the description does not
mention, a report does not depend on: with a filter, whether nodes without shapes are wanted, the order of the
shapes that are asked for, and repeats among them.

The numbers count the usable nodes, before any filter; so they are the same for all options, and can be
found again in the list of a report without a filter.

## Contents
- **Description.** `Load.Loaded.IsUsable`, `Options.Chooses`, `Report.IsExact`.
- **Entries.** `entryAt?_eq_some_iff`, `mem_allEntries_iff`, `pairwise_allEntries`.
- **Numbers.** `mem_summarise_iff`, `shapes_summarise`, `tally_allEntries_eq_ncard`.
- **One report.** `isExact_ofLoaded`, `IsExact.eq`; `eq_ofLoaded_iff`.
- **Other options.** `IsExact.congr`, `count_shapes_eq_tally`; `report_exact`.
-/

namespace SyntaxShapes

open Load (Loaded Malformed)

/-! ## Description -/

/-- Whether a node stands at a position, and was not found malformed. -/
def Load.Loaded.IsUsable (l : Loaded) (i : NodeIndex) : Prop :=
  (l.arena.get? i).isSome = true ∧ ∀ m ∈ l.malformed, m.index ≠ i.val

/-- Whether a node with given shapes is to be listed: without a filter it has some shape, or all nodes are
    wanted; with a filter it has one of the shapes that are asked for. -/
def Options.Chooses (o : Options) (shapes : List Shape) : Prop :=
  (o.only = [] ∧ (o.all = true ∨ shapes ≠ [])) ∨ ∃ s ∈ shapes, s ∈ o.only

/-- What a report on a tree says. -/
structure Report.IsExact (l : Loaded) (o : Options) (r : Report) : Prop where
  /-- It lists the usable nodes that the options choose. -/
  lists : ∀ i, r.Lists i ↔ l.IsUsable i ∧ o.Chooses (l.arena.classify i)
  /-- They are listed by position, each once. -/
  increasing : (r.nodes.map (·.index)).Pairwise (· < ·)
  /-- Each stands there with its kind, its span and its shapes. -/
  entries : ∀ e ∈ r.nodes, ∃ n, l.arena.get? ⟨e.index⟩ = some n ∧
    e = ⟨e.index, n.kind, n.pos, n.stop, l.arena.classify ⟨e.index⟩⟩
  /-- The nodes that could not be used are those of the tree. -/
  malformed : r.malformed = l.malformed
  /-- The shapes that are counted stand in order, each once. -/
  ordered : (r.summary.map (·.1)).Sublist Shape.all
  /-- They are those that some usable node has. -/
  occurs : ∀ s, s ∈ r.summary.map (·.1) ↔ ∃ i, l.IsUsable i ∧ s ∈ l.arena.classify i
  /-- Each is counted as often as there are usable nodes that have it. -/
  counts : ∀ s n, (s, n) ∈ r.summary → n = {i | l.IsUsable i ∧ s ∈ l.arena.classify i}.ncard

/-- The test for what is listed, in words. -/
theorem Options.keeps_iff {o : Options} {shapes : List Shape} :
    o.keeps shapes = true ↔ o.Chooses shapes := by
  unfold keeps Chooses
  cases honly : o.only with
  | nil => simp
  | cons s only => simp

namespace Report

variable {a : Arena} {malformed : List Malformed} {l : Loaded} {o : Options} {r : Report}

/-! ## Entries -/

theorem mem_usableIndices_iff (hsize : l.arena.size < 2 ^ 32 - 1) {i : NodeIndex} :
    i ∈ usableIndices l.arena l.malformed ↔ l.IsUsable i := by
  unfold usableIndices Loaded.IsUsable
  rw [List.mem_filter, Arena.isSome_get?_iff_mem_indices hsize]
  simp

theorem entryAt?_eq_some_iff {i : NodeIndex} {e : Entry} :
    entryAt? a i = some e ↔ ∃ n, a.get? i = some n ∧ e = ⟨i.val, n.kind, n.pos, n.stop, a.classify i⟩ := by
  unfold entryAt?
  rw [Option.map_eq_some_iff]
  simp only [eq_comm]

theorem index_of_entryAt? {i : NodeIndex} {e : Entry} (h : entryAt? a i = some e) : e.index = i.val := by
  obtain ⟨n, -, rfl⟩ := entryAt?_eq_some_iff.mp h
  rfl

/-- The entries are those of the usable nodes, each under its position. -/
theorem mem_allEntries_iff (hsize : l.arena.size < 2 ^ 32 - 1) {e : Entry} :
    e ∈ allEntries l.arena l.malformed ↔ l.IsUsable ⟨e.index⟩ ∧ entryAt? l.arena ⟨e.index⟩ = some e := by
  show e ∈ (usableIndices l.arena l.malformed).filterMap (entryAt? l.arena) ↔ _
  rw [List.mem_filterMap]
  constructor
  · rintro ⟨i, hi, he⟩
    have hindex : ⟨e.index⟩ = i := congrArg NodeIndex.mk (index_of_entryAt? he)
    rw [hindex]
    exact ⟨(mem_usableIndices_iff hsize).mp hi, he⟩
  · rintro ⟨husable, he⟩
    exact ⟨_, (mem_usableIndices_iff hsize).mpr husable, he⟩

/-- The entries stand in order of position. -/
theorem pairwise_allEntries (a : Arena) (malformed : List Malformed) :
    (allEntries a malformed).Pairwise fun e e' => e.index < e'.index := by
  unfold allEntries
  rw [List.pairwise_filterMap]
  refine ((Arena.pairwise_indices a).filter _).imp ?_
  intro i j hij e he e' he'
  rw [index_of_entryAt? he, index_of_entryAt? he']
  exact hij

/-! ## Numbers -/

/-- A summary gives each shape that occurs its number. -/
theorem mem_summarise_iff {entries : List Entry} {s : Shape} {n : Nat} :
    (s, n) ∈ summarise entries ↔ n ≠ 0 ∧ n = tally entries s := by
  unfold summarise
  rw [List.mem_filter, List.mem_map, bne_iff_ne, and_comm]
  refine and_congr_right fun _ => ?_
  constructor
  · rintro ⟨t, -, h⟩
    obtain ⟨rfl, rfl⟩ := Prod.mk.inj h
    rfl
  · rintro rfl
    exact ⟨s, Shape.mem_all s, rfl⟩

theorem shapes_summarise (entries : List Entry) :
    (summarise entries).map (·.1) = Shape.all.filter fun s => tally entries s != 0 := by
  unfold summarise
  rw [List.filter_map, List.map_map]
  exact List.map_id _

/-- **The number for a shape is how many usable nodes have it.** -/
theorem tally_allEntries_eq_ncard (hsize : l.arena.size < 2 ^ 32 - 1) (s : Shape) :
    tally (allEntries l.arena l.malformed) s = {i | l.IsUsable i ∧ s ∈ l.arena.classify i}.ncard := by
  have hset : {i | l.IsUsable i ∧ s ∈ l.arena.classify i} =
      (((usableIndices l.arena l.malformed).filter fun i => s.holds l.arena i).toFinset : Set NodeIndex) := by
    ext i
    rw [List.coe_toFinset]
    show _ ↔ i ∈ (usableIndices l.arena l.malformed).filter _
    rw [List.mem_filter, mem_usableIndices_iff hsize, ← Arena.mem_classify]
    exact Iff.rfl
  have hnodup : (usableIndices l.arena l.malformed).Nodup := (Arena.nodup_indices l.arena).filter _
  rw [hset, Set.ncard_coe_finset, List.toFinset_card_of_nodup (hnodup.filter _), ← List.countP_eq_length_filter,
    tally_allEntries]

theorem tally_allEntries_ne_zero_iff (hsize : l.arena.size < 2 ^ 32 - 1) {s : Shape} :
    tally (allEntries l.arena l.malformed) s ≠ 0 ↔ ∃ i, l.IsUsable i ∧ s ∈ l.arena.classify i := by
  rw [tally_allEntries, ← Nat.pos_iff_ne_zero, List.countP_pos_iff]
  simp only [mem_usableIndices_iff hsize, Arena.mem_classify]

/-! ## One report -/

/-- What is listed are the entries that the options choose. -/
theorem mem_nodes_ofLoaded {e : Entry} :
    e ∈ (ofLoaded l o).nodes ↔ e ∈ allEntries l.arena l.malformed ∧ o.Chooses e.shapes := by
  rw [nodes_ofLoaded, List.mem_filter, Options.keeps_iff]

/-- A position is listed exactly when its node is usable and the options choose its shapes. -/
theorem lists_ofLoaded_iff (hsize : l.arena.size < 2 ^ 32 - 1) {i : NodeIndex} :
    (ofLoaded l o).Lists i ↔ l.IsUsable i ∧ o.Chooses (l.arena.classify i) := by
  constructor
  · rintro ⟨e, he, hindex⟩
    obtain ⟨hentry, hchooses⟩ := mem_nodes_ofLoaded.mp he
    obtain ⟨husable, he⟩ := (mem_allEntries_iff hsize).mp hentry
    obtain rfl : ⟨e.index⟩ = i := congrArg NodeIndex.mk hindex
    obtain ⟨n, -, hn⟩ := entryAt?_eq_some_iff.mp he
    have hshapes : e.shapes = l.arena.classify ⟨e.index⟩ := congrArg Entry.shapes hn
    rw [hshapes] at hchooses
    exact ⟨husable, hchooses⟩
  · rintro ⟨husable, hchooses⟩
    obtain ⟨n, hn⟩ := Option.isSome_iff_exists.mp husable.1
    let e : Entry := ⟨i.val, n.kind, n.pos, n.stop, l.arena.classify i⟩
    have hentry : entryAt? l.arena ⟨e.index⟩ = some e := entryAt?_eq_some_iff.mpr ⟨n, hn, rfl⟩
    have hmem : e ∈ allEntries l.arena l.malformed := (mem_allEntries_iff hsize).mpr ⟨husable, hentry⟩
    exact ⟨e, mem_nodes_ofLoaded.mpr ⟨hmem, hchooses⟩, rfl⟩

/-- **A report is as described.** -/
theorem isExact_ofLoaded (hsize : l.arena.size < 2 ^ 32 - 1) (o : Options) : (ofLoaded l o).IsExact l o where
  lists _ := lists_ofLoaded_iff hsize
  increasing := by
    rw [nodes_ofLoaded, List.pairwise_map]
    exact (pairwise_allEntries _ _).filter _
  entries e he := by
    obtain ⟨-, hentry⟩ := (mem_allEntries_iff hsize).mp (mem_nodes_ofLoaded.mp he).1
    exact entryAt?_eq_some_iff.mp hentry
  malformed := rfl
  ordered := by
    rw [summary_ofLoaded, shapes_summarise]
    exact List.filter_sublist
  occurs s := by
    rw [summary_ofLoaded, shapes_summarise, List.mem_filter, bne_iff_ne, tally_allEntries_ne_zero_iff hsize]
    exact and_iff_right (Shape.mem_all s)
  counts s n h := by
    rw [summary_ofLoaded] at h
    rw [(mem_summarise_iff.mp h).2, tally_allEntries_eq_ncard hsize]

namespace IsExact

variable {r' : Report}

/-- What a description says of a position leaves one entry for it. -/
theorem entry_eq (h : r.IsExact l o) (h' : r'.IsExact l o) {e e' : Entry} (he : e ∈ r.nodes)
    (he' : e' ∈ r'.nodes) (hindex : e'.index = e.index) : e' = e := by
  obtain ⟨n, hn, hentry⟩ := h.entries e he
  obtain ⟨n', hn', hentry'⟩ := h'.entries e' he'
  rw [hindex] at hn' hentry'
  obtain rfl := Option.some.inj (hn.symm.trans hn')
  rw [hentry', hentry]

theorem mem_nodes (h : r.IsExact l o) (h' : r'.IsExact l o) {e : Entry} (he : e ∈ r.nodes) : e ∈ r'.nodes := by
  obtain ⟨e', he', hindex⟩ := (h'.lists ⟨e.index⟩).mpr ((h.lists ⟨e.index⟩).mp ⟨e, he, rfl⟩)
  rw [← h.entry_eq h' he he' hindex]
  exact he'

/-- The description leaves no choice as to the listed nodes. -/
theorem nodes_eq (h : r.IsExact l o) (h' : r'.IsExact l o) : r.nodes = r'.nodes := by
  have hirrefl : Std.Irrefl fun e e' : Entry => e.index < e'.index := ⟨fun e => UInt32.lt_irrefl e.index⟩
  have hantisymm : Std.Antisymm fun e e' : Entry => e.index < e'.index :=
    ⟨fun e e' hlt hgt => absurd hgt (UInt32.lt_asymm hlt)⟩
  have hincreasing := List.pairwise_map.mp h.increasing
  have hincreasing' := List.pairwise_map.mp h'.increasing
  refine hincreasing.eq_of_mem_iff hincreasing' ?_
  intro e
  exact ⟨h.mem_nodes h', h'.mem_nodes h⟩

theorem shapes_eq (h : r.IsExact l o) (h' : r'.IsExact l o) :
    r.summary.map (·.1) = r'.summary.map (·.1) := by
  have hirrefl : Std.Irrefl fun s t : Shape => Shape.all.idxOf s < Shape.all.idxOf t :=
    ⟨fun s => Nat.lt_irrefl _⟩
  have hantisymm : Std.Antisymm fun s t : Shape => Shape.all.idxOf s < Shape.all.idxOf t :=
    ⟨fun s t hlt hgt => absurd hgt (Nat.lt_asymm hlt)⟩
  have hall : Shape.all.Pairwise fun s t => Shape.all.idxOf s < Shape.all.idxOf t := by decide
  refine (hall.sublist h.ordered).eq_of_mem_iff (hall.sublist h'.ordered) ?_
  intro s
  exact (h.occurs s).trans (h'.occurs s).symm

/-- Nor does it as to the summary. -/
theorem summary_eq (h : r.IsExact l o) (h' : r'.IsExact l o) : r.summary = r'.summary := by
  have hcounts : ∀ {r : Report}, r.IsExact l o → r.summary = (r.summary.map (·.1)).map fun s =>
      (s, {i | l.IsUsable i ∧ s ∈ l.arena.classify i}.ncard) := by
    intro r h
    rw [List.map_map]
    refine (List.map_id _).symm.trans (List.map_congr_left ?_)
    rintro ⟨s, n⟩ hmem
    show (s, n) = (s, _)
    rw [h.counts s n hmem]
  rw [hcounts h, hcounts h', h.shapes_eq h']

/-- **Two reports that are as described are the same.** -/
theorem eq (h : r.IsExact l o) (h' : r'.IsExact l o) : r = r' := by
  have hnodes := h.nodes_eq h'
  have hmalformed := h.malformed.trans h'.malformed.symm
  have hsummary := h.summary_eq h'
  obtain ⟨nodes, malformed, summary⟩ := r
  obtain ⟨rfl, rfl, rfl⟩ := (⟨hnodes, hmalformed, hsummary⟩ : _ ∧ _ ∧ _)
  rfl

end IsExact

/-- A report is the one that is made exactly when it is as described. -/
theorem eq_ofLoaded_iff (hsize : l.arena.size < 2 ^ 32 - 1) : r = ofLoaded l o ↔ r.IsExact l o := by
  constructor
  · rintro rfl
    exact isExact_ofLoaded hsize o
  · intro h
    exact h.eq (isExact_ofLoaded hsize o)

/-! ## Other options -/

/-- With a filter, what is chosen depends on the shapes in it alone. -/
theorem chooses_congr {o' : Options} {shapes : List Shape} (hfilter : o.only ≠ [])
    (hsame : ∀ s, s ∈ o.only ↔ s ∈ o'.only) : o.Chooses shapes ↔ o'.Chooses shapes := by
  obtain ⟨s, hs⟩ := List.exists_mem_of_ne_nil _ hfilter
  have hfilter' : o'.only ≠ [] := List.ne_nil_of_mem ((hsame s).mp hs)
  simp only [Options.Chooses, hfilter, hfilter', false_and, false_or, hsame]

/-- A description that chooses the same nodes is the same description. -/
theorem IsExact.congr {o' : Options} (h : r.IsExact l o)
    (hsame : ∀ shapes, o.Chooses shapes ↔ o'.Chooses shapes) : r.IsExact l o' :=
  { h with lists := fun i => (h.lists i).trans (and_congr_right fun _ => hsame _) }

theorem nodup_shapes_of_mem {e : Entry} (he : e ∈ allEntries a malformed) : e.shapes.Nodup := by
  obtain ⟨i, -, hi⟩ := List.mem_filterMap.mp he
  exact nodup_shapes_of_entryAt? hi

/-- Counting a shape in the lists of shapes is counting the entries with it. -/
theorem count_flatMap_shapes {entries : List Entry} (h : ∀ e ∈ entries, e.shapes.Nodup) (s : Shape) :
    (entries.flatMap (·.shapes)).count s = tally entries s := by
  unfold tally
  induction entries with
  | nil => rfl
  | cons e entries ih =>
      rw [List.forall_mem_cons] at h
      rw [List.flatMap_cons, List.count_append, ih h.2, h.1.count, List.countP_cons, Nat.add_comm]
      simp

/-- The number for a shape is found again by counting in the list of a report without a filter. -/
theorem count_shapes_eq_tally (hfilter : o.only = []) (s : Shape) :
    ((ofLoaded l o).nodes.flatMap (·.shapes)).count s = tally (allEntries l.arena l.malformed) s := by
  rw [count_flatMap_shapes fun e he => nodup_shapes_of_mem (mem_nodes_ofLoaded.mp he).1, nodes_ofLoaded]
  unfold tally
  rw [List.countP_filter]
  refine List.countP_congr ?_
  intro e _
  rw [Bool.and_eq_true, and_iff_left_iff_imp]
  -- an entry with a shape is listed, wanted or not
  intro hs
  refine Options.keeps_iff.mpr (Or.inl ⟨hfilter, Or.inr ?_⟩)
  exact List.ne_nil_of_mem (List.contains_iff_mem.mp hs)

/-- **A report is exact.** On a tree with fewer nodes than thirty-two bits can tell apart from none, a report
    is the only one that is as described. With a filter, only the shapes in it matter to a report, not their
    order, repeats, or whether all nodes are wanted. For all options the summary is the same, and it has the
    numbers that are found by counting in the list of a report without a filter. -/
theorem report_exact (l : Loaded) (hsize : l.arena.size < 2 ^ 32 - 1) (o : Options) :
    (∀ r, r = ofLoaded l o ↔ r.IsExact l o) ∧
      ∀ o' : Options,
        (o.only ≠ [] → (∀ s, s ∈ o.only ↔ s ∈ o'.only) → ofLoaded l o = ofLoaded l o') ∧
        (ofLoaded l o).summary = (ofLoaded l o').summary ∧
        (o'.only = [] → ∀ s n, (s, n) ∈ (ofLoaded l o).summary ↔
          n ≠ 0 ∧ n = ((ofLoaded l o').nodes.flatMap (·.shapes)).count s) := by
  refine ⟨fun r => eq_ofLoaded_iff hsize, ?_⟩
  intro o'
  refine ⟨?_, (summary_ofLoaded l o).trans (summary_ofLoaded l o').symm, ?_⟩
  · intro hfilter hsame
    refine (eq_ofLoaded_iff hsize).mpr ?_
    exact (isExact_ofLoaded hsize o).congr fun shapes => chooses_congr hfilter hsame
  · intro hfilter s n
    rw [count_shapes_eq_tally hfilter, summary_ofLoaded]
    exact mem_summarise_iff

/-- `this`, a node that could not be used, and a comma. -/
def thisAndComma : Loaded where
  arena := ⟨#[{ pos := 0, stop := 4, payload := .keyword ⟨.this⟩ }, .placeholder,
    { pos := 5, stop := 6, payload := .token ⟨.comma⟩ }]⟩
  malformed := [⟨1, .guard (.notObject "null")⟩]
  events := []

/-- Asked for twice, `this` is listed once, and nothing else is, even if all nodes are wanted. -/
theorem report_exact_thisAndComma :
    (ofLoaded thisAndComma ⟨[.thisKeyword, .thisKeyword], false⟩).nodes =
        [⟨0, .keyword, 0, 4, [.thisKeyword]⟩] ∧
      ofLoaded thisAndComma ⟨[.thisKeyword, .thisKeyword], false⟩ =
        ofLoaded thisAndComma ⟨[.thisKeyword], true⟩ ∧
      ¬(ofLoaded thisAndComma ⟨[], true⟩).Lists (.ofNat 1) := by
  have hsize : thisAndComma.arena.size < 2 ^ 32 - 1 := by decide
  have hsame := (report_exact thisAndComma hsize ⟨[.thisKeyword, .thisKeyword], false⟩).2 ⟨[.thisKeyword], true⟩
  have hlists := ((report_exact thisAndComma hsize ⟨[], true⟩).1 _).mp rfl
  refine ⟨by decide, hsame.1 (by decide) (by simp), ?_⟩
  intro h
  -- the record names the position
  have husable := ((hlists.lists _).mp h).1
  exact husable.2 _ List.mem_cons_self rfl

end Report

end SyntaxShapes
