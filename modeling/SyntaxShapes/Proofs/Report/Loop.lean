import SyntaxShapes.Proofs.Shape.Exclusion
import SyntaxShapes.Report.Basic

/-!
# `SyntaxShapes.Proofs.Report.Loop` — what looking at all nodes adds up to

A report is made in one loop over the positions of a tree: it passes over what could not be used, counts the shapes
of every other node in a table, and lists those that the options choose. What the loop ends with can be said without
it, from the entries of all usable nodes: the listed ones are a part of them, in order, and the numbers are counts
over all of them, whatever is listed.

The table holds only shapes that were met, in the order in which they were met first; all that is asked of it is
what it says about a shape (`lookup_bump`). `Progress.Sums` relates what is there after some steps to the entries so
far; one more step keeps it (`Progress.Sums.visit`), so it holds of a whole run, and `build_eq` says what a report is.

## Contents
- **Entries.** `allEntries`, `tally`, `summarise`.
- **Tables.** `lookup_bump`, `lookup_foldl_bump`; `Counts`, `Counts.summary`.
- **One step.** `Progress.Sums`, `Progress.Sums.add`, `Progress.Sums.visit`.
- **A run.** `Progress.Sums.foldl`; `build_eq`, with `nodes_build` and `summary_build`, and the same of
  `ofLoaded`.
- **Numbers.** `count_lt`, which bounds what a summary can say.
-/

namespace SyntaxShapes.Report

open Load (Malformed)

variable {a : Arena} {malformed : List Malformed} {o : Options}

/-! ## Entries -/

/-- The entries of all usable nodes, listed or not. -/
def allEntries (a : Arena) (malformed : List Malformed) : List Entry :=
  (a.indices.filter fun i => !(malformed.any fun m => m.index == i.val)).filterMap (entryAt? a)

/-- The number of entries with a shape. -/
def tally (entries : List Entry) (s : Shape) : Nat :=
  entries.countP fun e => e.shapes.contains s

/-- The shapes that occur in some entries, in order, each with the number of entries that have it. -/
def summarise (entries : List Entry) : List (Shape × Nat) :=
  (Shape.all.map fun s => (s, tally entries s)).filter fun p => p.2 != 0

theorem tally_append (entries entries' : List Entry) (s : Shape) :
    tally (entries ++ entries') s = tally entries s + tally entries' s :=
  List.countP_append

theorem tally_singleton (e : Entry) (s : Shape) : tally [e] s = if s ∈ e.shapes then 1 else 0 := by
  simp [tally, List.countP_cons]

/-! ## Tables -/

/-- Counting a shape once more changes what a table says of this shape, and of no other. -/
theorem lookup_bump (s t : Shape) (counts : List (Shape × Nat)) :
    (bump s counts).lookup t =
      if t = s then some ((counts.lookup s).getD 0 + 1) else counts.lookup t := by
  induction counts with
  | nil =>
      unfold bump
      rw [List.lookup_cons]
      by_cases hts : t = s
      · simp [hts]
      · simp [hts, beq_eq_false_iff_ne.mpr hts]
  | cons p counts ih =>
      obtain ⟨u, n⟩ := p
      unfold bump
      by_cases hus : u = s
      · subst hus
        rw [if_pos rfl, List.lookup_cons, List.lookup_cons, List.lookup_cons]
        by_cases htu : t = u
        · simp [htu]
        · simp [htu, beq_eq_false_iff_ne.mpr htu]
      · have hsu : ¬s = u := fun h => hus h.symm
        rw [if_neg hus, List.lookup_cons, List.lookup_cons, List.lookup_cons, ih,
          beq_eq_false_iff_ne.mpr hsu]
        by_cases htu : t = u
        · simp [htu, hus]
        · simp [beq_eq_false_iff_ne.mpr htu]

/-- The shapes of one node, each of them once. -/
theorem lookup_foldl_bump {shapes : List Shape} (hshapes : shapes.Nodup) (t : Shape) (counts : List (Shape × Nat)) :
    (shapes.foldl (fun counts s => bump s counts) counts).lookup t =
      if t ∈ shapes then some ((counts.lookup t).getD 0 + 1) else counts.lookup t := by
  induction shapes generalizing counts with
  | nil => rfl
  | cons s ss ih =>
      obtain ⟨hs, hss⟩ := List.nodup_cons.mp hshapes
      rw [List.foldl_cons, ih hss, lookup_bump]
      by_cases hts : t = s
      · subst hts
        simp [hs]
      · simp [hts]

/-- Whether a table says of each shape how many of some entries have it, and is silent when none has. -/
def Counts (counts : List (Shape × Nat)) (entries : List Entry) : Prop :=
  ∀ s, counts.lookup s = if tally entries s = 0 then none else some (tally entries s)

theorem counts_nil : Counts [] [] := fun _ => rfl

/-- Counting the shapes of one more entry keeps a table right. -/
theorem Counts.append {counts : List (Shape × Nat)} {entries : List Entry} (h : Counts counts entries) {e : Entry}
    (he : e.shapes.Nodup) :
    Counts (e.shapes.foldl (fun counts s => bump s counts) counts) (entries ++ [e]) := by
  intro s
  rw [lookup_foldl_bump he, h s, tally_append, tally_singleton]
  by_cases hs : s ∈ e.shapes
  · by_cases hzero : tally entries s = 0
    · simp [hs, hzero]
    · simp [hs, hzero]
  · simp [hs]

/-- Reading a table in the order of the shapes gives a summary. -/
theorem Counts.summary {counts : List (Shape × Nat)} {entries : List Entry} (h : Counts counts entries) :
    (Shape.all.filterMap fun s => (counts.lookup s).map fun n => (s, n)) = summarise entries := by
  unfold summarise
  rw [← List.filterMap_eq_filter, List.filterMap_map]
  refine List.filterMap_congr fun s _ => ?_
  rw [h s]
  by_cases hzero : tally entries s = 0
  · simp [hzero, Option.guard]
  · simp [hzero, Option.guard]

/-! ## One step -/

theorem nodup_shapes_of_entryAt? {i : NodeIndex} {e : Entry} (h : entryAt? a i = some e) : e.shapes.Nodup := by
  obtain ⟨n, -, rfl⟩ := Option.map_eq_some_iff.mp h
  exact a.nodup_classify i

namespace Progress

/-- Whether what is there is what some entries add up to. -/
structure Sums (o : Options) (p : Progress) (entries : List Entry) : Prop where
  /-- All of them are counted. -/
  counts : Counts p.counts entries
  /-- Those that the options choose are listed. -/
  nodes : p.nodes.toList = entries.filter fun e => o.keeps e.shapes

theorem sums_start (o : Options) : ({} : Progress).Sums o [] := ⟨counts_nil, rfl⟩

variable {p : Progress} {entries : List Entry}

theorem Sums.add (h : p.Sums o entries) {e : Entry} (he : e.shapes.Nodup) : (p.add o e).Sums o (entries ++ [e]) where
  counts := h.counts.append he
  nodes := by
    unfold Progress.add
    rw [List.filter_append, ← h.nodes, List.filter_singleton]
    cases o.keeps e.shapes with
    | true => exact Array.toList_push
    | false => exact (List.append_nil _).symm

/-- One more position adds the entry of its node, if that is usable. -/
theorem Sums.visit (h : p.Sums o entries) (a : Arena) (malformed : List Malformed) (i : NodeIndex) :
    (p.visit a malformed o i).Sums o
      (entries ++ ([i].filter fun i => !(malformed.any fun m => m.index == i.val)).filterMap (entryAt? a)) := by
  unfold Progress.visit
  rw [List.filter_singleton]
  cases malformed.any fun m => m.index == i.val with
  | true =>
      show p.Sums o (entries ++ [])
      rwa [List.append_nil]
  | false =>
      rw [if_neg Bool.false_ne_true, Bool.not_false, cond_true, List.filterMap_cons, List.filterMap_nil]
      cases hi : entryAt? a i with
      | none => rwa [List.append_nil]
      | some e => exact h.add (nodup_shapes_of_entryAt? hi)

/-! ## A run -/

/-- A run over more positions adds the entries of the usable nodes among them, in order. -/
theorem Sums.foldl (h : p.Sums o entries) (a : Arena) (malformed : List Malformed) (is : List NodeIndex) :
    (is.foldl (Progress.visit a malformed o) p).Sums o
      (entries ++ (is.filter fun i => !(malformed.any fun m => m.index == i.val)).filterMap (entryAt? a)) := by
  induction is generalizing p entries with
  | nil => rwa [List.filter_nil, List.filterMap_nil, List.append_nil]
  | cons i is ih =>
      have hrest := ih (h.visit a malformed i)
      rwa [List.append_assoc, ← List.filterMap_append, ← List.filter_append] at hrest

/-- What some entries add up to becomes the report of them. -/
theorem Sums.finish (h : p.Sums o entries) (malformed : List Malformed) :
    p.finish malformed =
      { nodes := entries.filter fun e => o.keeps e.shapes, malformed, summary := summarise entries } := by
  unfold Progress.finish
  rw [h.counts.summary, h.nodes]

end Progress

/-- **A report without its loop.** The listed nodes are those of the usable ones that the options choose, and the
    summary counts the shapes of all usable ones. -/
theorem build_eq (a : Arena) (malformed : List Malformed) (o : Options) :
    build a malformed o =
      { nodes := (allEntries a malformed).filter fun e => o.keeps e.shapes
        malformed
        summary := summarise (allEntries a malformed) } :=
  ((Progress.sums_start o).foldl a malformed a.indices).finish malformed

theorem nodes_build (a : Arena) (malformed : List Malformed) (o : Options) :
    (build a malformed o).nodes = (allEntries a malformed).filter fun e => o.keeps e.shapes := by
  rw [build_eq]

theorem summary_build (a : Arena) (malformed : List Malformed) (o : Options) :
    (build a malformed o).summary = summarise (allEntries a malformed) := by
  rw [build_eq]

/-- The listed nodes are the usable ones that the options choose, in order. -/
theorem nodes_ofLoaded (l : Load.Loaded) (o : Options) :
    (ofLoaded l o).nodes = (allEntries l.arena l.malformed).filter fun e => o.keeps e.shapes :=
  nodes_build _ _ o

/-- The summary counts all usable nodes, listed or not. -/
theorem summary_ofLoaded (l : Load.Loaded) (o : Options) :
    (ofLoaded l o).summary = summarise (allEntries l.arena l.malformed) :=
  summary_build _ _ o

/-! ## Numbers -/

theorem length_allEntries_lt (a : Arena) (malformed : List Malformed) :
    (allEntries a malformed).length < 2 ^ 32 := by
  unfold allEntries
  refine Nat.lt_of_le_of_lt (List.length_filterMap_le _ _) ?_
  refine Nat.lt_of_le_of_lt (List.length_filter_le _ _) ?_
  simp only [Arena.indices, List.length_map, List.length_range]
  exact Nat.mod_lt _ (by decide)

/-- No count in a summary reaches 32 bits. -/
theorem count_lt {p : Shape × Nat} (h : p ∈ (build a malformed o).summary) : p.2 < 2 ^ 32 := by
  rw [summary_build] at h
  simp only [summarise, List.mem_filter, List.mem_map] at h
  obtain ⟨⟨s, -, rfl⟩, -⟩ := h
  exact Nat.lt_of_le_of_lt List.countP_le_length (length_allEntries_lt a malformed)

end SyntaxShapes.Report
