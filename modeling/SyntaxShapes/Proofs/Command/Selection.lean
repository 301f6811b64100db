import SyntaxShapes.Command.Session
import SyntaxShapes.Proofs.Report.Agreement
import SyntaxShapes.Proofs.Report.Unambiguous

/-!
# `SyntaxShapes.Proofs.Command.Selection` — options select, they never change what is said

Two runs on one source may differ in what their command lines ask for: which nodes are listed, whether counts
follow, the form, and colour. What there is to say is settled before any of that is looked at: whether the run
fails, its status, the line of each node, the part about nodes that could not be used, and the counts. `Said`
holds it, and `Said.Selected` says what of it a run with given options writes; `run_selects` says that every run
does so.

Uncoloured text is taken apart into lines again to say this. An output leaves no choice as to which of them are
the lines of listed nodes (`Report.MadeOf.nodes_unique`), though a reason may span lines.

## Contents
- **Listed nodes.** `full`, the report that lists all; `nodes_ofLoaded_sublist`, `nodes_ofLoaded_eq`.
- **What there is to say.** `Said`, `Said.Selected`, `Said.ofLoaded`, `selected_outcome`.
- **Runs.** `run_selects`.
-/

namespace SyntaxShapes.Report

/-! ## Listed nodes -/

/-- With `all` and without a filter, every usable node is listed. -/
theorem nodes_ofLoaded_eq (l : Load.Loaded) {o : Options} (hall : o.all = true) (honly : o.only = []) :
    (ofLoaded l o).nodes = allEntries l.arena l.malformed := by
  rw [nodes_ofLoaded]
  refine List.filter_eq_self.mpr fun e _ => ?_
  unfold Options.keeps
  rw [honly, hall]
  rfl

/-- The report that lists all usable nodes. -/
def full (l : Load.Loaded) : Report := ofLoaded l { all := true }

theorem nodes_full (l : Load.Loaded) : (full l).nodes = allEntries l.arena l.malformed :=
  nodes_ofLoaded_eq l rfl rfl

/-- Other options list some of the nodes, in order. -/
theorem nodes_ofLoaded_sublist (l : Load.Loaded) (o : Options) :
    (ofLoaded l o).nodes.Sublist (full l).nodes := by
  rw [nodes_full, nodes_ofLoaded]
  exact List.filter_sublist

/-- Other options count all of them. -/
theorem summary_ofLoaded_eq (l : Load.Loaded) (o : Options) : (ofLoaded l o).summary = (full l).summary := by
  rw [full, summary_ofLoaded, summary_ofLoaded]

end SyntaxShapes.Report

namespace SyntaxShapes.Command

open Json (Value)
open Load (HoldsNodes Usable Loaded)
open Report (MadeOf entryLine malformedLine summaryLines entryJson malformedJson countJson)

/-! ## What there is to say -/

/-- All that the runs on one tree have to say. -/
structure Said where
  /-- The status. -/
  status : Nat
  /-- The line of each usable node. -/
  lines : List (List Char)
  /-- The pieces about nodes that could not be used. -/
  malformed : List (List Char)
  /-- The lines with counts. -/
  counts : List (List Char)
  /-- Each usable node as JSON. -/
  nodeValues : List Value
  /-- Each node that could not be used as JSON. -/
  malformedValues : List Value
  /-- The counts as JSON. -/
  countValues : List Value

/-- Whether the outcome of a run says what its command line selects of it. -/
structure Said.Selected (said : Said) (args : Arguments) (paint : Paint) (outcome : Outcome) : Prop where
  /-- The status does not depend on the options. -/
  status : outcome.status = said.status
  /-- Text without colour has the lines of some nodes, in order, of all with `--all` and without `--only`; then all
      pieces about nodes that could not be used; then, if asked for, all counts. -/
  text : args.format = .text → args.noColour = true ∨ paint = .plain →
    ∃ lines, lines.Sublist said.lines ∧ (args.all = true → args.only = [] → lines = said.lines) ∧
      MadeOf outcome.output lines said.malformed (if args.summary then said.counts else []) ∧
      ∀ nodes malformed counts, MadeOf outcome.output nodes malformed counts → nodes = lines
  /-- JSON has some nodes, in order, all of them with `--all` and without `--only`, and the rest in full. -/
  json : args.format = .json →
    ∃ nodes, nodes.Sublist said.nodeValues ∧ (args.all = true → args.only = [] → nodes = said.nodeValues) ∧
      Json.parse? outcome.output =
        some (.object [("nodes", .array nodes), ("malformed", .array said.malformedValues),
          ("summary", .array said.countValues)])

/-- What there is to say about a tree that has been read. -/
def Said.ofLoaded (l : Loaded) : Said :=
  let r := Report.full l
  { status := exitStatus r
    lines := r.nodes.map (entryLine .plain)
    malformed := r.malformed.map (malformedLine .plain)
    counts := summaryLines r.summary
    nodeValues := r.nodes.map entryJson
    malformedValues := r.malformed.map malformedJson
    countValues := r.summary.map countJson }

variable {args : Arguments} {paint : Paint}

/-- The outcome of a run is its selection of what there is to say about its tree. -/
theorem selected_outcome (l : Loaded) : (Said.ofLoaded l).Selected args paint (args.outcome paint l) where
  status := rfl
  text hformat hplain := by
    have hpaint : (if args.noColour then .plain else paint) = Paint.plain := by
      rcases hplain with hno | rfl
      · rw [if_pos hno]
      · exact ite_self _
    have houtput : (args.outcome paint l).output = (Report.ofLoaded l args.options).text .plain args.summary := by
      unfold Arguments.outcome Arguments.render
      rw [hformat, hpaint]
    have hmade := Report.madeOf_text (.ofLoaded l args.options) args.summary
    rw [← houtput, Report.summary_ofLoaded_eq] at hmade
    refine ⟨_, (Report.nodes_ofLoaded_sublist l args.options).map _, ?_, hmade, fun _ _ _ h => h.nodes_unique hmade⟩
    intro hall honly
    rw [Report.nodes_ofLoaded_eq l hall honly, ← Report.nodes_full]
    rfl
  json hformat := by
    have houtput : (args.outcome paint l).output = (Report.ofLoaded l args.options).jsonText := by
      unfold Arguments.outcome Arguments.render
      rw [hformat]
    refine ⟨_, (Report.nodes_ofLoaded_sublist l args.options).map entryJson, ?_, ?_⟩
    · intro hall honly
      rw [Report.nodes_ofLoaded_eq l hall honly, ← Report.nodes_full]
      rfl
    · have hparse := Report.parse?_jsonText (Report.summary_lt l args.options)
      rw [houtput, hparse, Report.toJson, Report.summary_ofLoaded_eq]
      rfl

/-- The status of a run tells whether every raw node can be used. -/
theorem status_ofResults (raws : List Value) :
    (Said.ofLoaded (.ofResults (raws.map Load.readNode))).status = 1 ∧ (∃ raw ∈ raws, ¬Usable raw) ∨
      (Said.ofLoaded (.ofResults (raws.map Load.readNode))).status = 0 ∧ ∀ raw ∈ raws, Usable raw := by
  by_cases h : ∀ raw ∈ raws, Usable raw
  · exact Or.inr ⟨if_pos (Load.isEmpty_malformed_iff.mpr h), h⟩
  · refine Or.inl ⟨if_neg fun hempty => h (Load.isEmpty_malformed_iff.mp hempty), ?_⟩
    simpa using h

/-! ## Runs -/

/-- A run whose tree cannot be read fails with that failure, and writes nothing. -/
theorem run_eq_error {source? : Option String} {failure : Failure} (h : readTree args.input source? = .error failure) :
    run args paint source? = .error failure ∧ (Reply.of (.ok args) paint source?).output = "" := by
  have hrun : run args paint source? = .error failure := by
    unfold run
    rw [h]
    rfl
  refine ⟨hrun, ?_⟩
  unfold Reply.of
  dsimp only
  rw [hrun]
  rfl

/-- **Options select, they never change what is said.** Take the runs on one source, whatever else their command
    lines ask for. Either the source is no JSON, or no tree: then all of them fail for the same cause, and nothing
    is written. Or it is the JSON of a tree: then all of them succeed, with one status, which is one if some raw
    node cannot be used and else zero; and each run writes its selection of what there is to say. -/
theorem run_selects (path source : String) :
    (∃ failure : Failure,
      (Json.parse? source = none ∨ ∃ v e, Json.parse? source = some v ∧ Load.load v = .error e) ∧
      ∀ (args : Arguments) (paint : Paint), args.input = path →
        run args paint (some source) = .error failure ∧
          (Reply.of (.ok args) paint (some source)).output = "") ∨
    ∃ v raws l, Json.parse? source = some v ∧ HoldsNodes v raws ∧ Load.load v = .ok l ∧
      ((Said.ofLoaded l).status = 1 ∧ (∃ raw ∈ raws, ¬Usable raw) ∨
        (Said.ofLoaded l).status = 0 ∧ ∀ raw ∈ raws, Usable raw) ∧
      ∀ (args : Arguments) (paint : Paint), args.input = path →
        ∃ outcome, run args paint (some source) = .ok outcome ∧ (Said.ofLoaded l).Selected args paint outcome := by
  cases hparse : Json.parse? source with
  | none =>
      refine Or.inl ⟨.notJson path, Or.inl rfl, ?_⟩
      rintro args paint rfl
      refine run_eq_error ?_
      unfold readTree
      simp only [hparse]
  | some v =>
      cases hload : Load.load v with
      | error e =>
          refine Or.inl ⟨.notArena path e, Or.inr ⟨v, e, rfl, hload⟩, ?_⟩
          rintro args paint rfl
          refine run_eq_error ?_
          unfold readTree
          simp only [hparse, hload]
          rfl
      | ok l =>
          obtain ⟨raws, hraws, rfl⟩ := Load.load_eq_ok_iff.mp hload
          refine Or.inr ⟨v, raws, _, rfl, hraws, hload, status_ofResults raws, ?_⟩
          intro args paint _
          exact ⟨_, run_eq_ok_iff.mpr ⟨v, _, hparse, hload, rfl⟩, selected_outcome _⟩

/-- A keyword, and a null that is no node. -/
def mixedNodes : List Value :=
  [.object [("kind", .string "Keyword"), ("flags", .nat 0), ("pos", .nat 0), ("end", .nat 4),
     ("keyword", .string "This")], .null]

theorem plain_mixedNodes : (Value.array mixedNodes).Plain Json.State.maxOpen := by
  refine .array ?_
  simp only [mixedNodes, List.mem_cons, List.not_mem_nil, or_false, forall_eq_or_imp, forall_eq]
  refine ⟨.object (by simp) ?_, .null⟩
  simp only [List.mem_cons, List.not_mem_nil, or_false, forall_eq_or_imp, forall_eq]
  exact ⟨.string _, Value.plain_nat (by decide), Value.plain_nat (by decide), Value.plain_nat (by decide), .string _⟩

/-- Their JSON text, with a line end. -/
def mixedSource : String := String.ofList ((Value.array mixedNodes).write .indented 0 ++ ['\n'])

/-- A run that lists everything and one that filters by a shape that does not occur, on the same source. -/
theorem run_selects_mixedSource :
    Json.parse? mixedSource = some (.array mixedNodes) ∧
      ∃ l, Load.load (.array mixedNodes) = .ok l ∧ (Said.ofLoaded l).status = 1 ∧
        (Said.ofLoaded l).lines.length = 1 ∧
        (∃ outcome, run { input := "-", all := true } .plain (some mixedSource) = .ok outcome ∧
          (Said.ofLoaded l).Selected { input := "-", all := true } .plain outcome) ∧
        ∃ outcome, run { input := "-", only := [.methodCall] } .plain (some mixedSource) = .ok outcome ∧
          (Said.ofLoaded l).Selected { input := "-", only := [.methodCall] } .plain outcome := by
  have hmixed : Json.parse? mixedSource = some (.array mixedNodes) := by
    refine Json.parse?_write Json.Layout.blank_indented plain_mixedNodes fun b hb => ?_
    rw [List.mem_singleton.mp hb]
    rfl
  have hread := Load.load_eq_ofResults (.array mixedNodes)
  rcases run_selects "-" mixedSource with ⟨_, hrefused, -⟩ | ⟨v, raws, l, hparse, -, hload, -, hruns⟩
  · rcases hrefused with hnone | ⟨v, e, hparse, hload⟩
    · rw [hmixed] at hnone
      cases hnone
    · obtain rfl := Option.some.inj (hmixed.symm.trans hparse)
      rw [hread] at hload
      cases hload
  · obtain rfl := Option.some.inj (hmixed.symm.trans hparse)
    obtain rfl := Except.ok.inj (hread.symm.trans hload)
    exact ⟨hmixed, _, hread, rfl, rfl, hruns _ .plain rfl, hruns _ .plain rfl⟩

end SyntaxShapes.Command
