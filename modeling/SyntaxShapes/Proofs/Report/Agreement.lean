import Mathlib.Data.List.Forall2
import SyntaxShapes.Proofs.Json.RoundTrip
import SyntaxShapes.Proofs.Report.Loop
import SyntaxShapes.Proofs.Report.Unambiguous
import SyntaxShapes.Report.Json

/-!
# `SyntaxShapes.Proofs.Report.Agreement` — the two forms of a report say the same

A report as JSON text reads back, whatever characters its reasons have, because its value is plain: it is
made of texts and of numbers below thirty-two bits, and nested four deep. What is read has the three lists of
the report, item by item.

The text of the same report can be put together again from what is read, and from nothing else: each item says
what stands in its line, column by column. So both forms have the same numbers and the same names for kinds and
shapes, although they take the names of shapes from two tables.

## Contents
- **Plain values.** `plain_toJson`, for reports whose counts fit; `parse?_jsonText`.
- **Items.** `IsEntry`, `IsMalformed`, `IsCount`: a JSON value beside the item of the report that it stands for.
- **Lines.** `ShowsEntry`, `ShowsMalformed`, `ShowsCount`, `ShowsSummary`: a JSON value beside its line of text.
- **All together.** `exists_lines`, `jsonText_agrees`.
-/

namespace SyntaxShapes.Report

open Json (Value)
open Load (Malformed)

variable {room : Nat}

/-! ## Plain values -/

theorem plain_entryJson (e : Entry) : (entryJson e).Plain (room + 2) := by
  refine .object (by simp) ?_
  simp only [List.mem_cons, List.not_mem_nil, or_false, forall_eq_or_imp, forall_eq]
  refine ⟨Value.plain_nat ?_, .string _, Value.plain_nat ?_, Value.plain_nat ?_, .array ?_⟩
  · exact Nat.lt_trans e.index.toNat_lt (by decide)
  · exact Nat.lt_trans e.pos.toNat_lt (by decide)
  · exact Nat.lt_trans e.stop.toNat_lt (by decide)
  · intro v hv
    obtain ⟨s, -, rfl⟩ := List.mem_map.mp hv
    exact .string _

theorem plain_malformedJson (m : Malformed) : (malformedJson m).Plain (room + 2) := by
  refine .object (by simp) ?_
  simp only [List.mem_cons, List.not_mem_nil, or_false, forall_eq_or_imp, forall_eq]
  exact ⟨Value.plain_nat (Nat.lt_trans m.index.toNat_lt (by decide)), .string _⟩

/-- A count is plain while it fits sixty-four bits. -/
theorem plain_countJson {p : Shape × Nat} (h : p.2 < 2 ^ 64) : (countJson p).Plain (room + 2) := by
  refine .object (by simp) ?_
  simp only [List.mem_cons, List.not_mem_nil, or_false, forall_eq_or_imp, forall_eq]
  exact ⟨.string _, Value.plain_nat h⟩

theorem plain_map {α : Type} {f : α → Value} {xs : List α} (h : ∀ x ∈ xs, (f x).Plain room) :
    (Value.array (xs.map f)).Plain (room + 1) := by
  refine .array ?_
  intro v hv
  obtain ⟨x, hx, rfl⟩ := List.mem_map.mp hv
  exact h x hx

/-- A report is plain while its counts fit sixty-four bits. -/
theorem plain_toJson {r : Report} (h : ∀ p ∈ r.summary, p.2 < 2 ^ 64) : r.toJson.Plain (room + 4) := by
  refine .object (by simp) ?_
  simp only [List.mem_cons, List.not_mem_nil, or_false, forall_eq_or_imp, forall_eq]
  refine ⟨plain_map ?_, plain_map ?_, plain_map ?_⟩
  · exact fun e _ => plain_entryJson e
  · exact fun m _ => plain_malformedJson m
  · exact fun p hp => plain_countJson (h p hp)

/-- **A report as JSON text reads back** as the value that was written. -/
theorem parse?_jsonText {r : Report} (h : ∀ p ∈ r.summary, p.2 < 2 ^ 64) :
    Json.parse? r.jsonText = some r.toJson := by
  have hplain : r.toJson.Plain Json.State.maxOpen := plain_toJson h
  have hafter : ∀ b ∈ ['\n'], Json.isSpace b = true := by
    intro b hb
    rw [List.mem_singleton.mp hb]
    rfl
  exact Json.parse?_write Json.Layout.blank_indented hplain hafter

/-- The counts of a report that was made fit. -/
theorem summary_lt (l : Load.Loaded) (o : Options) : ∀ p ∈ (ofLoaded l o).summary, p.2 < 2 ^ 64 :=
  fun _ hp => Nat.lt_trans (count_lt hp) (by decide)

/-! ## Items -/

/-- Whether a JSON value stands for a listed node. -/
inductive IsEntry : Value → Entry → Prop
  | intro (e : Entry) :
      IsEntry
        (.object [("index", .nat e.index.toNat), ("kind", .string e.kind.name), ("pos", .nat e.pos.toNat),
          ("end", .nat e.stop.toNat), ("shapes", .array (e.shapes.map fun s => .string s.name))]) e

/-- Whether a JSON value stands for a node that could not be used. -/
inductive IsMalformed : Value → Malformed → Prop
  | intro (m : Malformed) :
      IsMalformed (.object [("index", .nat m.index.toNat), ("reason", .string m.reason.message)]) m

/-- Whether a JSON value stands for the count of a shape. -/
inductive IsCount : Value → Shape × Nat → Prop
  | intro (s : Shape) (n : Nat) : IsCount (.object [("shape", .string s.name), ("count", .nat n)]) (s, n)

/-- A listed node as JSON, with the names that the text form has for its shapes. -/
theorem entryJson_eq (e : Entry) :
    entryJson e =
      .object [("index", .nat e.index.toNat), ("kind", .string e.kind.name), ("pos", .nat e.pos.toNat),
        ("end", .nat e.stop.toNat), ("shapes", .array ((e.shapes.map Shape.name).map .string))] := by
  -- the names of the JSON value come from the table of serialised names
  have hshapes : e.shapes.map shapeJson = (e.shapes.map Shape.name).map Value.string := by
    rw [List.map_map]
    refine List.map_congr_left fun s _ => ?_
    unfold shapeJson
    rw [Shape.serialName_eq_name]
    rfl
  unfold entryJson
  rw [hshapes]

theorem countJson_eq (p : Shape × Nat) :
    countJson p = .object [("shape", .string p.1.name), ("count", .nat p.2)] := by
  unfold countJson shapeJson
  rw [Shape.serialName_eq_name]

theorem isEntry_entryJson (e : Entry) : IsEntry (entryJson e) e := by
  rw [entryJson_eq, List.map_map]
  exact .intro e

theorem isMalformed_malformedJson (m : Malformed) : IsMalformed (malformedJson m) m := .intro m

theorem isCount_countJson (p : Shape × Nat) : IsCount (countJson p) p := by
  rw [countJson_eq]
  exact .intro p.1 p.2

/-! ## Lines -/

/-- How a text comes out: as it is, or between the codes of a style. -/
inductive Styled (style : String) (cs : List Char) : Paint → List Char → Prop
  | plain : Styled style cs .plain cs
  | colour : Styled style cs .colour ("\x1b[".toList ++ style.toList ++ 'm' :: cs ++ "\x1b[0m".toList)

theorem styled_styled (style : String) (cs : List Char) (paint : Paint) :
    Styled style cs paint (paint.styled style cs) := by
  cases paint with
  | plain => exact .plain
  | colour => exact .colour

/-- Whether a line has a number sign with an index, filled up to five places, a kind, filled up to twenty-eight, a
    span in brackets, and the names of some shapes with commas between them, in green, all as a JSON value says. -/
inductive ShowsEntry (paint : Paint) : Value → List Char → Prop
  | intro (index pos stop : Nat) (kind : String) (shapes : List String) {number names : List Char}
      (hnumber : number = Nat.toDigits 10 index) (hnames : Styled "32" (", ".intercalate shapes).toList paint names) :
      ShowsEntry paint
        (.object [("index", .nat index), ("kind", .string kind), ("pos", .nat pos), ("end", .nat stop),
          ("shapes", .array (shapes.map .string))])
        ('#' :: number ++ List.replicate (5 - number.length) ' '
          ++ ' ' :: kind.toList ++ List.replicate (28 - kind.toList.length) ' '
          ++ " [".toList ++ Nat.toDigits 10 pos ++ "..".toList ++ Nat.toDigits 10 stop ++ "] ".toList ++ names)

/-- Whether a piece says, in bold yellow, that the node with an index is malformed, and for what reason, both as a
    JSON value says. -/
inductive ShowsMalformed (paint : Paint) : Value → List Char → Prop
  | intro (index : Nat) (reason : String) {word : List Char} (hword : Styled "1;33" "malformed".toList paint word) :
      ShowsMalformed paint (.object [("index", .nat index), ("reason", .string reason)])
        (word ++ " node #".toList ++ Nat.toDigits 10 index ++ ": ".toList ++ reason.toList)

/-- Whether a line has a count, filled up to six places from the left, and a shape, both as a JSON value says. -/
inductive ShowsCount : Value → List Char → Prop
  | intro (shape : String) (n : Nat) {number : List Char} (hnumber : number = Nat.toDigits 10 n) :
      ShowsCount (.object [("shape", .string shape), ("count", .nat n)])
        (List.replicate (6 - number.length) ' ' ++ number ++ "  ".toList ++ shape.toList)

/-- Whether some lines are those of the counts, after an empty one; there are none when there is nothing to count,
    or nobody asked. -/
inductive ShowsSummary : Bool → List Value → List (List Char) → Prop
  | unasked (counts : List Value) : ShowsSummary false counts []
  | nothing : ShowsSummary true [] []
  | counts {counts : List Value} {lines : List (List Char)} (hcounts : counts ≠ [])
      (hlines : List.Forall₂ ShowsCount counts lines) : ShowsSummary true counts ([] :: lines)

/-- The line of a listed node shows what its JSON value says. -/
theorem showsEntry_entryLine (paint : Paint) (e : Entry) : ShowsEntry paint (entryJson e) (entryLine paint e) := by
  have hnames : (", ".intercalate (e.shapes.map Shape.name)).toList = shapeNames e.shapes := by
    rw [String.toList_intercalate, List.map_map]
    rfl
  have hline := ShowsEntry.intro e.index.toNat e.pos.toNat e.stop.toNat e.kind.name (e.shapes.map Shape.name) rfl
    (styled_styled "32" _ paint)
  rw [hnames] at hline
  rw [entryJson_eq]
  simpa [entryLine, padRight, decimal, Paint.green] using hline

theorem showsMalformed_malformedLine (paint : Paint) (m : Malformed) :
    ShowsMalformed paint (malformedJson m) (malformedLine paint m) := by
  have hline := ShowsMalformed.intro m.index.toNat m.reason.message (styled_styled "1;33" _ paint)
  simpa [malformedJson, malformedLine, decimal, Paint.boldYellow] using hline

theorem showsCount_countJson (p : Shape × Nat) :
    ShowsCount (countJson p) (padLeft 6 (decimal p.2) ++ ' ' :: ' ' :: p.1.name.toList) := by
  rw [countJson_eq]
  simpa [padLeft, decimal] using ShowsCount.intro p.1.name p.2 rfl

theorem forall₂_map_map {α β γ : Type} {f : α → β} {g : α → γ} {R : β → γ → Prop} (h : ∀ x, R (f x) (g x))
    (xs : List α) : List.Forall₂ R (xs.map f) (xs.map g) := by
  rw [List.forall₂_map_left_iff, List.forall₂_map_right_iff, List.forall₂_same]
  exact fun x _ => h x

theorem showsSummary_summaryLines (withSummary : Bool) (summary : List (Shape × Nat)) :
    ShowsSummary withSummary (summary.map countJson) (if withSummary then summaryLines summary else []) := by
  cases withSummary with
  | false => exact .unasked _
  | true =>
      cases summary with
      | nil => exact .nothing
      | cons p summary => exact .counts (List.cons_ne_nil _ _) (forall₂_map_map showsCount_countJson _)

/-! ## All together -/

theorem forall₂_map_left {α β : Type} {f : α → β} {R : β → α → Prop} (h : ∀ x, R (f x) x) (xs : List α) :
    List.Forall₂ R (xs.map f) xs := by
  rw [List.forall₂_map_left_iff, List.forall₂_same]
  exact fun x _ => h x

/-- The text of a report is made of lines that its JSON values show. -/
theorem exists_lines (r : Report) (paint : Paint) (withSummary : Bool) :
    ∃ lines pieces counts : List (List Char),
      (r.text paint withSummary).toList = (lines ++ (pieces ++ counts)).flatMap (· ++ ['\n']) ∧
      List.Forall₂ (ShowsEntry paint) (r.nodes.map entryJson) lines ∧
      List.Forall₂ (ShowsMalformed paint) (r.malformed.map malformedJson) pieces ∧
      ShowsSummary withSummary (r.summary.map countJson) counts ∧
      (paint = .plain → MadeOf (r.text .plain withSummary) lines pieces counts) := by
  refine ⟨r.nodes.map (entryLine paint), r.malformed.map (malformedLine paint),
    if withSummary then summaryLines r.summary else [], ?_, forall₂_map_map (showsEntry_entryLine paint) _,
    forall₂_map_map (showsMalformed_malformedLine paint) _, showsSummary_summaryLines _ _, ?_⟩
  · unfold text lines
    rw [String.toList_ofList, List.append_assoc]
  · rintro rfl
    exact madeOf_text r withSummary

/-- **The JSON form of a report reads back, and agrees with the text form.** Whatever was loaded and whatever
    the options: the JSON text is an object with the keys `nodes`, `malformed` and `summary`, under which
    stand, in order, the listed nodes, the nodes that could not be used, and the counts. And the text of the
    same report, coloured or not and with or without the counts, is made of a line for each of these values, in
    the same order, which has the numbers, the names and the reason of the value, and nothing besides; without
    colour, it can be seen from the text which lines are those of the listed nodes. -/
theorem jsonText_agrees (l : Load.Loaded) (o : Options) :
    ∃ nodes malformed summary : List Value,
      Json.parse? (ofLoaded l o).jsonText =
        some (.object [("nodes", .array nodes), ("malformed", .array malformed), ("summary", .array summary)]) ∧
      List.Forall₂ IsEntry nodes (ofLoaded l o).nodes ∧
      List.Forall₂ IsMalformed malformed (ofLoaded l o).malformed ∧
      List.Forall₂ IsCount summary (ofLoaded l o).summary ∧
      ∀ (paint : Paint) (withSummary : Bool), ∃ lines pieces counts : List (List Char),
        ((ofLoaded l o).text paint withSummary).toList = (lines ++ (pieces ++ counts)).flatMap (· ++ ['\n']) ∧
        List.Forall₂ (ShowsEntry paint) nodes lines ∧
        List.Forall₂ (ShowsMalformed paint) malformed pieces ∧
        ShowsSummary withSummary summary counts ∧
        (paint = .plain → MadeOf ((ofLoaded l o).text .plain withSummary) lines pieces counts) :=
  ⟨_, _, _, parse?_jsonText (summary_lt l o), forall₂_map_left isEntry_entryJson _,
    forall₂_map_left isMalformed_malformedJson _, forall₂_map_left isCount_countJson _,
    exists_lines (ofLoaded l o)⟩

end SyntaxShapes.Report
