import Mathlib.Data.List.Forall2
import SyntaxShapes.Proofs.Load.Alignment
import SyntaxShapes.Proofs.Node.Wording
import SyntaxShapes.Report.Text

/-!
# `SyntaxShapes.Proofs.Report.Lines` — a line for each node, and no other

A report for reading has one line for each listed node and one for each node that could not be used, as long
as no reason brings a line end of its own. A reason does so exactly when it is about an unknown name that
holds one: `text_oneLineEach_iff` says in terms of the raw nodes when the lines are what they should be.
`not_oneLineEach_brokenName` shows a tree for which they are not: one node, on two lines.

That a line end inside a reason cannot be made good by reading the text in another way is a matter of
counting: a text has as many lines as line ends.

## Contents
- **Lines.** `HasLines`; `exists_hasLines_iff`, by the number of line ends.
- **Lines of a report.** No line end in the line of a listed node; `newline_mem_malformedLine_iff`.
- **One line each.** `OneLineEach`, `oneLineEach_iff`.
- **All trees.** `text_oneLineEach_iff`, and the tree for which it fails.
-/

namespace SyntaxShapes.Report

open Json (Value)
open Load (HoldsNodes Malformed Reason readNode)

/-! ## Lines -/

/-- Whether a text consists of some lines and nothing else: each has a line end behind it, and none inside. -/
structure HasLines (text : String) (lines : List (List Char)) : Prop where
  /-- The text is made of the lines. -/
  toList_eq : text.toList = lines.flatMap (· ++ ['\n'])
  /-- No line spans lines. -/
  unbroken : ∀ line ∈ lines, '\n' ∉ line

/-- A text of some pieces has a line end for each of them, and those inside of them. -/
theorem count_newline_flatMap (lines : List (List Char)) :
    (lines.flatMap (· ++ ['\n'])).count '\n' = lines.flatten.count '\n' + lines.length := by
  induction lines with
  | nil => rfl
  | cons line lines ih =>
      rw [List.flatMap_cons, List.count_append, List.count_append, ih, List.flatten_cons, List.count_append,
        List.length_cons, List.count_singleton_self]
      omega

theorem count_newline_flatten_eq_zero_iff {lines : List (List Char)} :
    lines.flatten.count '\n' = 0 ↔ ∀ line ∈ lines, '\n' ∉ line := by
  rw [List.count_eq_zero, List.mem_flatten]
  constructor
  · intro h line hline hmem
    exact h ⟨line, hline, hmem⟩
  · rintro h ⟨line, hline, hmem⟩
    exact h line hline hmem

/-- What is put together from some pieces, each with a line end behind it, has that many lines only if no
    piece has a line end inside. -/
theorem exists_hasLines_iff {pieces : List (List Char)} :
    (∃ lines, HasLines (String.ofList (pieces.flatMap (· ++ ['\n']))) lines ∧ lines.length = pieces.length) ↔
      ∀ piece ∈ pieces, '\n' ∉ piece := by
  constructor
  · rintro ⟨lines, ⟨htext, hlines⟩, hlen⟩
    have hcount := congrArg (List.count '\n') htext
    rw [String.toList_ofList, count_newline_flatMap, count_newline_flatMap,
      count_newline_flatten_eq_zero_iff.mpr hlines, hlen] at hcount
    exact count_newline_flatten_eq_zero_iff.mp (by omega)
  · intro h
    exact ⟨pieces, ⟨String.toList_ofList, h⟩, rfl⟩

/-! ## Lines of a report -/

open Text (newline_notMem_toDigits)

theorem newline_notMem_decimal (n : Nat) : '\n' ∉ decimal n := newline_notMem_toDigits (by decide) n

theorem newline_notMem_padRight {cs : List Char} (h : '\n' ∉ cs) (width : Nat) : '\n' ∉ padRight width cs := by
  unfold padRight
  rw [List.mem_append, not_or]
  exact ⟨h, fun hmem => absurd (List.eq_of_mem_replicate hmem) (by decide)⟩

theorem newline_notMem_kindName (k : Kind) : '\n' ∉ k.name.toList :=
  Kind.newline_notMem_names k.name (List.mem_map_of_mem (Named.mem_all k))

theorem newline_notMem_shapeNames (shapes : List Shape) : '\n' ∉ shapeNames shapes := by
  have hnames : ∀ name ∈ shapes.map Shape.name, '\n' ∉ name.toList := by
    intro name hmem
    obtain ⟨s, -, rfl⟩ := List.mem_map.mp hmem
    cases s
    all_goals decide
  have hcomma : '\n' ∉ ", ".toList := by decide
  have h := Json.newline_notMem_intercalate hcomma hnames
  rw [String.toList_intercalate, List.map_map] at h
  exact h

/-- The line of a listed node is one line. -/
theorem newline_notMem_entryLine (e : Entry) : '\n' ∉ entryLine .plain e := by
  have hindex := newline_notMem_padRight (newline_notMem_decimal e.index.toNat) 5
  have hkind := newline_notMem_padRight (newline_notMem_kindName e.kind) 28
  simp [entryLine, Paint.green, Paint.styled, hindex, hkind, newline_notMem_decimal, newline_notMem_shapeNames]

/-- The line of a node that could not be used spans lines exactly when its reason does. -/
theorem newline_mem_malformedLine_iff {m : Malformed} :
    '\n' ∈ malformedLine .plain m ↔ '\n' ∈ m.reason.message.toList := by
  simp [malformedLine, Paint.boldYellow, Paint.styled, newline_notMem_decimal]

/-! ## One line each -/

/-- Whether a text has one line for each listed node of a report and then one for each node that could not be
    used, in order and with its position in front, and nothing else. -/
def OneLineEach (r : Report) (text : String) : Prop :=
  ∃ listed malformed : List (List Char),
    HasLines text (listed ++ malformed) ∧
    List.Forall₂ (fun e line => '#' :: decimal e.index.toNat ++ [' '] <+: line) r.nodes listed ∧
    List.Forall₂ (fun m line => "malformed node #".toList ++ decimal m.index.toNat ++ [':'] <+: line)
      r.malformed malformed

/-- The line of a listed node begins with its number. -/
theorem prefix_entryLine (e : Entry) : '#' :: decimal e.index.toNat ++ [' '] <+: entryLine .plain e := by
  -- behind the number stands a space, be it of the column or of the gap that follows it
  unfold entryLine padRight
  cases 5 - (decimal e.index.toNat).length with
  | zero => simp
  | succ n => simp [List.replicate_succ]

theorem prefix_malformedLine (m : Malformed) :
    "malformed node #".toList ++ decimal m.index.toNat ++ [':'] <+: malformedLine .plain m := by
  have hlead : "malformed node #".toList = "malformed".toList ++ " node #".toList := by decide
  rw [hlead]
  exact ⟨' ' :: m.reason.message.toList, by simp [malformedLine, Paint.boldYellow, Paint.styled]⟩

/-- A report has one line each exactly when no reason spans lines. -/
theorem oneLineEach_iff {r : Report} :
    OneLineEach r (r.text .plain false) ↔ ∀ m ∈ r.malformed, '\n' ∉ m.reason.message.toList := by
  have hpieces : r.lines .plain false = r.nodes.map (entryLine .plain) ++ r.malformed.map (malformedLine .plain) :=
    List.append_nil _
  constructor
  · rintro ⟨listed, malformed, hlines, hlisted, hmalformed⟩ m hm
    have hlen : (listed ++ malformed).length = (r.lines .plain false).length := by
      rw [hpieces, List.length_append, List.length_append, List.length_map, List.length_map,
        hlisted.length_eq, hmalformed.length_eq]
    have hunbroken := exists_hasLines_iff.mp ⟨_, hlines, hlen⟩
    rw [← newline_mem_malformedLine_iff]
    refine hunbroken _ ?_
    rw [hpieces]
    exact List.mem_append_right _ (List.mem_map_of_mem hm)
  · intro h
    refine ⟨r.nodes.map (entryLine .plain), r.malformed.map (malformedLine .plain), ⟨?_, ?_⟩, ?_, ?_⟩
    · rw [← hpieces]
      exact String.toList_ofList
    · intro line hline
      rcases List.mem_append.mp hline with hline | hline
      · obtain ⟨e, -, rfl⟩ := List.mem_map.mp hline
        exact newline_notMem_entryLine e
      · obtain ⟨m, hm, rfl⟩ := List.mem_map.mp hline
        rw [newline_mem_malformedLine_iff]
        exact h m hm
    · rw [List.forall₂_map_right_iff, List.forall₂_same]
      exact fun e _ => prefix_entryLine e
    · rw [List.forall₂_map_right_iff, List.forall₂_same]
      exact fun m _ => prefix_malformedLine m

/-! ## All trees -/

/-- A reason spans lines exactly when it is about an unknown name that does. -/
theorem newline_mem_reason_iff {raw : Value} {reason : Reason} (h : readNode raw = .error reason) :
    '\n' ∈ reason.message.toList ↔
      ∃ name known, reason = .read (.unknownVariant name known) ∧ '\n' ∈ name.toList := by
  rcases Load.readNode_eq_error_iff.mp h with ⟨fault, -, rfl⟩ | ⟨-, e, he, rfl⟩
  · have hguard : '\n' ∉ "missing one of kind, flags, pos, end".toList := by decide
    exact ⟨fun hmem => absurd hmem hguard, nofun⟩
  · show '\n' ∈ e.message.toList ↔ _
    rw [Node.newline_mem_message_iff he]
    simp only [Reason.read.injEq]

/-- **A report has one line for each node exactly when no unknown name spans lines.** Every value that holds
    raw nodes is loaded. Whatever the options, its uncoloured report without the counts consists of one line
    for each listed node and one for each node that could not be used, in order, and of nothing else, if and
    only if no raw node is refused for an unknown name with a line end in it. Nothing else that the value holds
    can add a line or split one. -/
theorem text_oneLineEach_iff (v : Value) (raws : List Value) (h : HoldsNodes v raws) :
    ∃ l, Load.load v = .ok l ∧ ∀ o : Options,
      OneLineEach (ofLoaded l o) ((ofLoaded l o).text .plain false) ↔
        ∀ raw ∈ raws, ∀ name known, readNode raw = .error (.read (.unknownVariant name known)) →
          '\n' ∉ name.toList := by
  refine ⟨_, Load.load_eq_ofResults h, ?_⟩
  intro o
  rw [oneLineEach_iff]
  show (∀ m ∈ (Load.Loaded.ofResults (raws.map readNode)).malformed, _) ↔ _
  constructor
  · intro hreasons raw hraw name known hfail hname
    obtain ⟨m, hm, hreason⟩ := Load.exists_mem_malformed_iff.mpr ⟨raw, hraw, hfail⟩
    refine hreasons m hm ?_
    rw [hreason, newline_mem_reason_iff hfail]
    exact ⟨name, known, rfl, hname⟩
  · intro hnames m hm hmem
    obtain ⟨raw, hraw, hfail⟩ := Load.exists_mem_malformed_iff.mp ⟨m, hm, rfl⟩
    obtain ⟨name, known, hreason, hname⟩ := (newline_mem_reason_iff hfail).mp hmem
    rw [hreason] at hfail
    exact hnames raw hraw name known hfail hname

/-- A node, and two that cannot be used: one has an unknown kind, the other a text with a line end where a
    number should be. -/
def textForPosition : List Value :=
  [.object [("kind", .string "Keyword"), ("flags", .nat 0), ("pos", .nat 0), ("end", .nat 4),
     ("keyword", .string "This")],
   .object [("kind", .string "Comment"), ("flags", .nat 0), ("pos", .nat 4), ("end", .nat 8)],
   .object [("kind", .string "Keyword"), ("flags", .nat 0), ("pos", .string "5\n#0"), ("end", .nat 8)]]

/-- The text is quoted, and each of the three nodes has its line. -/
theorem text_oneLineEach_iff_textForPosition :
    HoldsNodes (.array textForPosition) textForPosition ∧
      ∃ l, Load.load (.array textForPosition) = .ok l ∧ l.malformed.length = 2 ∧
        ∀ o : Options, OneLineEach (ofLoaded l o) ((ofLoaded l o).text .plain false) := by
  have hholds : HoldsNodes (.array textForPosition) textForPosition := .array _
  obtain ⟨l, hload, hlines⟩ := text_oneLineEach_iff _ _ hholds
  have hl : l = .ofResults (textForPosition.map readNode) :=
    Except.ok.inj (hload.symm.trans (Load.load_eq_ofResults hholds))
  refine ⟨hholds, l, hload, ?_, fun o => (hlines o).mpr ?_⟩
  · rw [hl]
    rfl
  · simp only [textForPosition, List.mem_cons, List.not_mem_nil, or_false, forall_eq_or_imp, forall_eq]
    refine ⟨nofun, ?_, nofun⟩
    rintro _ _ ⟨⟩
    decide

/-- A node whose kind is an unknown name on two lines. -/
def brokenName : Value :=
  .object [("kind", .string "A\nB"), ("flags", .nat 0), ("pos", .nat 0), ("end", .nat 1)]

/-- It is reported on two lines. -/
theorem not_oneLineEach_brokenName :
    ∃ l, Load.load (.array [brokenName]) = .ok l ∧
      ∀ o : Options, ¬OneLineEach (ofLoaded l o) ((ofLoaded l o).text .plain false) := by
  have hfail : readNode brokenName = .error (.read (.unknownVariant "A\nB" (Named.names Kind))) := rfl
  refine ⟨_, Load.load_eq_ofResults (.array _), fun o hlines => ?_⟩
  obtain ⟨m, hm, hreason⟩ := Load.exists_mem_malformed_iff.mpr ⟨brokenName, List.mem_cons_self, hfail⟩
  refine oneLineEach_iff.mp hlines m hm ?_
  rw [hreason, newline_mem_reason_iff hfail]
  exact ⟨"A\nB", Named.names Kind, rfl, by decide⟩

end SyntaxShapes.Report
