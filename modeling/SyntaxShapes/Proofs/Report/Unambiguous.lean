import SyntaxShapes.Proofs.Report.Lines

/-!
# `SyntaxShapes.Proofs.Report.Unambiguous` — what is listed can be told from the text

The text of a report is laid out for reading, in columns that long numbers and names overflow, and with a joined
list at the end of each line that may be empty. Still nothing gets lost: two reports with the same uncoloured text
list the same nodes, with the same kinds, spans and shapes.

Each field of a line ends at a character that no field of its sort holds, and the filling of a column depends on
the field in it alone; so a line is taken apart from left to right (`entryLine_injective`). Among all lines, those
of listed nodes are the ones in front, up to the first that does not begin with `#`, so a text leaves no choice as
to which they are (`MadeOf.nodes_unique`), even when a reason for a node that could not be used spans lines.

## Contents
- **Fields.** `append_cons_inj`; `decimal_injective`, `padRight_append_inj`, `shapeNames_injective`.
- **Lines.** `entryLine_injective`.
- **Text in parts.** `MadeOf`, `MadeOf.nodes_unique`, `madeOf_text`.
- **Reports.** `nodes_eq_of_text_eq`, `text_eq_iff_nodes_eq`.
-/

namespace SyntaxShapes.Report

/-! ## Fields -/

/-- What holds no separator ends at the first one. -/
theorem append_cons_inj {c : Char} {cs ds rest rest' : List Char} (hcs : c ∉ cs) (hds : c ∉ ds)
    (h : cs ++ c :: rest = ds ++ c :: rest') : cs = ds ∧ rest = rest' := by
  -- what one side had more than the other would begin with the separator
  rcases List.append_eq_append_iff.mp h with ⟨more, hmore, heq⟩ | ⟨more, hmore, heq⟩
  · cases more with
    | nil => exact ⟨(hmore.trans (List.append_nil _)).symm, (List.cons.inj heq).2⟩
    | cons d more =>
        obtain ⟨rfl, -⟩ := List.cons.inj heq
        exact absurd (hmore ▸ List.mem_append_right _ List.mem_cons_self) hds
  · cases more with
    | nil => exact ⟨hmore.trans (List.append_nil _), (List.cons.inj heq).2.symm⟩
    | cons d more =>
        obtain ⟨rfl, -⟩ := List.cons.inj heq
        exact absurd (hmore ▸ List.mem_append_right _ List.mem_cons_self) hcs

theorem decimal_injective : Function.Injective decimal :=
  Function.LeftInverse.injective Numeral.digitsValue_toDigits

theorem notMem_decimal {c : Char} (hc : c.isDigit = false) (n : Nat) : c ∉ decimal n := by
  intro hmem
  rw [Nat.isDigit_of_mem_toDigits (by decide) (by decide) hmem] at hc
  cases hc

/-- A column of fields that hold no space. The filling is no longer than the field is short, so behind equal fields
    it is equal. -/
theorem padRight_append_inj {width : Nat} {cs ds rest rest' : List Char} (hcs : ' ' ∉ cs) (hds : ' ' ∉ ds)
    (h : padRight width cs ++ ' ' :: rest = padRight width ds ++ ' ' :: rest') : cs = ds ∧ rest = rest' := by
  have hcolumn : ∀ es tail, padRight width es ++ ' ' :: tail =
      es ++ ' ' :: (List.replicate (width - es.length) ' ' ++ tail) := by
    intro es tail
    rw [padRight, List.append_assoc, ← List.cons_append, ← List.replicate_succ, List.replicate_succ',
      List.append_assoc, List.singleton_append]
  rw [hcolumn, hcolumn] at h
  obtain ⟨rfl, hrest⟩ := append_cons_inj hcs hds h
  exact ⟨rfl, List.append_cancel_left hrest⟩

theorem space_notMem_kindName (k : Kind) : ' ' ∉ k.name.toList := by
  cases k
  all_goals decide +kernel

theorem comma_notMem_shapeName (s : Shape) : ',' ∉ s.name.toList := by
  cases s
  all_goals decide +kernel

theorem shapeName_ne_nil (s : Shape) : s.name.toList ≠ [] := by
  cases s
  all_goals decide +kernel

theorem shapeNames_cons_cons (s t : Shape) (ts : List Shape) :
    shapeNames (s :: t :: ts) = s.name.toList ++ ',' :: ' ' :: shapeNames (t :: ts) := by
  unfold shapeNames
  rw [List.map_cons, List.map_cons, List.intercalate_cons_cons, List.append_assoc]
  rfl

theorem shapeNames_singleton (s : Shape) : shapeNames [s] = s.name.toList :=
  List.intercalate_singleton

theorem shapeNames_cons_ne_nil (s : Shape) (ss : List Shape) : shapeNames (s :: ss) ≠ [] := by
  cases ss with
  | nil =>
      rw [shapeNames_singleton]
      exact shapeName_ne_nil s
  | cons t ts =>
      rw [shapeNames_cons_cons]
      exact List.append_ne_nil_of_left_ne_nil (shapeName_ne_nil s) _

/-- A list of shapes can be told from its text, the empty one included. -/
theorem shapeNames_injective : Function.Injective shapeNames := by
  have hname : ∀ {s t : Shape}, s.name.toList = t.name.toList → s = t :=
    fun h => Named.name_injective (String.toList_inj.mp h)
  -- a name ends at the next comma, or at the end when there is none
  have hlast : ∀ {s t : Shape} {rest : List Char}, s.name.toList ≠ t.name.toList ++ ',' :: rest :=
    fun h => comma_notMem_shapeName _ (h ▸ List.mem_append_right _ List.mem_cons_self)
  intro ss
  induction ss with
  | nil =>
      intro ts h
      cases ts with
      | nil => rfl
      | cons t ts => exact absurd h.symm (shapeNames_cons_ne_nil t ts)
  | cons s ss ih =>
      intro ts h
      cases ts with
      | nil => exact absurd h (shapeNames_cons_ne_nil s ss)
      | cons t ts =>
          cases ss with
          | nil =>
              cases ts with
              | nil =>
                  rw [shapeNames_singleton, shapeNames_singleton] at h
                  rw [hname h]
              | cons t' ts =>
                  rw [shapeNames_singleton, shapeNames_cons_cons] at h
                  exact absurd h hlast
          | cons s' ss =>
              cases ts with
              | nil =>
                  rw [shapeNames_singleton, shapeNames_cons_cons] at h
                  exact absurd h.symm hlast
              | cons t' ts =>
                  rw [shapeNames_cons_cons, shapeNames_cons_cons] at h
                  obtain ⟨hhead, htail⟩ := append_cons_inj (comma_notMem_shapeName s) (comma_notMem_shapeName t) h
                  rw [hname hhead, ih (List.cons.inj htail).2]

/-! ## Lines -/

/-- A line says everything about its node, whichever of its columns overflow. -/
theorem entryLine_injective : Function.Injective (entryLine .plain) := by
  intro e e' h
  simp only [entryLine, Paint.green, Paint.styled, List.cons_append, List.append_assoc, List.cons.injEq,
    true_and] at h
  obtain ⟨hindex, h⟩ := padRight_append_inj (notMem_decimal rfl _) (notMem_decimal rfl _) h
  obtain ⟨hkind, h⟩ := padRight_append_inj (space_notMem_kindName _) (space_notMem_kindName _) h
  obtain ⟨hpos, h⟩ := append_cons_inj (notMem_decimal rfl _) (notMem_decimal rfl _) (List.cons.inj h).2
  obtain ⟨hstop, h⟩ := append_cons_inj (notMem_decimal rfl _) (notMem_decimal rfl _) (List.cons.inj h).2
  have hshapes := shapeNames_injective (List.cons.inj h).2
  have hnumber : ∀ {m n : UInt32}, decimal m.toNat = decimal n.toNat → m = n :=
    fun h => UInt32.toNat_inj.mp (decimal_injective h)
  obtain ⟨index, kind, pos, stop, shapes⟩ := e
  obtain ⟨index', kind', pos', stop', shapes'⟩ := e'
  have hkinds : kind = kind' := Named.name_injective (String.toList_inj.mp hkind)
  rw [Entry.mk.injEq]
  exact ⟨hnumber hindex, hkinds, hnumber hpos, hnumber hstop, hshapes⟩

/-! ## Text in parts -/

/-- Whether a text is made of the lines of listed nodes, the pieces about nodes that could not be used, and the
    lines with counts, in this order and each with a line end behind it. -/
structure MadeOf (text : String) (nodes malformed counts : List (List Char)) : Prop where
  /-- The text is made of them. -/
  toList_eq : text.toList = (nodes ++ (malformed ++ counts)).flatMap (· ++ ['\n'])
  /-- A listed node has one line, and its number in front. -/
  nodes : ∀ line ∈ nodes, line.head? = some '#' ∧ '\n' ∉ line
  /-- A piece about a node that could not be used says so. -/
  malformed : ∀ piece ∈ malformed, "malformed node #".toList <+: piece
  /-- Counts follow an empty line. -/
  counts : ∀ line, counts.head? = some line → line = []

theorem head?_flatMap_append {line : List Char} (h : line.head? = some '#') (lines : List (List Char))
    (rest : List Char) : ((line :: lines).flatMap (· ++ ['\n']) ++ rest).head? = some '#' := by
  rw [List.flatMap_cons, List.append_assoc, List.append_assoc, List.head?_append, h]
  rfl

/-- Lines that begin with `#` can be told from what follows them, if that does not. -/
theorem eq_of_flatMap_append_eq {lines lines' : List (List Char)} {rest rest' : List Char}
    (h : lines.flatMap (· ++ ['\n']) ++ rest = lines'.flatMap (· ++ ['\n']) ++ rest')
    (hlines : ∀ line ∈ lines, line.head? = some '#' ∧ '\n' ∉ line)
    (hlines' : ∀ line ∈ lines', line.head? = some '#' ∧ '\n' ∉ line)
    (hrest : rest.head? ≠ some '#') (hrest' : rest'.head? ≠ some '#') : lines = lines' := by
  induction lines generalizing lines' with
  | nil =>
      cases lines' with
      | nil => rfl
      | cons line' lines' =>
          rw [List.flatMap_nil, List.nil_append] at h
          have hhead := head?_flatMap_append (hlines' line' List.mem_cons_self).1 lines' rest'
          exact absurd (h ▸ hhead) hrest
  | cons line lines ih =>
      cases lines' with
      | nil =>
          rw [List.flatMap_nil, List.nil_append] at h
          have hhead := head?_flatMap_append (hlines line List.mem_cons_self).1 lines rest
          exact absurd (h ▸ hhead) hrest'
      | cons line' lines' =>
          rw [List.forall_mem_cons] at hlines hlines'
          simp only [List.flatMap_cons, List.append_assoc, List.cons_append] at h
          obtain ⟨rfl, hrests⟩ := append_cons_inj hlines.1.2 hlines'.1.2 h
          rw [ih hrests hlines.2 hlines'.2]

section

variable {text : String} {nodes malformed counts : List (List Char)}

theorem MadeOf.toList_eq_append (h : MadeOf text nodes malformed counts) :
    text.toList = nodes.flatMap (· ++ ['\n']) ++ (malformed ++ counts).flatMap (· ++ ['\n']) := by
  rw [h.toList_eq, List.flatMap_append]

/-- What follows the lines of listed nodes begins with a letter, or with the empty line before the counts. -/
theorem MadeOf.head?_rest (h : MadeOf text nodes malformed counts) :
    ((malformed ++ counts).flatMap (· ++ ['\n'])).head? ≠ some '#' := by
  cases malformed with
  | cons piece pieces =>
      obtain ⟨tail, rfl⟩ := h.malformed piece List.mem_cons_self
      exact nofun
  | nil =>
      cases counts with
      | nil => exact nofun
      | cons line lines =>
          obtain rfl := h.counts line rfl
          exact nofun

/-- Which lines of a text are those of listed nodes can be told from the text. -/
theorem MadeOf.nodes_unique (h : MadeOf text nodes malformed counts) {nodes' malformed' counts' : List (List Char)}
    (h' : MadeOf text nodes' malformed' counts') : nodes = nodes' := by
  have htext := h.toList_eq_append.symm.trans h'.toList_eq_append
  exact eq_of_flatMap_append_eq htext h.nodes h'.nodes h.head?_rest h'.head?_rest

end

theorem head?_summaryLines (summary : List (Shape × Nat)) :
    ∀ line, (summaryLines summary).head? = some line → line = [] := by
  cases summary with
  | nil => exact nofun
  | cons p ps =>
      rintro _ ⟨⟩
      rfl

/-- The text of a report is made of the lines of its nodes, the pieces about its others, and its counts. -/
theorem madeOf_text (r : Report) (withSummary : Bool) :
    MadeOf (r.text .plain withSummary) (r.nodes.map (entryLine .plain)) (r.malformed.map (malformedLine .plain))
      (if withSummary then summaryLines r.summary else []) where
  toList_eq := by
    unfold text lines
    rw [String.toList_ofList, List.append_assoc]
  nodes line hline := by
    obtain ⟨e, -, rfl⟩ := List.mem_map.mp hline
    exact ⟨rfl, newline_notMem_entryLine e⟩
  malformed piece hpiece := by
    obtain ⟨m, -, rfl⟩ := List.mem_map.mp hpiece
    have hnumber := prefix_malformedLine m
    rw [List.append_assoc] at hnumber
    exact (List.prefix_append _ _).trans hnumber
  counts line hline := by
    cases withSummary with
    | false => cases hline
    | true => exact head?_summaryLines r.summary line hline

/-! ## Reports -/

/-- Whatever follows them, with or without counts, the listed nodes can be told from a text. -/
theorem nodes_eq_of_text_eq {r r' : Report} {withSummary withSummary' : Bool}
    (h : r.text .plain withSummary = r'.text .plain withSummary') : r.nodes = r'.nodes := by
  have hmade := madeOf_text r' withSummary'
  rw [← h] at hmade
  exact entryLine_injective.list_map ((madeOf_text r withSummary).nodes_unique hmade)

/-- **A text tells what is listed.** Two reports without nodes that could not be used have the same uncoloured text,
    without counts, exactly when they list the same nodes in the same order, each with the same number, kind, span
    and shapes. Numbers and names that overflow their columns make no difference. -/
theorem text_eq_iff_nodes_eq (r r' : Report) (hr : r.malformed = []) (hr' : r'.malformed = []) :
    r.text .plain false = r'.text .plain false ↔ r.nodes = r'.nodes := by
  refine ⟨nodes_eq_of_text_eq, fun h => ?_⟩
  unfold text lines
  rw [hr, hr', h]
  rfl

/-- A report of one node that overflows both columns. The digits of its span could be cut in other places. -/
def wideEntry (pos stop : UInt32) (shapes : List Shape) : Report :=
  { nodes := [⟨4294967294, .noSubstitutionTemplateLiteral, pos, stop, shapes⟩] }

/-- Neither another cut nor another order of shapes gives the same text. -/
theorem text_eq_iff_nodes_eq_wideEntry :
    (wideEntry 1 23 []).malformed = [] ∧ (wideEntry 12 3 []).malformed = [] ∧
      (wideEntry 1 23 []).text .plain false ≠ (wideEntry 12 3 []).text .plain false ∧
      (wideEntry 1 23 [.literal, .methodCall]).text .plain false ≠
        (wideEntry 1 23 [.methodCall, .literal]).text .plain false := by
  refine ⟨rfl, rfl, ?_, ?_⟩
  · rw [Ne, text_eq_iff_nodes_eq _ _ rfl rfl]
    decide
  · rw [Ne, text_eq_iff_nodes_eq _ _ rfl rfl]
    decide

end SyntaxShapes.Report
