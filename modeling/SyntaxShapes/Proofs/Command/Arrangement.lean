import Mathlib.Data.List.Nodup
import SyntaxShapes.Proofs.Command.Groups

/-!
# `SyntaxShapes.Proofs.Command.Arrangement` — options in any order

The groups of a command line may stand in any order. What is asked for depends only on which groups there are, and on
the order of the shapes among themselves; and what may be given once and is given twice is refused wherever it
stands.

To read the words of some groups, and to settle then, is to enter the groups one by one in a settled state
(`foldlM_step_bind_settle`). That fails exactly when something that may be given once is given twice (`foldlM_put`),
and else leads to a state in which every field holds what the groups of its sort give.

## Contents
- **All groups.** `foldlM_step_bind_settle`, `parse_words`; `foldlM_put`.
- **Fields.** `only_foldl_enter`, `field_foldl_enter`, `has_foldl_enter`.
- **Arrangements.** `Arranges`, `parse_arrangement`.
-/

namespace SyntaxShapes.Command

/-! ## All groups -/

/-- **Reading the words of some groups and settling is entering the groups one by one.** There may be one path. -/
theorem foldlM_step_bind_settle {gs : List Group} {s : State} (hs : s.IsOpen)
    (hpaths : ∀ path ∈ gs.filterMap Group.input?, IsPath path)
    (hone : (gs.filterMap Group.input?).length + (if s.inputSeen then 1 else 0) ≤ 1) :
    (gs.flatMap Group.words).foldlM State.step s >>= State.settle =
      s.settle >>= fun t => gs.foldlM Group.put t := by
  induction gs generalizing s with
  | nil => exact (pure_bind s _).trans (bind_pure _).symm
  | cons g gs ih =>
      have hpath : ∀ path, g.input? = some path → IsPath path ∧ s.inputSeen = false := by
        intro path hg
        rw [List.filterMap_cons, hg] at hpaths hone
        refine ⟨hpaths path List.mem_cons_self, ?_⟩
        by_contra hseen
        rw [Bool.not_eq_false] at hseen
        rw [if_pos hseen, List.length_cons] at hone
        omega
      rw [List.flatMap_cons, List.foldlM_append, foldlM_step_words hs hpath]
      cases hsettle : s.settle with
      | error e => rfl
      | ok t =>
          obtain ⟨ht, hescaped, hseen⟩ := State.of_settle hsettle
          show (g.takeUp t >>= fun s' => (gs.flatMap Group.words).foldlM State.step s') >>= State.settle =
            g.put t >>= fun t' => gs.foldlM Group.put t'
          rw [← takeUp_bind_settle ht fun path hg => (hpath path hg).1, bind_assoc, bind_assoc]
          cases htake : g.takeUp t with
          | error e => rfl
          | ok s' =>
              obtain ⟨hopen, hseen'⟩ := isOpen_of_takeUp ht (hescaped.trans hs.escaped) htake
              rw [hseen] at hseen'
              refine ih hopen (fun path hmem => hpaths path ?_) ?_
              · exact ((List.sublist_cons_self g gs).filterMap _).subset hmem
              · cases hg : g.input? with
                | none =>
                    rw [List.filterMap_cons, hg] at hone
                    rwa [hseen', hg, Option.isSome_none, Bool.or_false]
                | some path =>
                    rw [List.filterMap_cons, hg, (hpath path hg).2, List.length_cons] at hone
                    rw [hseen', hg, Option.isSome_some, Bool.or_true]
                    simpa using hone

/-- What a settled state asks for, at the end. -/
def State.answer (t : State) : Except Rejection Arguments :=
  match t.input? with
  | none => .error .missingInput
  | some input =>
    .ok { input, format := t.format?.getD .text, only := t.only, all := t.all, summary := t.summary,
          noColour := t.noColour }

/-- On words that come in groups, the parser takes up one group after the other. -/
theorem parse_words {gs : List Group} (hpaths : ∀ path ∈ gs.filterMap Group.input?, IsPath path)
    (hone : (gs.filterMap Group.input?).length ≤ 1) :
    Arguments.parse (gs.flatMap Group.words) = gs.foldlM Group.put {} >>= State.answer := by
  have hstart : State.IsOpen {} := ⟨rfl, nofun⟩
  have hread := foldlM_step_bind_settle hstart hpaths hone
  show (gs.flatMap Group.words).foldlM State.step {} >>= (fun s => s.settle >>= State.answer) = _
  rw [← bind_assoc, hread]
  rfl

theorem State.has_raise (t : State) (f f' : Flag) : (t.raise f).has f' = (t.has f' || f' == f) := by
  cases f <;> cases f' <;> simp [has, raise]

/-- A group gives what it is for, and takes nothing back. -/
theorem given_enter (t : State) (g : Group) (k : Single) :
    (g.enter t).given k = (t.given k || g.single? == some k) := by
  cases g with
  | input | only => cases k <;> exact (Bool.or_false _).symm
  | format spelling f =>
      cases k with
      | format => exact (Bool.or_true _).symm
      | flag f' => exact (Bool.or_false _).symm
  | flag f =>
      cases k with
      | format => cases f <;> exact (Bool.or_false _).symm
      | flag f' =>
          refine (t.has_raise f f').trans (congrArg _ ?_)
          rw [Bool.eq_iff_iff, beq_iff_eq, beq_iff_eq, Group.single?, Option.some_inj, Single.flag.injEq]
          exact eq_comm

/-- **Entering groups fails exactly when something that may be given once is given twice.** -/
theorem foldlM_put (gs : List Group) (t : State) :
    gs.foldlM Group.put t =
      if (gs.filterMap Group.single?).Nodup ∧ ∀ k ∈ gs.filterMap Group.single?, t.given k = false then
        .ok (gs.foldl Group.enter t)
      else .error .repeated := by
  induction gs generalizing t with
  | nil => exact (if_pos ⟨List.nodup_nil, nofun⟩).symm
  | cons g gs ih =>
      rw [List.foldlM_cons, List.foldl_cons, Group.put]
      cases hk : g.single? with
      | none =>
          have hgiven : ∀ k, (g.enter t).given k = t.given k := by
            intro k
            rw [given_enter, hk]
            exact Bool.or_false _
          rw [List.filterMap_cons, hk]
          simp only [Option.any_none, Bool.false_eq_true, if_false]
          exact (ih _).trans (by simp only [hgiven])
      | some k =>
          rw [List.filterMap_cons, hk, Option.any_some]
          by_cases hgiven : t.given k = true
          · rw [if_pos hgiven, if_neg]
            · rfl
            · rintro ⟨-, hfree⟩
              rw [hfree k List.mem_cons_self] at hgiven
              cases hgiven
          · rw [if_neg hgiven]
            refine (ih _).trans (if_congr ?_ rfl rfl)
            simp only [given_enter, hk, List.nodup_cons, List.forall_mem_cons, Bool.or_eq_false_iff,
              beq_eq_false_iff_ne, ne_eq, Option.some.injEq]
            constructor
            · rintro ⟨hnodup, hfree⟩
              exact ⟨⟨fun hmem => (hfree k hmem).2 rfl, hnodup⟩, eq_false_of_ne_true hgiven,
                fun k' hmem => (hfree k' hmem).1⟩
            · rintro ⟨⟨hnot, hnodup⟩, -, hfree⟩
              exact ⟨hnodup, fun k' hmem => ⟨hfree k' hmem, fun heq => hnot (heq ▸ hmem)⟩⟩

/-! ## Fields -/

section

variable (gs : List Group) (t : State)

/-- The shapes to keep are collected in the order of the groups. -/
theorem only_foldl_enter : (gs.foldl Group.enter t).only = t.only ++ gs.filterMap Group.only? := by
  induction gs generalizing t with
  | nil => exact (List.append_nil _).symm
  | cons g gs ih =>
      rw [List.foldl_cons, ih, List.filterMap_cons]
      cases g with
      | input | format => rfl
      | only spelling s => exact List.append_assoc _ _ _
      | flag f => cases f <;> rfl

/-- A field that a group of its sort replaces holds what the last such group gives. -/
theorem field_foldl_enter {α : Type} {field : State → Option α} {gives : Group → Option α}
    (h : ∀ t g, field (g.enter t) = (gives g).or (field t)) :
    field (gs.foldl Group.enter t) = (gs.filterMap gives).getLast?.or (field t) := by
  induction gs generalizing t with
  | nil => rfl
  | cons g gs ih =>
      rw [List.foldl_cons, ih, h, List.filterMap_cons]
      cases gives g with
      | none => rfl
      | some a => rw [List.getLast?_cons, Option.some_or, Option.some_or, Option.or_some]

theorem input?_enter (t : State) (g : Group) : (g.enter t).input? = g.input?.or t.input? := by
  cases g with
  | input | format | only => rfl
  | flag f => cases f <;> rfl

theorem format?_enter (t : State) (g : Group) : (g.enter t).format? = g.format?.or t.format? := by
  cases g with
  | input | format | only => rfl
  | flag f => cases f <;> rfl

/-- A flag is up when it was before or when some group raises it. -/
theorem has_foldl_enter (f : Flag) :
    (gs.foldl Group.enter t).has f = (t.has f || (gs.filterMap Group.flag?).contains f) := by
  induction gs generalizing t with
  | nil => exact (Bool.or_false _).symm
  | cons g gs ih =>
      rw [List.foldl_cons, ih, List.filterMap_cons]
      cases g with
      | only | input | format => cases f <;> rfl
      | flag f' =>
          show ((t.raise f').has f || (gs.filterMap Group.flag?).contains f) = _
          rw [State.has_raise, Bool.or_assoc]
          exact congrArg _ List.contains_cons.symm

theorem count_single_format :
    (gs.filterMap Group.single?).count .format = (gs.filterMap Group.format?).length := by
  induction gs with
  | nil => rfl
  | cons g gs ih => cases g <;> simp [List.filterMap_cons, Group.single?, Group.format?, ih]

theorem count_single_flag (f : Flag) :
    (gs.filterMap Group.single?).count (.flag f) = (gs.filterMap Group.flag?).count f := by
  induction gs with
  | nil => rfl
  | cons g gs ih => cases g <;> simp [List.filterMap_cons, Group.single?, Group.flag?, List.count_cons, ih]

end

/-! ## Arrangements -/

/-- Whether a command line asks for a flag. -/
def Arguments.has (args : Arguments) : Flag → Bool
  | .all => args.all
  | .summary => args.summary
  | .noColour => args.noColour

/-- Whether some groups are an arrangement of what a command line asks for. -/
structure Arranges (gs : List Group) (args : Arguments) : Prop where
  /-- The path stands there once. -/
  input : gs.filterMap Group.input? = [args.input]
  /-- The format stands there once, or it is text and does not stand there. -/
  format : gs.filterMap Group.format? = [args.format] ∨ gs.filterMap Group.format? = [] ∧ args.format = .text
  /-- The shapes stand there, in order. -/
  only : gs.filterMap Group.only? = args.only
  /-- No flag stands there twice. -/
  nodup_flags : (gs.filterMap Group.flag?).Nodup
  /-- The flags stand there that are asked for. -/
  mem_flags : ∀ f, f ∈ gs.filterMap Group.flag? ↔ args.has f = true

namespace Arranges

variable {gs : List Group} {args : Arguments}

/-- An arrangement has no single-use group twice. -/
theorem nodup_single (h : Arranges gs args) : (gs.filterMap Group.single?).Nodup := by
  rw [List.nodup_iff_count_le_one]
  intro k
  cases k with
  | format =>
      rw [count_single_format]
      obtain hformat | ⟨hformat, -⟩ := h.format
      all_goals simp [hformat]
  | flag f =>
      rw [count_single_flag]
      exact List.nodup_iff_count_le_one.mp h.nodup_flags f

/-- The groups of an arrangement, entered one after the other, are its arguments. -/
theorem answer_foldl_enter (h : Arranges gs args) : (gs.foldl Group.enter {}).answer = .ok args := by
  have hinput : (gs.foldl Group.enter {}).input? = some args.input := by
    rw [field_foldl_enter gs {} input?_enter, h.input]
    rfl
  have hformat : (gs.foldl Group.enter {}).format?.getD .text = args.format := by
    rw [field_foldl_enter gs {} format?_enter]
    obtain hformat | ⟨hformat, htext⟩ := h.format
    · rw [hformat]
      rfl
    · rw [hformat, htext]
      rfl
  have honly : (gs.foldl Group.enter {}).only = args.only := by
    rw [only_foldl_enter, h.only]
    rfl
  have hhas : ∀ f, (gs.foldl Group.enter {}).has f = args.has f := by
    intro f
    have hstart : State.has {} f = false := by cases f <;> rfl
    rw [has_foldl_enter, hstart, Bool.false_or, Bool.eq_iff_iff, List.contains_iff_mem, h.mem_flags]
  have hall : (gs.foldl Group.enter {}).all = args.all := hhas .all
  have hsummary : (gs.foldl Group.enter {}).summary = args.summary := hhas .summary
  have hnoColour : (gs.foldl Group.enter {}).noColour = args.noColour := hhas .noColour
  unfold State.answer
  rw [hinput, hformat, honly, hall, hsummary, hnoColour]

/-- A group that can be given once and is there already cannot be put in anywhere. -/
theorem not_nodup_single {before after : List Group} {g : Group} {k : Single} (hk : g.single? = some k)
    (hmem : ∃ g' ∈ before ++ after, g'.single? = some k) :
    ¬((before ++ g :: after).filterMap Group.single?).Nodup := by
  rw [List.filterMap_append, List.filterMap_cons, hk, List.nodup_middle, ← List.filterMap_append]
  intro hnodup
  exact (List.nodup_cons.mp hnodup).1 (List.mem_filterMap.mpr hmem)

/-- A single-use group that is put in brings no input with it. -/
theorem filterMap_input?_insert {before after : List Group} {g : Group} {k : Single} (hk : g.single? = some k) :
    (before ++ g :: after).filterMap Group.input? = (before ++ after).filterMap Group.input? := by
  have hinput : g.input? = none := by
    cases g with
    | input path => cases hk
    | format | only | flag => rfl
  rw [List.filterMap_append, List.filterMap_cons, hinput, List.filterMap_append]

end Arranges

/-- **Arguments stand in any order.** Whatever a command line asks for, with a path that is taken for one: every
    arrangement of its groups, with every value in its own word or behind `=`, asks for exactly that. And if the
    format or a flag stands there, it is refused as a repetition to put in another group that gives the format, be it
    the same or another one, or that flag, anywhere before, between or behind the groups. -/
theorem parse_arrangement (args : Arguments) (gs : List Group) (hpath : IsPath args.input) (h : Arranges gs args) :
    Arguments.parse (gs.flatMap Group.words) = .ok args ∧
      ∀ before after g k, gs = before ++ after → g.single? = some k → (∃ g' ∈ gs, g'.single? = some k) →
        Arguments.parse ((before ++ g :: after).flatMap Group.words) = .error .repeated := by
  have hpaths : ∀ path ∈ gs.filterMap Group.input?, IsPath path := by
    rw [h.input]
    intro path hmem
    rwa [List.mem_singleton.mp hmem]
  have hone : (gs.filterMap Group.input?).length ≤ 1 := by
    rw [h.input]
    exact Nat.le_refl 1
  have hfresh : ∀ k, State.given {} k = false := by
    intro k
    cases k with
    | format => rfl
    | flag f => cases f <;> rfl
  refine ⟨?_, ?_⟩
  · rw [parse_words hpaths hone, foldlM_put, if_pos ⟨h.nodup_single, fun k _ => hfresh k⟩]
    exact h.answer_foldl_enter
  · rintro before after g k rfl hk hmem
    rw [← Arranges.filterMap_input?_insert hk] at hpaths hone
    rw [parse_words hpaths hone, foldlM_put, if_neg fun hnodup => Arranges.not_nodup_single hk hmem hnodup.1]
    rfl

/-- Some groups, in a mixed order and with both ways to give a value. -/
def shuffled : List Group :=
  [.only .joined .literal, .flag .all, .input "-", .format .apart .json, .only .apart .methodCall, .flag .noColour]

/-- They ask for what they say, and for nothing when a second format stands in front. -/
theorem parse_arrangement_shuffled :
    IsPath "-" ∧
      Arranges shuffled
        { input := "-", format := .json, only := [.literal, .methodCall], all := true, noColour := true } ∧
      Arguments.parse ["--only=literal", "--all", "-", "--format", "json", "--only", "method-call", "--no-color"] =
        .ok { input := "-", format := .json, only := [.literal, .methodCall], all := true, noColour := true } ∧
      Arguments.parse ["--format=text", "--only=literal", "--all", "-", "--format", "json", "--only", "method-call",
        "--no-color"] = .error .repeated := by
  have hpath : IsPath "-" := ⟨by decide, .inr rfl⟩
  have harranges : Arranges shuffled
      { input := "-", format := .json, only := [.literal, .methodCall], all := true, noColour := true } :=
    ⟨rfl, .inl rfl, rfl, by decide, by intro f; cases f <;> decide⟩
  obtain ⟨hparse, hrepeated⟩ := parse_arrangement _ shuffled hpath harranges
  refine ⟨hpath, harranges, ?_, ?_⟩
  · exact hparse
  · exact hrepeated [] shuffled (.format .joined .text) .format rfl rfl ⟨.format .apart .json, by decide, rfl⟩

end SyntaxShapes.Command
