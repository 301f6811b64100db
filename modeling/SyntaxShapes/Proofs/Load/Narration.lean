import Mathlib.Data.List.Forall2
import SyntaxShapes.Proofs.Load.Alignment

/-!
# `SyntaxShapes.Proofs.Load.Narration` — the log tells what became of each raw node

While a tree is read, events are noted from two places: the guard says what it misses in a raw node, and the
replacement of a node is noted by what replaces it. Together they tell the whole story, in order. `Causes` says
which events a raw node causes, in terms of the raw node alone; `load_narrated` says that the log is made of these
events, raw node by raw node, and of a last one with the totals.

So the log and the records of a tree agree: each record stands for one warning, with a finer event in front when
the reason on record is that of the guard. No reason that reading gives has the wording of the guard's
(`message_ne`), so the wording alone tells the two apart.

## Contents
- **One raw node.** `Lacks`, `FirstLacking`, `HasType`, `Causes`; `causes_eventsOf`.
- **Records.** `Event.warned?`, `Malformed.events`, `events_ofResults`, `map_level_events`.
- **Logs.** `load_narrated`.
-/

namespace SyntaxShapes.Load

open Json (Value ReadError Members)

/-! ## One raw node -/

/-- Whether an object has nothing but null under a key. -/
def Lacks (ms : Members) (key : String) : Prop := ms.get? key = none ∨ ms.get? key = some .null

/-- Whether a key is the first of the required ones that an object lacks. -/
def FirstLacking (ms : Members) (key : String) : Prop :=
  ∃ before after, ["kind", "flags", "pos", "end"] = before ++ key :: after ∧ Lacks ms key ∧
    ∀ earlier ∈ before, ¬Lacks ms earlier

/-- The type of a value, by the name that the log has for it. -/
inductive HasType : Value → String → Prop
  | null : HasType .null "null"
  | bool (b : Bool) : HasType (.bool b) "bool"
  | number (n : Json.Number) : HasType (.number n) "number"
  | string (s : String) : HasType (.string s) "string"
  | array (vs : List Value) : HasType (.array vs) "array"
  | object (ms : Members) : HasType (.object ms) "object"

/-- The events that a raw node at a position causes. -/
inductive Causes (i : UInt32) : Value → List Event → Prop
  /-- A node that can be used passes in silence. -/
  | usable {r : Value} (h : Usable r) : Causes i r []
  /-- What passes the guard and cannot be read is replaced, with a warning. -/
  | unreadable {r : Value} (hguard : isNode r = true) (hread : ∀ n, Node.read r ≠ .ok n) :
      Causes i r [.replaced i]
  /-- For what is no object, the guard says first what it is. -/
  | notObject {r : Value} {typeName : String} (h : ∀ ms, r ≠ .object ms) (htype : HasType r typeName) :
      Causes i r [.notObject typeName, .replaced i]
  /-- For an object, the guard says first which key it misses first. -/
  | keyMissing {ms : Members} {key : String} (h : FirstLacking ms key) :
      Causes i (.object ms) [.keyMissing key, .replaced i]

/-- The type name of a value names its type. -/
theorem hasType_typeName (r : Value) : HasType r r.typeName := by
  cases r
  all_goals constructor

theorem lacks_iff {ms : Members} {key : String} : Lacks ms key ↔ isPresent ms key = false := by
  unfold Lacks isPresent
  cases ms.get? key with
  | none => simp
  | some v => cases v <;> simp

/-- The guard misses a key exactly in an object that lacks it, and none of the keys before it. -/
theorem guardFault?_eq_missing_iff {r : Value} {key : String} :
    guardFault? r = some (.missing key) ↔ ∃ ms, r = .object ms ∧ FirstLacking ms key := by
  cases r with
  | object ms =>
      simp only [guardFault?, Option.map_eq_some_iff, GuardFault.missing.injEq, exists_eq_right, Value.object.injEq,
        exists_eq_left', List.find?_eq_some_iff_append, FirstLacking, lacks_iff, requiredKeys, Bool.not_eq_true',
        Bool.not_not, Bool.not_eq_false]
      constructor
      · rintro ⟨hkey, before, after, heq, hbefore⟩
        exact ⟨before, after, heq, hkey, hbefore⟩
      · rintro ⟨before, after, heq, hkey, hbefore⟩
        exact ⟨hkey, before, after, heq, hbefore⟩
  | null | bool | number | string | array => simp [guardFault?]

theorem guardFault?_eq_notObject_iff {r : Value} {typeName : String} :
    guardFault? r = some (.notObject typeName) ↔ (∀ ms, r ≠ .object ms) ∧ r.typeName = typeName := by
  cases r with
  | object ms => simp [guardFault?]
  | null | bool | number | string | array => simp [guardFault?]

/-- What is noted about a raw node is what it causes. -/
theorem causes_eventsOf (r : Value) (i : Nat) : Causes (.ofNat i) r (eventsOf (readNode r, i)) := by
  cases hr : readNode r with
  | ok n =>
      obtain ⟨hguard, hn⟩ := readNode_eq_ok_iff.mp hr
      exact .usable ⟨hguard, n, hn⟩
  | error reason =>
      rcases readNode_eq_error_iff.mp hr with ⟨fault, hfault, rfl⟩ | ⟨hguard, e, he, rfl⟩
      · cases fault with
        | notObject typeName =>
            obtain ⟨hobject, rfl⟩ := guardFault?_eq_notObject_iff.mp hfault
            exact .notObject hobject (hasType_typeName r)
        | missing key =>
            obtain ⟨ms, rfl, hfirst⟩ := guardFault?_eq_missing_iff.mp hfault
            exact .keyMissing hfirst
      · refine .unreadable hguard fun n hn => ?_
        rw [he] at hn
        cases hn

/-! ## Records -/

/-- The position that an event warns about, if it is a warning. -/
def Event.warned? : Event → Option UInt32
  | .replaced i => some i
  | .notObject _ | .keyMissing _ | .finished _ _ => none

/-- The warnings are the events that warn about a position. -/
theorem Event.isSome_warned? (e : Event) : e.warned?.isSome = decide (e.level = .warn) := by
  cases e <;> rfl

/-- The events that a record stands for. -/
def Malformed.events (m : Malformed) : List Event :=
  match m.reason with
  | .guard fault => [.ofFault fault, .replaced m.index]
  | .read _ => [.replaced m.index]

/-- What is noted along the results is what their records stand for. -/
theorem flatMap_eventsOf (results : List (Except Reason Node × Nat)) :
    results.flatMap eventsOf = (results.filterMap malformedOf?).flatMap Malformed.events := by
  induction results with
  | nil => rfl
  | cons p results ih =>
      rw [List.flatMap_cons, ih]
      obtain ⟨result, i⟩ := p
      cases result with
      | ok n => rfl
      | error reason => cases reason <;> rfl

/-- The log is what the records stand for, and the totals. -/
theorem events_ofResults (results : List (Except Reason Node)) :
    (Loaded.ofResults results).events =
      (Loaded.ofResults results).malformed.flatMap Malformed.events ++
        [.finished results.length (Loaded.ofResults results).malformed.length] :=
  congrArg (· ++ _) (flatMap_eventsOf results.zipIdx)

/-- Every message of a fault in reading begins in one of three ways. -/
theorem exists_lead (e : ReadError) :
    ∃ lead ∈ ["invalid ", "unknown variant ", "missing field "], lead.toList <+: e.message.toList := by
  cases e with
  | unknownVariant name known =>
      refine ⟨"unknown variant ", by decide, ?_⟩
      unfold ReadError.message
      simp only [String.toList_append, List.append_assoc]
      exact List.prefix_append_of_prefix (by decide)
  | missingField key =>
      refine ⟨"missing field ", by decide, ?_⟩
      unfold ReadError.message
      simp only [String.toList_append, List.append_assoc]
      exact List.prefix_append_of_prefix (by decide)
  | notSingleKey => exact ⟨"invalid ", by decide, by decide⟩
  | tooLong place length fields =>
      refine ⟨"invalid ", by decide, ?_⟩
      unfold ReadError.message
      cases place
      all_goals
        simp only [String.toList_append, List.append_assoc]
        exact List.prefix_append_of_prefix (by decide)
  | wrongType | outOfRange | tooShort =>
      refine ⟨"invalid ", by decide, ?_⟩
      unfold ReadError.message
      simp only [String.toList_append, List.append_assoc]
      exact List.prefix_append_of_prefix (by decide)

/-- No reason that reading gives has the wording of the guard's. -/
theorem message_ne (e : ReadError) : e.message ≠ "missing one of kind, flags, pos, end" := by
  intro h
  obtain ⟨lead, hmem, hlead⟩ := exists_lead e
  rw [h] at hlead
  revert lead
  decide

/-- The weights of the events that a record stands for. The wording of its reason tells them. -/
theorem map_level_events (m : Malformed) :
    m.events.map (·.level) =
      if m.reason.message = "missing one of kind, flags, pos, end" then [.trace, .warn] else [.warn] := by
  obtain ⟨i, reason⟩ := m
  cases reason with
  | guard fault =>
      refine Eq.trans ?_ (if_pos rfl).symm
      cases fault <;> rfl
  | read e => exact (if_neg (message_ne e)).symm

theorem filterMap_warned?_events (m : Malformed) : m.events.filterMap Event.warned? = [m.index] := by
  obtain ⟨i, reason⟩ := m
  cases reason with
  | guard fault => cases fault <;> rfl
  | read e => rfl

/-! ## Logs -/

variable {raws : List Value} (results : List (Except Reason Node))

/-- The positions that are warned about are those on record, in order. -/
theorem filterMap_warned?_ofResults :
    (Loaded.ofResults results).events.filterMap Event.warned? =
      (Loaded.ofResults results).malformed.map (·.index) := by
  rw [events_ofResults, List.filterMap_append, List.filterMap_flatMap, List.map_eq_flatMap]
  simp only [filterMap_warned?_events]
  exact List.append_nil _

/-- There are as many warnings as records. -/
theorem countP_warn_ofResults :
    (Loaded.ofResults results).events.countP (·.level = .warn) = (Loaded.ofResults results).malformed.length := by
  have hcount := congrArg List.length (filterMap_warned?_ofResults results)
  rw [List.length_filterMap_eq_countP, List.length_map] at hcount
  simp only [Event.isSome_warned?] at hcount
  exact hcount

/-- The weights in the log can be told from the records. -/
theorem map_level_ofResults :
    (Loaded.ofResults results).events.map (·.level) =
      (Loaded.ofResults results).malformed.flatMap (fun m =>
        if m.reason.message = "missing one of kind, flags, pos, end" then [.trace, .warn] else [.warn]) ++
        [.debug] := by
  rw [events_ofResults, List.map_append, List.map_flatMap]
  simp only [map_level_events]
  rfl

theorem flatMap_eventsOf_readNode (raws : List Value) :
    (raws.map readNode).zipIdx.flatMap eventsOf = raws.zipIdx.flatMap fun r => eventsOf (readNode r.1, r.2) := by
  rw [List.zipIdx_map, List.flatMap_map]
  rfl

/-- **The log tells what became of each raw node.** For every value that holds raw nodes, the log of loading it is
    made of the events that each raw node causes at its position, in order, and of one that says how many raw
    nodes there were and how many warnings. The positions that are warned about are those on record, in order; and
    for each record there is one warning, with a finer event right in front exactly when the reason on record is the
    guard's. -/
theorem load_narrated (v : Value) (raws : List Value) (h : HoldsNodes v raws) :
    ∃ l, load v = .ok l ∧
      (∃ noted, List.Forall₂ (fun r events => Causes (.ofNat r.2) r.1 events) raws.zipIdx noted ∧
        l.events = noted.flatten ++ [.finished raws.length (l.events.countP (·.level = .warn))]) ∧
      l.events.filterMap Event.warned? = l.malformed.map (·.index) ∧
      l.events.map (·.level) =
        l.malformed.flatMap (fun m =>
          if m.reason.message = "missing one of kind, flags, pos, end" then [.trace, .warn] else [.warn]) ++
          [.debug] := by
  refine ⟨_, load_eq_ofResults h, ⟨raws.zipIdx.map fun r => eventsOf (readNode r.1, r.2), ?_, ?_⟩,
    filterMap_warned?_ofResults _, map_level_ofResults _⟩
  · rw [List.forall₂_map_right_iff, List.forall₂_same]
    exact fun r _ => causes_eventsOf r.1 r.2
  · rw [countP_warn_ofResults, ← List.flatMap_def]
    show (raws.map readNode).zipIdx.flatMap eventsOf ++ [.finished (raws.map readNode).length _] = _
    rw [flatMap_eventsOf_readNode, List.length_map]
    rfl

/-- A value of each type that is no object, an object without flags, one of an unknown kind, and a keyword. -/
def mixedLot : List Value :=
  [.null, .bool true, .nat 7, .string "Keyword", .array [.null],
   .object [("kind", .string "Keyword"), ("flags", .null), ("pos", .nat 0)],
   .object [("kind", .string "Comment"), ("flags", .nat 0), ("pos", .nat 4), ("end", .nat 8)],
   .object [("kind", .string "Keyword"), ("flags", .nat 0), ("pos", .nat 0), ("end", .nat 4),
     ("keyword", .string "This")]]

/-- All but the keyword are warned about; before that, the guard has spoken of each but the unknown kind. -/
theorem load_narrated_mixedLot :
    HoldsNodes (.array mixedLot) mixedLot ∧
      ∃ l, load (.array mixedLot) = .ok l ∧
        l.events = [.notObject "null", .replaced 0, .notObject "bool", .replaced 1, .notObject "number", .replaced 2,
          .notObject "string", .replaced 3, .notObject "array", .replaced 4, .keyMissing "flags", .replaced 5,
          .replaced 6, .finished 8 7] ∧
        l.events.filterMap Event.warned? = [0, 1, 2, 3, 4, 5, 6] ∧
        l.events.map (·.level) = [.trace, .warn, .trace, .warn, .trace, .warn, .trace, .warn, .trace, .warn,
          .trace, .warn, .warn, .debug] := by
  have hholds : HoldsNodes (.array mixedLot) mixedLot := .array _
  obtain ⟨l, hload, -, hwarned, hlevels⟩ := load_narrated _ _ hholds
  obtain rfl := Except.ok.inj (hload.symm.trans (load_eq_ofResults hholds))
  refine ⟨hholds, _, hload, rfl, ?_, ?_⟩
  · rw [hwarned]
    rfl
  · rw [hlevels]
    decide +kernel

end SyntaxShapes.Load
