import Mathlib.Data.List.Nodup
import SyntaxShapes.Json.Parser

/-!
# `SyntaxShapes.Proofs.Json.Text` — what every value of a text has

Not every value is the value of some text: an object may repeat a key, but the reader of text puts each
member in the place of an earlier one with its key. To show that text gives only values of some sort, it is
enough to look at how the reader makes values (`KeptByText`); that all values it holds are of that sort is
then kept by each word (`KeptByText.step`), and so by a whole text (`KeptByText.of_parse?`).

## Contents
- **Properties.** `KeptByText`, of values and of the members of an object.
- **Reader.** `Lexeme.Holds`, `Frame.Holds`, `State.Holds`; kept by a word (`KeptByText.step`), and so by
  a text (`KeptByText.run`, `KeptByText.of_parse?`).
- **Keys.** `Value.DistinctKeys`, `distinctKeys_of_parse?`.
-/

namespace SyntaxShapes.Json

/-! ## Properties -/

/-- Whether the values that text gives have a property `P`, because it is kept wherever the reader makes a
    value. `Q` is what is kept of the members that an object has so far. -/
structure KeptByText (P : Value → Prop) (Q : Members → Prop) : Prop where
  /-- Null has the property. -/
  null : P .null
  /-- So do the truth values. -/
  bool : ∀ b, P (.bool b)
  /-- So do the numbers that are read from numerals. -/
  number : ∀ {n x}, Number.ofNumeral? n = some x → P (.number x)
  /-- So do the strings. -/
  string : ∀ s, P (.string s)
  /-- So does an array of such values. -/
  array : ∀ {vs}, (∀ v ∈ vs, P v) → P (.array vs)
  /-- So does an object of such members. -/
  object : ∀ {ms}, Q ms → P (.object ms)
  /-- An object starts out without members. -/
  nil : Q []
  /-- One more member is put among them. -/
  put : ∀ {key v ms}, P v → Q ms → Q (Members.put key v ms)

/-! ## Reader -/

section

variable (P : Value → Prop) (Q : Members → Prop)

/-- Whether the value that a word is, if it is one, has a property. -/
def Lexeme.Holds : Lexeme → Prop
  | .scalar v => P v
  | _ => True

/-- Whether what an open container has so far has a property. -/
def Frame.Holds : Frame → Prop
  | .items done => ∀ v ∈ done, P v
  | .member done _ => Q done

/-- Whether all that a state of the reader holds has a property. -/
def State.Holds : State → Prop
  | .value fs | .firstItem fs | .firstKey fs => ∀ f ∈ fs, f.Holds P Q
  | .afterItem done fs => (∀ v ∈ done, P v) ∧ ∀ f ∈ fs, f.Holds P Q
  | .key done fs | .colon _ done fs | .afterMember done fs => Q done ∧ ∀ f ∈ fs, f.Holds P Q
  | .complete v => P v

end

namespace KeptByText

variable {P : Value → Prop} {Q : Members → Prop}

theorem next? (h : KeptByText P Q) {cs rest : List Char} {l : Lexeme}
    (hnext : Lexeme.next? cs = some (l, rest)) : l.Holds P := by
  unfold Lexeme.next? at hnext
  split at hnext
  case h_7 =>
    obtain ⟨⟨t, r⟩, -, ht⟩ := Option.map_eq_some_iff.mp hnext
    obtain ⟨rfl, rfl⟩ := Prod.mk.inj ht
    trivial
  case h_11 =>
    obtain ⟨⟨n, r⟩, -, hn⟩ := Option.bind_eq_some_iff.mp hnext
    obtain ⟨x, hx, hl⟩ := Option.map_eq_some_iff.mp hn
    obtain ⟨rfl, rfl⟩ := Prod.mk.inj hl
    exact h.number hx
  all_goals
    obtain ⟨rfl, rfl⟩ := Prod.mk.inj (Option.some.inj hnext)
    first | trivial | exact h.null | exact h.bool _

theorem deliver (h : KeptByText P Q) {v : Value} {fs : List Frame} (hv : P v)
    (hfs : ∀ f ∈ fs, f.Holds P Q) : (State.deliver v fs).Holds P Q := by
  cases fs with
  | nil => exact hv
  | cons f fs =>
      rw [List.forall_mem_cons] at hfs
      obtain ⟨hf, hfs⟩ := hfs
      cases f with
      | items done => exact ⟨List.forall_mem_cons.mpr ⟨hv, hf⟩, hfs⟩
      | member done key => exact ⟨h.put hv hf, hfs⟩

theorem awaiting? {s : State} {fs : List Frame} (hs : s.Holds P Q) (h : s.awaiting? = some fs) :
    ∀ f ∈ fs, f.Holds P Q := by
  cases s with
  | value gs =>
      obtain rfl := Option.some.inj h
      exact hs
  | firstItem gs =>
      obtain rfl := Option.some.inj h
      exact List.forall_mem_cons.mpr ⟨fun v hv => absurd hv List.not_mem_nil, hs⟩
  | _ => cases h

/-- **A word keeps the property**, of all that the reader holds. -/
theorem step (h : KeptByText P Q) {s s' : State} {l : Lexeme} (hs : s.Holds P Q) (hl : l.Holds P)
    (hstep : s.step l = some s') : s'.Holds P Q := by
  unfold State.step at hstep
  split at hstep
  · -- a scalar
    obtain ⟨fs, hfs, rfl⟩ := Option.map_eq_some_iff.mp hstep
    exact h.deliver hl (awaiting? hs hfs)
  · -- an array or an object begins
    obtain ⟨fs, hfs, hopen⟩ := Option.bind_eq_some_iff.mp hstep
    split at hopen
    · obtain rfl := Option.some.inj hopen
      exact awaiting? hs hfs
    · cases hopen
  · obtain ⟨fs, hfs, hopen⟩ := Option.bind_eq_some_iff.mp hstep
    split at hopen
    · obtain rfl := Option.some.inj hopen
      exact awaiting? hs hfs
    · cases hopen
  · -- one of them ends
    obtain rfl := Option.some.inj hstep
    exact h.deliver (h.array fun v hv => absurd hv List.not_mem_nil) hs
  · obtain rfl := Option.some.inj hstep
    exact h.deliver (h.array fun v hv => hs.1 v (List.mem_reverse.mp hv)) hs.2
  · obtain rfl := Option.some.inj hstep
    exact h.deliver (h.object h.nil) hs
  · obtain rfl := Option.some.inj hstep
    exact h.deliver (h.object hs.1) hs.2
  · -- a comma or a colon
    obtain rfl := Option.some.inj hstep
    exact List.forall_mem_cons.mpr hs
  · obtain rfl := Option.some.inj hstep
    exact hs
  · obtain rfl := Option.some.inj hstep
    exact List.forall_mem_cons.mpr hs
  · -- a key
    obtain rfl := Option.some.inj hstep
    exact ⟨h.nil, hs⟩
  · obtain rfl := Option.some.inj hstep
    exact hs
  · -- any other string
    obtain ⟨fs, hfs, rfl⟩ := Option.map_eq_some_iff.mp hstep
    exact h.deliver (h.string _) (awaiting? hs hfs)
  · cases hstep

end KeptByText

/-- A text that starts with a word is read word first. -/
theorem exists_of_run_cons {s s' : State} {c : Char} {cs : List Char} (hc : ¬isSpace c = true)
    (h : run s (c :: cs) = some s') :
    ∃ l rest s₁, Lexeme.next? (c :: cs) = some (l, rest) ∧ s.step l = some s₁ ∧ run s₁ rest = some s' := by
  rw [run, if_neg hc] at h
  split at h
  · cases h
  · rename_i l rest hnext
    cases hstep : s.step l with
    | none =>
        rw [hstep] at h
        cases h
    | some s₁ =>
        rw [hstep] at h
        exact ⟨l, rest, s₁, hnext, hstep, h⟩

namespace KeptByText

variable {P : Value → Prop} {Q : Members → Prop}

/-- A text keeps it. -/
theorem run (h : KeptByText P Q) {s s' : State} {cs : List Char} (hs : s.Holds P Q)
    (hrun : Json.run s cs = some s') : s'.Holds P Q := by
  -- on the length of the text: a word takes at least one character, but may take many
  induction hlen : cs.length using Nat.strongRecOn generalizing s cs with
  | ind n ih =>
      subst hlen
      cases cs with
      | nil =>
          rw [Json.run] at hrun
          obtain rfl := Option.some.inj hrun
          exact hs
      | cons c cs =>
          by_cases hc : isSpace c = true
          · rw [Json.run, if_pos hc] at hrun
            exact ih cs.length (Nat.lt_succ_self _) hs hrun rfl
          · obtain ⟨l, rest, s₁, hnext, hstep, hrest⟩ := exists_of_run_cons hc hrun
            exact ih rest.length (Lexeme.length_of_next? hnext) (h.step hs (h.next? hnext) hstep) hrest rfl

/-- **Text gives only values with the property.** -/
theorem of_parse? (h : KeptByText P Q) {text : String} {v : Value} (hv : parse? text = some v) : P v := by
  unfold parse? at hv
  split at hv
  · rename_i hrun
    obtain rfl := Option.some.inj hv
    have hstart : (State.value []).Holds P Q := fun f hf => absurd hf List.not_mem_nil
    exact h.run hstart hrun
  · cases hv

end KeptByText

/-! ## Keys -/

/-- Whether no object in a value, at any depth, repeats a key. -/
inductive Value.DistinctKeys : Value → Prop
  | null : DistinctKeys .null
  | bool (b : Bool) : DistinctKeys (.bool b)
  | number (n : Number) : DistinctKeys (.number n)
  | string (s : String) : DistinctKeys (.string s)
  | array {vs : List Value} (items : ∀ v ∈ vs, DistinctKeys v) : DistinctKeys (.array vs)
  | object {ms : Members} (keys : (ms.map (·.1)).Nodup) (values : ∀ m ∈ ms, DistinctKeys m.2) :
      DistinctKeys (.object ms)

/-- A property that all values in an object have is kept when a value with it is put in. -/
theorem Members.forall_put {P : Value → Prop} {key : String} {v : Value} {ms : Members} (hv : P v)
    (hms : ∀ m ∈ ms, P m.2) : ∀ m ∈ Members.put key v ms, P m.2 := by
  induction ms with
  | nil =>
      intro m hm
      obtain rfl := List.mem_singleton.mp hm
      exact hv
  | cons m ms ih =>
      rw [List.forall_mem_cons] at hms
      obtain ⟨k, w⟩ := m
      unfold Members.put
      split
      · exact List.forall_mem_cons.mpr ⟨hv, hms.2⟩
      · exact List.forall_mem_cons.mpr ⟨hms.1, ih hms.2⟩

/-- Putting a value under a key brings no key in twice. -/
theorem Members.nodup_keys_put {key : String} {v : Value} {ms : Members} (h : (ms.map (·.1)).Nodup) :
    ((Members.put key v ms).map (·.1)).Nodup := by
  rw [keys_put]
  by_cases hkey : key ∈ ms.map (·.1)
  · rw [if_pos hkey]
    exact h
  · rw [if_neg hkey, ← List.concat_eq_append]
    exact h.concat hkey

/-- **No text gives an object that repeats a key.** -/
theorem distinctKeys_of_parse? {text : String} {v : Value} (h : parse? text = some v) : v.DistinctKeys := by
  have hkept : KeptByText Value.DistinctKeys fun ms =>
      (ms.map (·.1)).Nodup ∧ ∀ m ∈ ms, m.2.DistinctKeys :=
    { null := .null
      bool := .bool
      number := fun _ => .number _
      string := .string
      array := .array
      object := fun hms => .object hms.1 hms.2
      nil := ⟨List.nodup_nil, nofun⟩
      put := fun hv hms => ⟨Members.nodup_keys_put hms.1, Members.forall_put hv hms.2⟩ }
  exact hkept.of_parse? h

end SyntaxShapes.Json
