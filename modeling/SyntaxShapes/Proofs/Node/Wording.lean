import SyntaxShapes.Node.Json

/-!
# `SyntaxShapes.Proofs.Node.Wording` — which messages stay on one line

The message about a node that could not be read quotes parts of that node. A text of the wrong type is
quoted with its line ends escaped; a number has none; keys, names of records and known names are this
library's own. A name that is not known stands in its message as it is. So a message spans lines exactly
when it is about an unknown name that does: `Node.newline_mem_message_iff`.

That is first said of a cause by itself, as far as its other parts are this library's (`StaysOnLine`). Then
come the readers: whatever the value, each of them fails for such causes only.

## Contents
- **Parts of a message.** No line end in numbers, kinds of value, or lists of known names.
- **Messages.** `ReadError.StaysOnLine`, `ReadError.newline_mem_message_iff`.
- **Readings.** `FailsOnLine`, kept by the ways to put readings together.
- **Readers.** Scalars and vocabularies, records by their tables of fields, nodes.
-/

namespace SyntaxShapes.Json

open Text (newline_notMem_toDigits newline_notMem_quoted)

/-! ## Parts of a message -/

theorem newline_notMem_append {s t : String} (hs : '\n' ∉ s.toList) (ht : '\n' ∉ t.toList) :
    '\n' ∉ (s ++ t).toList := by
  rw [String.toList_append, List.mem_append, not_or]
  exact ⟨hs, ht⟩

theorem newline_notMem_toString_nat (n : Nat) : '\n' ∉ (toString n).toList := by
  rw [Nat.toString_eq_ofList_toDigits, String.toList_ofList]
  exact newline_notMem_toDigits (by decide) n

theorem newline_notMem_toString_int (i : Int) : '\n' ∉ (toString i).toList := by
  cases i with
  | ofNat n => exact newline_notMem_toString_nat n
  | negSucc n =>
      show '\n' ∉ ("-" ++ toString (n + 1)).toList
      exact newline_notMem_append (by decide) (newline_notMem_toString_nat (n + 1))

theorem newline_notMem_exponentText (e : Int) : '\n' ∉ Binary64.exponentText e := by
  unfold Binary64.exponentText
  rw [List.mem_cons, not_or]
  refine ⟨?_, newline_notMem_toDigits (by decide) _⟩
  split
  all_goals decide

theorem newline_notMem_layOut {ds : List Char} (h : '\n' ∉ ds) (k : Int) : '\n' ∉ Binary64.layOut ds k := by
  have htake : ∀ n, '\n' ∉ ds.take n := fun n hn => h (List.mem_of_mem_take hn)
  have hdrop : ∀ n, '\n' ∉ ds.drop n := fun n hn => h (List.mem_of_mem_drop hn)
  -- one case for each form: a whole number, a point inside, a point in front, an exponent
  unfold Binary64.layOut
  dsimp only
  split
  · simp [h]
  · split
    · simp [htake, hdrop]
    · split
      · simp [h]
      · split
        · simp [htake, newline_notMem_exponentText]
        · have htail := hdrop 1
          rw [List.drop_one] at htail
          simp [htake, htail, newline_notMem_exponentText]

theorem newline_notMem_text (x : Binary64) : '\n' ∉ x.text.toList := by
  have hsign : '\n' ∉ (if x.negative then ['-'] else []) := by
    split
    all_goals decide
  unfold Binary64.text
  dsimp only
  split
  · rw [String.toList_ofList, List.mem_append, not_or]
    exact ⟨hsign, by decide⟩
  · rw [String.toList_ofList, List.mem_append, not_or]
    exact ⟨hsign, newline_notMem_layOut (newline_notMem_toDigits (by decide) _) _⟩

/-- A text of the wrong type is quoted, so whatever was found is said on one line. -/
theorem newline_notMem_found (found : Found) : '\n' ∉ found.text.toList := by
  cases found with
  | null | sequence | map => decide
  | boolean b =>
      cases b
      all_goals decide
  | integer i =>
      exact newline_notMem_append (newline_notMem_append (by decide) (newline_notMem_toString_int i)) (by decide)
  | float x =>
      exact newline_notMem_append (newline_notMem_append (by decide) (newline_notMem_text x)) (by decide)
  | string s => exact newline_notMem_append (by decide) (newline_notMem_quoted s)

theorem newline_notMem_elementCount (n : Nat) : '\n' ∉ (elementCount n).toList := by
  refine newline_notMem_append (newline_notMem_toString_nat n) ?_
  split
  all_goals decide

/-- A joined list stays on its line if its items and its separator do. -/
theorem newline_notMem_intercalate {separator : String} {names : List String}
    (hs : '\n' ∉ separator.toList) (hnames : ∀ name ∈ names, '\n' ∉ name.toList) :
    '\n' ∉ (separator.intercalate names).toList := by
  rw [String.toList_intercalate]
  induction names with
  | nil => exact List.not_mem_nil
  | cons name names ih =>
      rw [List.forall_mem_cons] at hnames
      cases names with
      | nil =>
          rw [List.map_singleton, List.intercalate_singleton]
          exact hnames.1
      | cons other names =>
          rw [List.map_cons, List.map_cons, List.intercalate_cons_cons, List.mem_append, List.mem_append,
            not_or, not_or]
          exact ⟨⟨hnames.1, hs⟩, ih hnames.2⟩

/-! ## Messages -/

/-- Whether the words of a cause stay on one line, an unknown name and what was found apart. -/
def ReadError.StaysOnLine : ReadError → Prop
  | .wrongType _ expected => '\n' ∉ expected.text.toList
  | .outOfRange _ expected => '\n' ∉ expected.text.toList
  | .unknownVariant _ known => ∀ name ∈ known, '\n' ∉ name.toList
  | .notSingleKey => True
  | .missingField key => '\n' ∉ key.toList
  | .tooShort _ record _ => '\n' ∉ record.toList
  | .tooLong _ _ _ => True

/-- **A message spans lines exactly when it names an unknown name that does**, as far as its other words
    stay on one line. -/
theorem ReadError.newline_mem_message_iff {e : ReadError} (h : e.StaysOnLine) :
    '\n' ∈ e.message.toList ↔ ∃ name known, e = .unknownVariant name known ∧ '\n' ∈ name.toList := by
  cases e with
  | wrongType found expected =>
      have hmessage : '\n' ∉ (ReadError.wrongType found expected).message.toList :=
        newline_notMem_append
          (newline_notMem_append (newline_notMem_append (by decide) (newline_notMem_found found)) (by decide)) h
      exact ⟨fun hmem => absurd hmem hmessage, nofun⟩
  | outOfRange i expected =>
      have hmessage : '\n' ∉ (ReadError.outOfRange i expected).message.toList :=
        newline_notMem_append (newline_notMem_append
          (newline_notMem_append (by decide) (newline_notMem_toString_int i)) (by decide)) h
      exact ⟨fun hmem => absurd hmem hmessage, nofun⟩
  | unknownVariant name known =>
      have hknown : '\n' ∉ ("`, `".intercalate known).toList := newline_notMem_intercalate (by decide) h
      have hlead : '\n' ∉ "unknown variant `".toList := by decide
      have hmiddle : '\n' ∉ "`, expected one of `".toList := by decide
      have htrail : '\n' ∉ "`".toList := by decide
      unfold ReadError.message
      simp only [String.toList_append, List.mem_append, hknown, hlead, hmiddle, htrail, or_false, false_or]
      constructor
      · intro hmem
        exact ⟨name, known, rfl, hmem⟩
      · rintro ⟨_, _, ⟨⟩, hmem⟩
        exact hmem
  | notSingleKey => exact ⟨fun hmem => absurd hmem (by decide), nofun⟩
  | missingField key =>
      have hmessage : '\n' ∉ (ReadError.missingField key).message.toList :=
        newline_notMem_append (newline_notMem_append (by decide) h) (by decide)
      exact ⟨fun hmem => absurd hmem hmessage, nofun⟩
  | tooShort length record fields =>
      have hmessage : '\n' ∉ (ReadError.tooShort length record fields).message.toList :=
        newline_notMem_append (newline_notMem_append (newline_notMem_append (newline_notMem_append
          (newline_notMem_append (by decide) (newline_notMem_toString_nat length)) (by decide)) h) (by decide))
          (newline_notMem_elementCount fields)
      exact ⟨fun hmem => absurd hmem hmessage, nofun⟩
  | tooLong place length fields =>
      have hlead : '\n' ∉ ("invalid length " ++ toString length).toList :=
        newline_notMem_append (by decide) (newline_notMem_toString_nat length)
      have hmessage : '\n' ∉ (ReadError.tooLong place length fields).message.toList := by
        cases place with
        | inNode =>
            exact newline_notMem_append (newline_notMem_append (newline_notMem_append hlead (by decide))
              (newline_notMem_elementCount fields)) (by decide)
        | alone => exact newline_notMem_append hlead (by decide)
      exact ⟨fun hmem => absurd hmem hmessage, nofun⟩

/-! ## Readings -/

/-- Whether a reading, if it fails, fails for a cause whose words stay on one line. -/
def FailsOnLine {α : Type} (x : Except ReadError α) : Prop := ∀ e, x = .error e → e.StaysOnLine

section

variable {α β : Type}

theorem failsOnLine_ok (a : α) : FailsOnLine (.ok a) := nofun

theorem failsOnLine_error {e : ReadError} (h : e.StaysOnLine) : FailsOnLine (.error e : Except ReadError α) := by
  rintro _ ⟨⟩
  exact h

/-- Two steps fail on their line if both do. -/
theorem FailsOnLine.bind {x : Except ReadError α} {f : α → Except ReadError β} (hx : FailsOnLine x)
    (hf : ∀ a, FailsOnLine (f a)) : FailsOnLine (x >>= f) := by
  cases x with
  | error e => exact failsOnLine_error (hx e rfl)
  | ok a => exact hf a

theorem FailsOnLine.map {x : Except ReadError α} (hx : FailsOnLine x) (f : α → β) : FailsOnLine (f <$> x) := by
  cases x with
  | error e => exact failsOnLine_error (hx e rfl)
  | ok a => exact failsOnLine_ok (f a)

theorem failsOnLine_mapM {read : Value → Except ReadError α} (hread : ∀ v, FailsOnLine (read v))
    (vs : List Value) : FailsOnLine (vs.mapM read) := by
  induction vs with
  | nil => exact failsOnLine_ok []
  | cons v vs ih =>
      rw [List.mapM_cons]
      exact (hread v).bind fun a => ih.bind fun as => failsOnLine_ok (a :: as)

end

/-! ## Readers -/

section

variable {α : Type}

theorem failsOnLine_wrongType {found : Found} {expected : Expectation} (h : '\n' ∉ expected.text.toList) :
    FailsOnLine (.error (.wrongType found expected) : Except ReadError α) :=
  failsOnLine_error h

theorem failsOnLine_outOfRange {i : Int} {expected : Expectation} (h : '\n' ∉ expected.text.toList) :
    FailsOnLine (.error (.outOfRange i expected) : Except ReadError α) :=
  failsOnLine_error h

theorem failsOnLine_readU16 (v : Value) : FailsOnLine (readU16 v) := by
  unfold readU16
  split
  · split
    · exact failsOnLine_ok _
    · exact failsOnLine_outOfRange (by decide)
  · exact failsOnLine_wrongType (by decide)

theorem failsOnLine_readU32 (v : Value) : FailsOnLine (readU32 v) := by
  unfold readU32
  split
  · split
    · exact failsOnLine_ok _
    · exact failsOnLine_outOfRange (by decide)
  · exact failsOnLine_wrongType (by decide)

theorem failsOnLine_readFloat? (v : Value) : FailsOnLine (readFloat? v) := by
  unfold readFloat?
  split
  · exact failsOnLine_ok _
  · exact failsOnLine_ok _
  · exact failsOnLine_ok _
  · exact failsOnLine_wrongType (by decide)

theorem failsOnLine_readBool (v : Value) : FailsOnLine (readBool v) := by
  unfold readBool
  split
  · exact failsOnLine_ok _
  · exact failsOnLine_wrongType (by decide)

theorem failsOnLine_readString (v : Value) : FailsOnLine (readString v) := by
  unfold readString
  split
  · exact failsOnLine_ok _
  · exact failsOnLine_wrongType (by decide)

theorem failsOnLine_readList {read : Value → Except ReadError α} (hread : ∀ v, FailsOnLine (read v))
    (v : Value) : FailsOnLine (readList read v) := by
  unfold readList
  split
  · exact failsOnLine_mapM hread _
  · exact failsOnLine_wrongType (by decide)

variable [Named α]

theorem failsOnLine_readName (hnames : ∀ name ∈ Named.names α, '\n' ∉ name.toList) (s : String) :
    FailsOnLine (readName s : Except ReadError α) := by
  unfold readName
  split
  · exact failsOnLine_ok _
  · exact failsOnLine_error hnames

theorem failsOnLine_readUnit (place : Place) (v : Value) : FailsOnLine (readUnit place v) := by
  unfold readUnit
  split
  · exact failsOnLine_ok _
  · exact failsOnLine_ok _
  · exact failsOnLine_wrongType (by decide)

theorem failsOnLine_readVariant (hnames : ∀ name ∈ Named.names α, '\n' ∉ name.toList) (place : Place)
    (v : Value) : FailsOnLine (readVariant place v : Except ReadError α) := by
  unfold readVariant
  split
  · exact failsOnLine_readName hnames _
  · exact (failsOnLine_readName hnames _).bind fun _ =>
      (failsOnLine_readUnit place _).bind fun _ => failsOnLine_ok _
  · exact failsOnLine_error trivial
  · exact failsOnLine_wrongType (by decide)

end

/-! ### Records -/

section

variable {τ : Type} {El : τ → Type} {read : (t : τ) → Value → Except ReadError (El t)}

theorem failsOnLine_checkPresent (hread : ∀ t v, FailsOnLine (read t v)) (fields : List (Field El))
    (ms : Members) : FailsOnLine (checkPresent read fields ms) := by
  induction ms with
  | nil => exact failsOnLine_ok ()
  | cons m ms ih =>
      obtain ⟨key, v⟩ := m
      unfold checkPresent
      split
      · exact ih
      · split
        · rename_i hfail
          exact failsOnLine_error (hread _ _ _ hfail)
        · exact ih

/-- Filling in what is missing fails on its line if the keys of the fields stay on theirs. -/
theorem failsOnLine_fill (hread : ∀ t v, FailsOnLine (read t v)) {fields : List (Field El)}
    (hkeys : ∀ f ∈ fields, '\n' ∉ f.key.toList) (ms : Members) : FailsOnLine (fill read fields ms) := by
  induction fields with
  | nil => exact failsOnLine_ok ()
  | cons f fs ih =>
      rw [List.forall_mem_cons] at hkeys
      have hrest := ih hkeys.2
      unfold fill
      split
      · exact (hread _ _).bind fun _ => hrest.bind fun _ => failsOnLine_ok _
      · exact hrest.bind fun _ => failsOnLine_ok _
      · exact failsOnLine_error hkeys.1

/-- Reading an object fails on its line if both of its passes do. -/
theorem failsOnLine_readObject (hread : ∀ t v, FailsOnLine (read t v)) {fields : List (Field El)}
    (hkeys : ∀ f ∈ fields, '\n' ∉ f.key.toList) (ms : Members) : FailsOnLine (readObject read fields ms) :=
  (failsOnLine_checkPresent hread fields ms).bind fun _ => failsOnLine_fill hread hkeys ms

theorem failsOnLine_readItems (hread : ∀ t v, FailsOnLine (read t v)) {short : Nat → ReadError}
    (hshort : ∀ i, (short i).StaysOnLine) (fields : List (Field El)) (i : Nat) (vs : List Value) :
    FailsOnLine (readItems read short fields i vs) := by
  induction fields generalizing i vs with
  | nil => exact failsOnLine_ok ()
  | cons f fs ih =>
      cases vs with
      | nil =>
          unfold readItems
          split
          · exact (ih (i + 1) []).bind fun _ => failsOnLine_ok _
          · exact failsOnLine_error (hshort i)
      | cons v vs => exact (hread _ _).bind fun _ => (ih (i + 1) vs).bind fun _ => failsOnLine_ok _

theorem failsOnLine_readArray (hread : ∀ t v, FailsOnLine (read t v)) (place : Place) {name : String}
    (hname : '\n' ∉ name.toList) (fields : List (Field El)) (vs : List Value) :
    FailsOnLine (readArray read place name fields vs) := by
  have hshort : ∀ i, (ReadError.tooShort i name fields.length).StaysOnLine := fun _ => hname
  refine (failsOnLine_readItems hread hshort fields 0 vs).bind fun _ => ?_
  split
  · exact failsOnLine_error trivial
  · exact failsOnLine_ok _

end

end SyntaxShapes.Json

namespace SyntaxShapes

open Json (Value ReadError Place Members FailsOnLine failsOnLine_wrongType)

/-! ### Nodes -/

theorem NodeIndex.failsOnLine_read (v : Value) : FailsOnLine (NodeIndex.read v) :=
  (Json.failsOnLine_readU32 v).map _

theorem NodeList.failsOnLine_read (place : Place) (v : Value) : FailsOnLine (NodeList.read place v) := by
  have hslot : ∀ (s : Slot) (v : Value), FailsOnLine (Slot.read s v) := by
    intro s v
    cases s with
    | nodes => exact Json.failsOnLine_readList NodeIndex.failsOnLine_read v
    | offset => exact Json.failsOnLine_readU32 v
  unfold NodeList.read
  split
  · exact (Json.failsOnLine_readObject hslot (by decide) _).map _
  · exact (Json.failsOnLine_readArray hslot place (by decide) fields _).map _
  · exact failsOnLine_wrongType (by decide)

/-- No known name spans lines. -/
theorem Kind.newline_notMem_names : ∀ name ∈ Named.names Kind, '\n' ∉ name.toList := by
  decide +kernel

theorem Keyword.newline_notMem_names : ∀ name ∈ Named.names Keyword, '\n' ∉ name.toList := by
  decide +kernel

theorem Token.newline_notMem_names : ∀ name ∈ Named.names Token, '\n' ∉ name.toList := by
  decide +kernel

theorem Slot.failsOnLine_read (place : Place) (s : Slot) (v : Json.Value) : FailsOnLine (Slot.read place s v) := by
  cases s with
  | flags => exact Json.failsOnLine_readU16 v
  | offset => exact Json.failsOnLine_readU32 v
  | index => exact NodeIndex.failsOnLine_read v
  | list => exact NodeList.failsOnLine_read place v
  | text => exact Json.failsOnLine_readString v
  | truth => exact Json.failsOnLine_readBool v
  | value => exact Json.failsOnLine_readFloat? v
  | keyword => exact Json.failsOnLine_readVariant Keyword.newline_notMem_names place v
  | token => exact Json.failsOnLine_readVariant Token.newline_notMem_names place v

/-- The keys of every payload stay on their line. -/
theorem Kind.newline_notMem_keys (k : Kind) : ∀ f ∈ Record.fields k.Data, '\n' ∉ f.key.toList := by
  cases k
  all_goals decide

theorem Kind.failsOnLine_readFrom (place : Place) (ms : Members) : FailsOnLine (Kind.readFrom place ms) := by
  unfold Kind.readFrom
  split
  · unfold Kind.read
    split
    · exact Json.failsOnLine_readName Kind.newline_notMem_names _
    · split
      · split
        · exact Json.failsOnLine_ok _
        · exact Json.failsOnLine_outOfRange (by decide +kernel)
      · exact failsOnLine_wrongType (by decide)
    · exact failsOnLine_wrongType (by decide)
  · have hkey : '\n' ∉ "kind".toList := by decide
    exact Json.failsOnLine_error hkey

/-- Every payload fails on its line. -/
theorem Payload.failsOnLine_readData (k : Kind) (ms : Members) : FailsOnLine (Payload.readData k ms) := by
  unfold Payload.readData Record.read
  exact ((Json.failsOnLine_readObject (Slot.failsOnLine_read .inNode) k.newline_notMem_keys ms).map _).map _

/-- Every node fails on its line, but for an unknown name. -/
theorem Node.failsOnLine_read (v : Value) : FailsOnLine (Node.read v) := by
  unfold Node.read
  split
  · exact (Json.failsOnLine_readObject (Slot.failsOnLine_read .alone) (by decide) _).bind fun _ =>
      (Kind.failsOnLine_readFrom .inNode _).bind fun k =>
        (Payload.failsOnLine_readData k _).bind fun _ => Json.failsOnLine_ok _
  · exact failsOnLine_wrongType (by decide)

/-- **The message about a node that cannot be read spans lines exactly when it is about an unknown name that
    does.** -/
theorem Node.newline_mem_message_iff {v : Value} {e : ReadError} (h : Node.read v = .error e) :
    '\n' ∈ e.message.toList ↔ ∃ name known, e = .unknownVariant name known ∧ '\n' ∈ name.toList :=
  ReadError.newline_mem_message_iff (Node.failsOnLine_read v e h)

end SyntaxShapes
