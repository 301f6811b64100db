import SyntaxShapes.Json.Record

/-!
# `SyntaxShapes.Proofs.Json.Record` — what reading a record accepts

`readObject` passes over an object twice: it checks the fields that are present, in the order of the
object's keys, and then collects a value for each field, in declaration order. Here each pass gets the
condition under which it succeeds. From the two conditions follows what reading does to a record that
was written, whatever else stands in the same object.

Writing may lose something (a number that JSON cannot hold), so the round trip is stated for a function
`kept` that says what of a field survives; a lossless field has the identity there.

## Contents
- **Keys.** `Members.get?_eq_some_of_mem`, `Members.mem_of_get?_eq_some`.
- **Steps that may fail.** `bind_eq_ok_iff`, `map_eq_ok_iff`.
- **Two passes.** `checkPresent_eq_ok_iff`; `Fits`, `Fills` and `fill_eq_ok_iff`; `readObject_eq_ok_iff`.
- **Round trip.** `Values.map`; `readObject_of_members_subset`.
- **What was read.** `map_eq_self_of_fills`, for properties that every value read has.
-/

namespace SyntaxShapes.Json

/-! ## Keys -/

namespace Members

theorem mem_of_get?_eq_some {key : String} {v : Value} {ms : Members} (h : ms.get? key = some v) :
    (key, v) ∈ ms := by
  obtain ⟨before, after, rfl, -⟩ := List.lookup_eq_some_iff.mp h
  exact List.mem_append_right before List.mem_cons_self

/-- With distinct keys, a member is what a look-up of its key finds. -/
theorem get?_eq_some_of_mem {key : String} {v : Value} {ms : Members}
    (hk : (ms.map (·.1)).Nodup) (h : (key, v) ∈ ms) : ms.get? key = some v := by
  induction ms with
  | nil => exact absurd h (by simp)
  | cons m ms ih =>
      obtain ⟨k, w⟩ := m
      rw [List.map_cons, List.nodup_cons] at hk
      unfold get?
      rw [List.lookup_cons]
      rcases List.mem_cons.mp h with he | hm
      · obtain ⟨rfl, rfl⟩ := Prod.mk.inj he
        simp
      · have hne : key ≠ k := by
          rintro rfl
          exact hk.1 (List.mem_map.mpr ⟨(key, v), hm, rfl⟩)
        rw [beq_eq_false_iff_ne.mpr hne]
        exact ih hk.2 hm

end Members

/-! ## Steps that may fail -/

/-- Two steps succeed exactly when the second does on the result of the first. -/
theorem bind_eq_ok_iff {ε α β : Type} {a : Except ε α} {k : α → Except ε β} {y : β} :
    (a >>= k) = .ok y ↔ ∃ x, a = .ok x ∧ k x = .ok y := by
  cases a with
  | error e => simp [bind, Except.bind]
  | ok x => simp [bind, Except.bind]

theorem map_eq_ok_iff {ε α β : Type} {a : Except ε α} {g : α → β} {y : β} :
    g <$> a = .ok y ↔ ∃ x, a = .ok x ∧ g x = y := by
  cases a with
  | error e => simp [Functor.map, Except.map]
  | ok x => simp [Functor.map, Except.map]

variable {τ : Type} {El : τ → Type}
variable {read : (t : τ) → Value → Except ReadError (El t)}
variable {write : (t : τ) → El t → Value}
variable {kept : (t : τ) → El t → El t}

/-! ## Two passes -/

/-- The first pass succeeds when every member that stands under the key of a field can be read as that
field. -/
theorem checkPresent_eq_ok_iff {fields : List (Field El)} {ms : Members} :
    checkPresent read fields ms = .ok () ↔
      ∀ m ∈ ms, ∀ f, fields.find? (fun f => f.key == m.1) = some f → ∃ x, read f.type m.2 = .ok x := by
  induction ms with
  | nil => simp [checkPresent]
  | cons m ms ih =>
      obtain ⟨k, v⟩ := m
      rw [List.forall_mem_cons, ← ih, checkPresent]
      cases hf : fields.find? (fun f => f.key == k) with
      | none => simp
      | some f =>
          cases hr : read f.type v with
          | error e => simp [hr]
          | ok x => simp [hr]

/-- Whether a value is what a field has in an object: read from the member under its key, or else the
default. -/
def Fits (read : (t : τ) → Value → Except ReadError (El t)) (f : Field El) (x : El f.type) :
    Option Value → Prop
  | some v => read f.type v = .ok x
  | none => f.default? = some x

/-- Whether each of some values is what its field has in an object. -/
def Fills (read : (t : τ) → Value → Except ReadError (El t)) :
    (fields : List (Field El)) → Values fields → Members → Prop
  | [], _, _ => True
  | f :: fs, (x, xs), ms => Fits read f x (ms.get? f.key) ∧ Fills read fs xs ms

/-- The second pass gives exactly the values that fill the fields. -/
theorem fill_eq_ok_iff {fields : List (Field El)} {xs : Values fields} {ms : Members} :
    fill read fields ms = .ok xs ↔ Fills read fields xs ms := by
  induction fields with
  | nil =>
      cases xs
      exact ⟨fun _ => trivial, fun _ => rfl⟩
  | cons f fs ih =>
      obtain ⟨x, xs⟩ := xs
      rw [fill, Fills, ← ih]
      cases ms.get? f.key with
      | some v =>
          refine bind_eq_ok_iff.trans ?_
          constructor
          · rintro ⟨y, hy, h⟩
            obtain ⟨ys, hys, h⟩ := bind_eq_ok_iff.mp h
            obtain ⟨rfl, rfl⟩ := Prod.mk.inj (Except.ok.inj h)
            exact ⟨hy, hys⟩
          · rintro ⟨hx, hxs⟩
            exact ⟨x, hx, bind_eq_ok_iff.mpr ⟨xs, hxs, rfl⟩⟩
      | none =>
          rw [Fits]
          cases f.default? with
          | none => simp
          | some d =>
              refine bind_eq_ok_iff.trans ?_
              constructor
              · rintro ⟨ys, hys, h⟩
                obtain ⟨rfl, rfl⟩ := Prod.mk.inj (Except.ok.inj h)
                exact ⟨rfl, hys⟩
              · rintro ⟨hd, hxs⟩
                obtain rfl := Option.some.inj hd
                exact ⟨xs, hxs, rfl⟩

/-- An object is read exactly when what is there can be read and the rest can be filled in. -/
theorem readObject_eq_ok_iff {fields : List (Field El)} {xs : Values fields} {ms : Members} :
    readObject read fields ms = .ok xs ↔
      checkPresent read fields ms = .ok () ∧ Fills read fields xs ms := by
  unfold readObject
  rw [bind_eq_ok_iff, ← fill_eq_ok_iff]
  exact ⟨fun ⟨_, hcheck, hfill⟩ => ⟨hcheck, hfill⟩, fun ⟨hcheck, hfill⟩ => ⟨(), hcheck, hfill⟩⟩

/-! ## Round trip -/

/-- A function applied to the value of each field. -/
def Values.map (g : (t : τ) → El t → El t) : (fields : List (Field El)) → Values fields → Values fields
  | [], _ => ()
  | f :: fs, (x, xs) => (g f.type x, Values.map g fs xs)

/-- What a written record has under the key of a field was written from some value of that field. -/
theorem exists_of_find?_members (write : (t : τ) → El t → Value) {fields : List (Field El)}
    (xs : Values fields) {key : String} {f : Field El}
    (hf : fields.find? (fun f => f.key == key) = some f) :
    ∃ x, (key, write f.type x) ∈ members write fields xs := by
  induction fields with
  | nil => exact absurd hf (by simp)
  | cons g fs ih =>
      obtain ⟨x, xs⟩ := xs
      rw [members]
      rw [List.find?_cons] at hf
      cases hg : g.key == key with
      | true =>
          rw [hg] at hf
          obtain rfl : g = f := Option.some.inj hf
          rw [← beq_iff_eq.mp hg]
          exact ⟨x, List.mem_cons_self⟩
      | false =>
          rw [hg] at hf
          obtain ⟨y, hy⟩ := ih xs hf
          exact ⟨y, List.mem_cons_of_mem _ hy⟩

/-- What was written of a record fills its fields again, whatever else the object has. -/
theorem fills_of_members_subset (hread : ∀ t x, read t (write t x) = .ok (kept t x))
    {fields : List (Field El)} {xs : Values fields} {ms : Members} (hk : (ms.map (·.1)).Nodup)
    (hsub : members write fields xs ⊆ ms) : Fills read fields (Values.map kept fields xs) ms := by
  induction fields with
  | nil => trivial
  | cons f fs ih =>
      obtain ⟨x, xs⟩ := xs
      rw [members, List.cons_subset] at hsub
      refine ⟨?_, ih hsub.2⟩
      rw [Members.get?_eq_some_of_mem hk hsub.1]
      exact hread f.type x

/-- **Reading undoes writing.** In an object with distinct keys that holds the members of a record, and
    perhaps others, the record is found again, as far as writing keeps its fields. -/
theorem readObject_of_members_subset (kept : (t : τ) → El t → El t)
    (hread : ∀ t x, read t (write t x) = .ok (kept t x)) {fields : List (Field El)}
    {xs : Values fields} {ms : Members} (hk : (ms.map (·.1)).Nodup)
    (hsub : members write fields xs ⊆ ms) :
    readObject read fields ms = .ok (Values.map kept fields xs) := by
  refine readObject_eq_ok_iff.mpr ⟨checkPresent_eq_ok_iff.mpr ?_, fills_of_members_subset hread hk hsub⟩
  intro m hm f hf
  obtain ⟨x, hx⟩ := exists_of_find?_members write xs hf
  -- the keys are distinct, so the member met here is the one that was written for the field
  have hw := Members.get?_eq_some_of_mem hk (hsub hx)
  rw [Members.get?_eq_some_of_mem hk (show (m.1, m.2) ∈ ms from hm)] at hw
  rw [Option.some.inj hw]
  exact ⟨kept f.type x, hread f.type x⟩

/-! ## What was read -/

/-- A function that fixes everything that can be read, and every default, fixes what fills the fields. -/
theorem map_eq_self_of_fills {fields : List (Field El)} {xs : Values fields} {ms : Members}
    (hread : ∀ m ∈ ms, ∀ t x, read t m.2 = .ok x → kept t x = x)
    (hdefault : ∀ f ∈ fields, ∀ d, f.default? = some d → kept f.type d = d)
    (h : Fills read fields xs ms) : Values.map kept fields xs = xs := by
  induction fields with
  | nil => rfl
  | cons f fs ih =>
      obtain ⟨x, xs⟩ := xs
      obtain ⟨hx, hxs⟩ := h
      rw [List.forall_mem_cons] at hdefault
      rw [Values.map, ih hdefault.2 hxs]
      cases hv : ms.get? f.key with
      | some v =>
          rw [hv] at hx
          rw [hread _ (Members.mem_of_get?_eq_some hv) f.type x hx]
      | none =>
          rw [hv] at hx
          rw [hdefault.1 x hx]

end SyntaxShapes.Json
