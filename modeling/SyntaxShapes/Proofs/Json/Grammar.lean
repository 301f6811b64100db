import Mathlib.Data.List.Nodup
import SyntaxShapes.Json.Reader
import SyntaxShapes.Proofs.Json.Record

/-!
# `SyntaxShapes.Proofs.Json.Grammar` — which JSON spells which value

What a reader accepts is described here without the reader: for each sort of value a relation between JSON
and the values that it spells, and for objects the relation between a key and the value that it gives. Each
reader then accepts what its relation describes, and nothing else, and reads it as the value that is spelled.

Words have a spelling that is easily missed: inside a node, where a word may be an object with its name as
the only key, not only null but also an empty object may stand under that key.

## Contents
- **Scalars.** `SpellsU16`, `SpellsU32`, `SpellsNumber?`, `SpellsTruth`, `SpellsText`.
- **Words and lists.** `SpellsWord`; `readList_eq_ok_iff`, for lists of what any relation describes.
- **Objects.** `Given`, what a key gives; `AllGiven`, what the keys of all fields give;
  `readObject_eq_ok_iff_allGiven`.
- **Arrays.** `AllItems`, the items as fields in order; `readArray_eq_ok_iff_allItems`.
-/

namespace SyntaxShapes.Json

variable {v : Value}

/-! ## Scalars -/

/-- The integers of sixteen bits. -/
inductive SpellsU16 : Value → UInt16 → Prop
  | int {i : Int} (lower : 0 ≤ i) (upper : i ≤ 65535) : SpellsU16 (.number (.int i)) (.ofNat i.toNat)

/-- The integers of thirty-two bits. -/
inductive SpellsU32 : Value → UInt32 → Prop
  | int {i : Int} (lower : 0 ≤ i) (upper : i ≤ 4294967295) : SpellsU32 (.number (.int i)) (.ofNat i.toNat)

/-- Any number, or null for none. -/
inductive SpellsNumber? : Value → Option Binary64 → Prop
  | null : SpellsNumber? .null none
  | int (i : Int) : SpellsNumber? (.number (.int i)) (some (.ofInt i))
  | float (x : Binary64) : SpellsNumber? (.number (.float x)) (some x)

/-- The truth values. -/
inductive SpellsTruth : Value → Bool → Prop
  | bool (b : Bool) : SpellsTruth (.bool b) b

/-- The texts. -/
inductive SpellsText : Value → String → Prop
  | string (s : String) : SpellsText (.string s) s

theorem readU16_eq_ok_iff {n : UInt16} : readU16 v = .ok n ↔ SpellsU16 v n := by
  constructor
  · intro h
    unfold readU16 at h
    split at h
    · split at h
      · rename_i i hi
        obtain rfl := Except.ok.inj h
        exact .int hi.1 (by omega)
      · cases h
    · cases h
  · rintro ⟨lower, upper⟩
    exact if_pos ⟨lower, by omega⟩

theorem readU32_eq_ok_iff {n : UInt32} : readU32 v = .ok n ↔ SpellsU32 v n := by
  constructor
  · intro h
    unfold readU32 at h
    split at h
    · split at h
      · rename_i i hi
        obtain rfl := Except.ok.inj h
        exact .int hi.1 (by omega)
      · cases h
    · cases h
  · rintro ⟨lower, upper⟩
    exact if_pos ⟨lower, by omega⟩

theorem readFloat?_eq_ok_iff {x : Option Binary64} : readFloat? v = .ok x ↔ SpellsNumber? v x := by
  constructor
  · intro h
    unfold readFloat? at h
    split at h
    · obtain rfl := Except.ok.inj h
      exact .null
    · obtain rfl := Except.ok.inj h
      exact .int _
    · obtain rfl := Except.ok.inj h
      exact .float _
    · cases h
  · intro h
    cases h <;> rfl

theorem readBool_eq_ok_iff {b : Bool} : readBool v = .ok b ↔ SpellsTruth v b := by
  constructor
  · intro h
    unfold readBool at h
    split at h
    · obtain rfl := Except.ok.inj h
      exact .bool _
    · cases h
  · rintro ⟨⟩
    rfl

theorem readString_eq_ok_iff {s : String} : readString v = .ok s ↔ SpellsText v s := by
  constructor
  · intro h
    unfold readString at h
    split at h
    · obtain rfl := Except.ok.inj h
      exact .string _
    · cases h
  · rintro ⟨⟩
    rfl

/-! ## Words and lists -/

/-- The words of a vocabulary inside a node: the name, or an object with the name as its only key, under
    which null or an empty object stands. -/
inductive SpellsWord {α : Type} [Named α] : Value → α → Prop
  | name (a : α) : SpellsWord (.string (Named.name a)) a
  | null (a : α) : SpellsWord (.object [(Named.name a, .null)]) a
  | empty (a : α) : SpellsWord (.object [(Named.name a, .object [])]) a

/-- Reading a name succeeds exactly on the names of the type. -/
theorem readName_eq_ok_iff {α : Type} [Named α] {s : String} {a : α} :
    (readName s : Except ReadError α) = .ok a ↔ s = Named.name a := by
  rw [← Named.ofName?_eq_some_iff]
  unfold readName
  cases (Named.ofName? s : Option α) with
  | none => exact ⟨nofun, nofun⟩
  | some b => exact ⟨fun h => congrArg some (Except.ok.inj h), fun h => congrArg Except.ok (Option.some.inj h)⟩

/-- Inside of a node, an empty object is as good as null. -/
theorem readUnit_inNode_eq_ok_iff : readUnit .inNode v = .ok () ↔ v = .null ∨ v = .object [] := by
  constructor
  · intro h
    unfold readUnit at h
    split at h
    · exact Or.inl rfl
    · exact Or.inr rfl
    · cases h
  · rintro (rfl | rfl)
    · rfl
    · rfl

/-- Reading a word inside of a node succeeds exactly on its spellings. -/
theorem readVariant_inNode_eq_ok_iff {α : Type} [Named α] {a : α} :
    readVariant .inNode v = .ok a ↔ SpellsWord v a := by
  constructor
  · intro h
    unfold readVariant at h
    split at h
    · obtain rfl := readName_eq_ok_iff.mp h
      exact .name a
    · obtain ⟨b, hb, h⟩ := bind_eq_ok_iff.mp h
      obtain ⟨_, hunit, h⟩ := bind_eq_ok_iff.mp h
      obtain rfl := Except.ok.inj h
      obtain rfl := readName_eq_ok_iff.mp hb
      rcases readUnit_inNode_eq_ok_iff.mp hunit with rfl | rfl
      · exact .null b
      · exact .empty b
    · cases h
    · cases h
  · have hname : (readName (Named.name a) : Except ReadError α) = .ok a := readName_eq_ok_iff.mpr rfl
    rintro (_ | _ | _)
    · exact hname
    · exact bind_eq_ok_iff.mpr ⟨a, hname, rfl⟩
    · exact bind_eq_ok_iff.mpr ⟨a, hname, rfl⟩

/-- Reading all of some values succeeds exactly when reading each of them does. -/
theorem mapM_eq_ok_iff {α β ε : Type} {read : α → Except ε β} {xs : List α} {ys : List β} :
    xs.mapM read = .ok ys ↔ List.Forall₂ (fun x y => read x = .ok y) xs ys := by
  induction xs generalizing ys with
  | nil =>
      constructor
      · intro h
        obtain rfl := Except.ok.inj h
        exact .nil
      · rintro ⟨⟩
        rfl
  | cons x xs ih =>
      rw [List.mapM_cons]
      constructor
      · intro h
        obtain ⟨y, hy, h⟩ := bind_eq_ok_iff.mp h
        obtain ⟨zs, hzs, h⟩ := bind_eq_ok_iff.mp h
        obtain rfl := Except.ok.inj h
        exact .cons hy (ih.mp hzs)
      · rintro (_ | ⟨hy, hys⟩)
        exact bind_eq_ok_iff.mpr ⟨_, hy, bind_eq_ok_iff.mpr ⟨_, ih.mpr hys, rfl⟩⟩

/-- The lists whose items a relation describes. -/
inductive SpellsList {α : Type} (spells : Value → α → Prop) : Value → List α → Prop
  | array {vs : List Value} {xs : List α} (items : List.Forall₂ spells vs xs) : SpellsList spells (.array vs) xs

theorem readList_eq_ok_iff {α : Type} {read : Value → Except ReadError α} {spells : Value → α → Prop}
    (hread : ∀ {v x}, read v = .ok x ↔ spells v x) {xs : List α} :
    readList read v = .ok xs ↔ SpellsList spells v xs := by
  constructor
  · intro h
    unfold readList at h
    split at h
    · exact .array ((mapM_eq_ok_iff.mp h).imp fun _ _ => hread.mp)
    · cases h
  · rintro ⟨items⟩
    exact mapM_eq_ok_iff.mpr (items.imp fun _ _ => hread.mpr)

/-! ## Objects -/

/-- What a key of an object gives: the value that is spelled under it, or a default where nothing stands
    under it. Where a key is repeated the first place counts, but what stands in the others has to spell
    something as well. -/
inductive Given {α : Type} (spells : Value → α → Prop) (default? : Option α) (ms : Members) (key : String) :
    α → Prop
  | present {v : Value} {x : α} (found : ms.get? key = some v) (spelled : spells v x)
      (others : ∀ w, (key, w) ∈ ms → ∃ y, spells w y) : Given spells default? ms key x
  | absent {x : α} (missing : ms.get? key = none) (default : default? = some x) :
      Given spells default? ms key x

/-- Where no key is repeated, a key without a default gives what stands under it. -/
theorem given_none_iff {α : Type} {spells : Value → α → Prop} {ms : Members} {key : String} {x : α}
    (hkeys : (ms.map (·.1)).Nodup) : Given spells none ms key x ↔ ∃ v, ms.get? key = some v ∧ spells v x := by
  constructor
  · rintro (⟨found, spelled, -⟩ | ⟨-, default⟩)
    · exact ⟨_, found, spelled⟩
    · cases default
  · rintro ⟨v, found, spelled⟩
    refine .present found spelled ?_
    intro w hw
    obtain rfl := Option.some.inj (found.symm.trans (Members.get?_eq_some_of_mem hkeys hw))
    exact ⟨x, spelled⟩

variable {τ : Type} {El : τ → Type}
variable {read : (t : τ) → Value → Except ReadError (El t)} {spells : (t : τ) → Value → El t → Prop}

/-- What the keys of some fields give. -/
def AllGiven (spells : (t : τ) → Value → El t → Prop) :
    (fields : List (Field El)) → Values fields → Members → Prop
  | [], _, _ => True
  | f :: fs, (x, xs), ms => Given (spells f.type) f.default? ms f.key x ∧ AllGiven spells fs xs ms

theorem not_mem_of_get?_eq_none {key : String} {ms : Members} (h : ms.get? key = none) (w : Value) :
    (key, w) ∉ ms := by
  intro hw
  have hne := List.lookup_eq_none_iff.mp h (key, w) hw
  simp at hne

/-- The two passes over an object, seen from one field. -/
theorem given_iff {f : Field El} {x : El f.type} {ms : Members}
    (hread : ∀ v x, read f.type v = .ok x ↔ spells f.type v x) :
    Given (spells f.type) f.default? ms f.key x ↔
      (∀ v, (f.key, v) ∈ ms → ∃ y, read f.type v = .ok y) ∧ Fits read f x (ms.get? f.key) := by
  constructor
  · rintro (⟨found, spelled, others⟩ | ⟨missing, default⟩)
    · refine ⟨?_, ?_⟩
      · intro w hw
        obtain ⟨y, hy⟩ := others w hw
        exact ⟨y, (hread w y).mpr hy⟩
      · rw [found]
        exact (hread _ x).mpr spelled
    · refine ⟨fun w hw => absurd hw (not_mem_of_get?_eq_none missing w), ?_⟩
      rw [missing]
      exact default
  · rintro ⟨hothers, hfits⟩
    cases hget : ms.get? f.key with
    | none =>
        rw [hget] at hfits
        exact .absent hget hfits
    | some v =>
        rw [hget] at hfits
        refine .present hget ((hread v x).mp hfits) ?_
        intro w hw
        obtain ⟨y, hy⟩ := hothers w hw
        exact ⟨y, (hread w y).mp hy⟩

/-- With distinct keys, a field is what a search for its key finds. -/
theorem find?_key_eq_some {fields : List (Field El)} {f : Field El} (hkeys : (fields.map (·.key)).Nodup)
    (hf : f ∈ fields) : fields.find? (fun g => g.key == f.key) = some f := by
  cases hg : fields.find? fun g => g.key == f.key with
  | none => exact absurd (List.find?_eq_none.mp hg f hf) (by simp)
  | some g =>
      have hkey := List.find?_some hg
      rw [beq_iff_eq] at hkey
      rw [List.inj_on_of_nodup_map hkeys (List.mem_of_find?_eq_some hg) hf hkey]

/-- Where the keys of the fields are distinct, the first pass looks at each field by itself. -/
theorem checkPresent_eq_ok_iff_of_nodup {fields : List (Field El)} {ms : Members}
    (hkeys : (fields.map (·.key)).Nodup) :
    checkPresent read fields ms = .ok () ↔
      ∀ f ∈ fields, ∀ v, (f.key, v) ∈ ms → ∃ x, read f.type v = .ok x := by
  rw [checkPresent_eq_ok_iff]
  constructor
  · intro h f hf v hv
    exact h (f.key, v) hv f (find?_key_eq_some hkeys hf)
  · rintro h ⟨key, v⟩ hv f hf
    have hkey := List.find?_some hf
    obtain rfl : f.key = key := beq_iff_eq.mp hkey
    exact h f (List.mem_of_find?_eq_some hf) v hv

/-- **An object is read as a record when its keys give the fields**, one by one. -/
theorem readObject_eq_ok_iff_allGiven {fields : List (Field El)} {xs : Values fields} {ms : Members}
    (hkeys : (fields.map (·.key)).Nodup)
    (hread : ∀ f ∈ fields, ∀ v x, read f.type v = .ok x ↔ spells f.type v x) :
    readObject read fields ms = .ok xs ↔ AllGiven spells fields xs ms := by
  rw [readObject_eq_ok_iff, checkPresent_eq_ok_iff_of_nodup hkeys]
  clear hkeys
  induction fields with
  | nil => exact ⟨fun _ => trivial, fun _ => ⟨nofun, trivial⟩⟩
  | cons f fs ih =>
      obtain ⟨x, xs⟩ := xs
      rw [List.forall_mem_cons] at hread
      rw [AllGiven, given_iff hread.1, ← ih hread.2, Fills, List.forall_mem_cons]
      exact and_and_and_comm

/-! ## Arrays -/

/-- The items of an array as the first fields of a record; the other fields have defaults. -/
def AllItems (spells : (t : τ) → Value → El t → Prop) :
    (fields : List (Field El)) → Values fields → List Value → Prop
  | [], _, vs => vs = []
  | f :: fs, (x, xs), [] => f.default? = some x ∧ AllItems spells fs xs []
  | f :: fs, (x, xs), v :: vs => spells f.type v x ∧ AllItems spells fs xs vs

/-- Items are read by place, none missing and none left over. -/
theorem readItems_eq_ok_iff {short : Nat → ReadError} {fields : List (Field El)} {xs : Values fields}
    {i : Nat} {vs : List Value} (hread : ∀ f ∈ fields, ∀ v x, read f.type v = .ok x ↔ spells f.type v x) :
    readItems read short fields i vs = .ok xs ∧ vs.length ≤ fields.length ↔ AllItems spells fields xs vs := by
  induction fields generalizing i vs with
  | nil =>
      rw [AllItems, List.length_nil, Nat.le_zero, List.length_eq_zero_iff]
      exact and_iff_right rfl
  | cons f fs ih =>
      obtain ⟨x, xs⟩ := xs
      rw [List.forall_mem_cons] at hread
      cases vs with
      | nil =>
          rw [AllItems, ← ih hread.2, readItems]
          cases f.default? with
          | none => exact ⟨fun h => (nomatch h.1), fun h => (nomatch h.1)⟩
          | some d =>
              constructor
              · rintro ⟨h, hlen⟩
                obtain ⟨ys, hys, h⟩ := bind_eq_ok_iff.mp h
                obtain ⟨rfl, rfl⟩ := Prod.mk.inj (Except.ok.inj h)
                exact ⟨rfl, hys, Nat.zero_le _⟩
              · rintro ⟨hd, hxs, hlen⟩
                obtain rfl := Option.some.inj hd
                exact ⟨bind_eq_ok_iff.mpr ⟨xs, hxs, rfl⟩, Nat.zero_le _⟩
      | cons v vs =>
          rw [AllItems, ← ih hread.2, readItems, List.length_cons, List.length_cons, Nat.succ_le_succ_iff,
            ← hread.1]
          constructor
          · rintro ⟨h, hlen⟩
            obtain ⟨y, hy, h⟩ := bind_eq_ok_iff.mp h
            obtain ⟨ys, hys, h⟩ := bind_eq_ok_iff.mp h
            obtain ⟨rfl, rfl⟩ := Prod.mk.inj (Except.ok.inj h)
            exact ⟨hy, hys, hlen⟩
          · rintro ⟨hx, hxs, hlen⟩
            exact ⟨bind_eq_ok_iff.mpr ⟨x, hx, bind_eq_ok_iff.mpr ⟨xs, hxs, rfl⟩⟩, hlen⟩

/-- **An array is read as a record when its items are the first fields** and no other field needs a value. -/
theorem readArray_eq_ok_iff_allItems {place : Place} {name : String} {fields : List (Field El)}
    {xs : Values fields} {vs : List Value}
    (hread : ∀ f ∈ fields, ∀ v x, read f.type v = .ok x ↔ spells f.type v x) :
    readArray read place name fields vs = .ok xs ↔ AllItems spells fields xs vs := by
  rw [← readItems_eq_ok_iff hread]
  unfold readArray
  rw [bind_eq_ok_iff]
  constructor
  · rintro ⟨ys, hys, h⟩
    split at h
    · cases h
    · rename_i hlen
      obtain rfl := Except.ok.inj h
      exact ⟨hys, Nat.le_of_not_lt hlen⟩
  · rintro ⟨hxs, hlen⟩
    exact ⟨xs, hxs, if_neg (Nat.not_lt.mpr hlen)⟩

end SyntaxShapes.Json
