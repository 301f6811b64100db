import SyntaxShapes.Proofs.Json.Grammar
import SyntaxShapes.Proofs.Json.Text

/-!
# `SyntaxShapes.Proofs.Json.KeyOrder` — what the order of keys decides

An object is read in the order of its keys, so two objects that differ in that order alone may be at fault in
different ways. They are not read as different records. What a key gives is found by look-up
(`Given.reordered`), and so is what all keys give; this goes through all layers of a value, as long as each
relation between JSON and what it spells has it (`IgnoresOrder`).

The order that does count for a record is that of its own keys (`readObject_congr`): where they stand among
others changes neither the record nor the fault.

## Contents
- **Other orders.** `Value.Reordered`, the same value with its keys in other orders; `Reordered.of_perm`.
- **Look-up.** `Reordered.exists_get?_eq_some`, `Members.get?_of_perm`.
- **Relations.** `IgnoresOrder`, for scalars, words and lists; `Given.reordered`, `AllGiven.reordered`.
- **Own keys.** `Members.only`, `readObject_congr`; `Members.SameOrder`, `Members.only_eq_of_perm`;
  `Members.only_insert`, `Members.get?_insert`.
-/

namespace SyntaxShapes.Json

/-! ## Other orders -/

/-- Whether two values are the same but for the orders in which keys stand in their objects, at any depth. -/
inductive Value.Reordered : Value → Value → Prop
  | null : Reordered .null .null
  | bool (b : Bool) : Reordered (.bool b) (.bool b)
  | number (n : Number) : Reordered (.number n) (.number n)
  | string (s : String) : Reordered (.string s) (.string s)
  | array {vs ws : List Value} (length : vs.length = ws.length)
      (items : ∀ (k : Nat) v w, vs[k]? = some v → ws[k]? = some w → Reordered v w) :
      Reordered (.array vs) (.array ws)
  | object {ms ns : Members} (keys : (ms.map (·.1)).Perm (ns.map (·.1)))
      (values : ∀ key v w, (key, v) ∈ ms → (key, w) ∈ ns → Reordered v w) :
      Reordered (.object ms) (.object ns)

namespace Value.Reordered

variable {v w : Value} {ms ns : Members}

theorem refl (hv : v.DistinctKeys) : v.Reordered v := by
  induction hv with
  | null => exact .null
  | bool b => exact .bool b
  | number n => exact .number n
  | string s => exact .string s
  | array _ ih =>
      refine .array rfl ?_
      intro k v w hv hw
      obtain rfl := Option.some.inj (hv.symm.trans hw)
      exact ih v (List.mem_of_getElem? hv)
  | object keys _ ih =>
      refine .object (.refl _) ?_
      intro key v w hv hw
      obtain rfl := Option.some.inj
        ((Members.get?_eq_some_of_mem keys hv).symm.trans (Members.get?_eq_some_of_mem keys hw))
      exact ih (key, v) hv

theorem symm (h : v.Reordered w) : w.Reordered v := by
  induction h with
  | null => exact .null
  | bool b => exact .bool b
  | number n => exact .number n
  | string s => exact .string s
  | array length _ ih => exact .array length.symm fun k v w hv hw => ih k w v hw hv
  | object keys _ ih => exact .object keys.symm fun key v w hv hw => ih key w v hw hv

/-- The members of an object in another order. -/
theorem of_perm (hms : (Value.object ms).DistinctKeys) (h : ms.Perm ns) :
    (Value.object ms).Reordered (.object ns) := by
  cases refl hms with
  | object _ values => exact .object (h.map _) fun key v w hv hw => values key v w hv (h.mem_iff.mpr hw)

/-- Reordering brings no key in twice. -/
theorem distinctKeys (h : v.Reordered w) (hv : v.DistinctKeys) : w.DistinctKeys := by
  induction h with
  | null | bool | number | string => exact hv
  | array length _ ih =>
      cases hv with
      | array hvs =>
          refine .array ?_
          intro w hw
          obtain ⟨k, hk⟩ := List.mem_iff_getElem?.mp hw
          have hlt := (List.getElem?_eq_some_iff.mp hk).1
          rw [← length] at hlt
          have hget := List.getElem?_eq_getElem hlt
          exact ih k _ w hget hk (hvs _ (List.mem_of_getElem? hget))
  | object keys _ ih =>
      cases hv with
      | object hkeys hms =>
          refine .object (keys.nodup_iff.mp hkeys) ?_
          rintro ⟨key, w⟩ hw
          obtain ⟨⟨_, v⟩, hv, rfl⟩ := List.mem_map.mp (keys.mem_iff.mpr (List.mem_map_of_mem hw))
          exact ih _ v w hv hw (hms _ hv)

/-! ## Look-up -/

/-- What is found under a key is found in a reordering, itself reordered. -/
theorem exists_get?_eq_some (h : (Value.object ms).Reordered (.object ns)) (hms : (ms.map (·.1)).Nodup)
    {key : String} (hget : ms.get? key = some v) : ∃ w, ns.get? key = some w ∧ v.Reordered w := by
  cases h with
  | object keys values =>
      have hv := Members.mem_of_get?_eq_some hget
      obtain ⟨⟨_, w⟩, hw, rfl⟩ := List.mem_map.mp (keys.mem_iff.mp (List.mem_map_of_mem hv))
      exact ⟨w, Members.get?_eq_some_of_mem (keys.nodup_iff.mp hms) hw, values _ v w hv hw⟩

theorem get?_eq_none (h : (Value.object ms).Reordered (.object ns)) (hms : (ms.map (·.1)).Nodup)
    {key : String} (hget : ms.get? key = none) : ns.get? key = none := by
  rw [Option.eq_none_iff_forall_ne_some]
  intro w hw
  cases h with
  | object keys values =>
      obtain ⟨v, hv, -⟩ := (object keys values).symm.exists_get?_eq_some (keys.nodup_iff.mp hms) hw
      rw [hget] at hv
      cases hv

end Value.Reordered

/-- With distinct keys, members in another order have the same values under the same keys. -/
theorem Members.get?_of_perm {ms ns : Members} (hms : (ms.map (·.1)).Nodup) (h : ms.Perm ns) (key : String) :
    ms.get? key = ns.get? key := by
  have hns : (ns.map (·.1)).Nodup := (h.map _).nodup_iff.mp hms
  refine Option.ext ?_
  intro v
  constructor
  · intro hv
    exact get?_eq_some_of_mem hns (h.mem_iff.mp (mem_of_get?_eq_some hv))
  · intro hv
    exact get?_eq_some_of_mem hms (h.mem_iff.mpr (mem_of_get?_eq_some hv))

/-! ## Relations -/

/-- Whether a value spells the same thing however its keys are ordered. -/
def IgnoresOrder {α : Type} (spells : Value → α → Prop) : Prop :=
  ∀ (v w : Value) (x : α), v.DistinctKeys → v.Reordered w → spells v x → spells w x

theorem ignoresOrder_spellsU16 : IgnoresOrder SpellsU16 := by
  rintro _ _ _ - h ⟨lower, upper⟩
  cases h
  exact .int lower upper

theorem ignoresOrder_spellsU32 : IgnoresOrder SpellsU32 := by
  rintro _ _ _ - h ⟨lower, upper⟩
  cases h
  exact .int lower upper

theorem ignoresOrder_spellsNumber? : IgnoresOrder SpellsNumber? := by
  rintro _ _ _ - h (_ | _ | _)
  · cases h
    exact .null
  · cases h
    exact .int _
  · cases h
    exact .float _

theorem ignoresOrder_spellsTruth : IgnoresOrder SpellsTruth := by
  rintro _ _ _ - h ⟨⟩
  cases h
  exact .bool _

theorem ignoresOrder_spellsText : IgnoresOrder SpellsText := by
  rintro _ _ _ - h ⟨⟩
  cases h
  exact .string _

/-- An object with one key has no other order, but what stands under the key might have. -/
theorem exists_eq_of_reordered_single {key : String} {v w : Value}
    (h : (Value.object [(key, v)]).Reordered w) : ∃ u, w = .object [(key, u)] ∧ v.Reordered u := by
  cases h with
  | object keys values =>
      obtain ⟨⟨_, u⟩, rfl, rfl⟩ := List.map_eq_singleton_iff.mp (List.perm_singleton.mp keys.symm)
      exact ⟨u, rfl, values _ v u (List.mem_singleton_self _) (List.mem_singleton_self _)⟩

/-- Whether a value spells a word does not depend on an order: its objects have one member at most. -/
theorem ignoresOrder_spellsWord {α : Type} [Named α] : IgnoresOrder (SpellsWord (α := α)) := by
  rintro _ _ _ - h (_ | _ | _)
  · cases h
    exact .name _
  · obtain ⟨u, rfl, hu⟩ := exists_eq_of_reordered_single h
    cases hu
    exact .null _
  · obtain ⟨u, rfl, hu⟩ := exists_eq_of_reordered_single h
    cases hu with
    | object keys =>
        obtain rfl := List.map_eq_nil_iff.mp (List.nil_perm.mp keys)
        exact .empty _

theorem ignoresOrder_spellsList {α : Type} {spells : Value → α → Prop} (hspells : IgnoresOrder spells) :
    IgnoresOrder (SpellsList spells) := by
  rintro _ _ xs hv h ⟨items⟩
  rename_i vs
  cases hv with
  | array hvs =>
      cases h with
      | array length hitems =>
          refine .array (List.forall₂_iff_get.mpr ⟨length.symm.trans items.length_eq, ?_⟩)
          intro k hw hx
          have hk : k < vs.length := length ▸ hw
          have hvw := hitems k _ _ (List.getElem?_eq_getElem hk) (List.getElem?_eq_getElem hw)
          exact hspells _ _ _ (hvs _ (List.getElem_mem hk)) hvw (items.get hk hx)

variable {ms ns : Members} {τ : Type} {El : τ → Type}

/-- **A key gives the same in every order of the keys.** -/
theorem Given.reordered {α : Type} {spells : Value → α → Prop} {default? : Option α} {key : String} {x : α}
    (hspells : IgnoresOrder spells) (hms : (Value.object ms).DistinctKeys)
    (h : (Value.object ms).Reordered (.object ns)) (hgiven : Given spells default? ms key x) :
    Given spells default? ns key x := by
  have hns := h.distinctKeys hms
  cases hms with
  | object hkeys hvalues =>
      cases hgiven with
      | present found spelled =>
          obtain ⟨w, hw, hvw⟩ := h.exists_get?_eq_some hkeys found
          have hspelled := hspells _ _ _ (hvalues _ (Members.mem_of_get?_eq_some found)) hvw spelled
          refine .present hw hspelled ?_
          intro u hu
          cases hns with
          | object hkeys' =>
              obtain rfl := Option.some.inj ((Members.get?_eq_some_of_mem hkeys' hu).symm.trans hw)
              exact ⟨x, hspelled⟩
      | absent missing default => exact .absent (h.get?_eq_none hkeys missing) default

/-- Fields that are all given stay so when members change places. -/
theorem AllGiven.reordered {spells : (t : τ) → Value → El t → Prop} (hspells : ∀ t, IgnoresOrder (spells t))
    (hms : (Value.object ms).DistinctKeys) (h : (Value.object ms).Reordered (.object ns))
    {fields : List (Field El)} {xs : Values fields} (hgiven : AllGiven spells fields xs ms) :
    AllGiven spells fields xs ns := by
  induction fields with
  | nil => trivial
  | cons f fs ih =>
      obtain ⟨x, xs⟩ := xs
      exact ⟨hgiven.1.reordered (hspells f.type) hms h, ih hgiven.2⟩

/-! ## Own keys -/

namespace Members

/-- The members that stand under some keys, in their order. -/
def only (keys : List String) (ms : Members) : Members := ms.filter fun m => m.1 ∈ keys

/-- Dropping other keys does not change what is found under a key. -/
theorem get?_only {keys : List String} {key : String} (h : key ∈ keys) (ms : Members) :
    (ms.only keys).get? key = ms.get? key := by
  induction ms with
  | nil => rfl
  | cons m ms ih =>
      obtain ⟨k, v⟩ := m
      unfold only get? at ih ⊢
      by_cases hk : k ∈ keys
      · rw [List.filter_cons_of_pos (by simpa using hk), List.lookup_cons, List.lookup_cons, ih]
      · have hne : (key == k) = false := beq_eq_false_iff_ne.mpr fun he => hk (he ▸ h)
        rw [List.filter_cons_of_neg (by simpa using hk), List.lookup_cons, hne, ih]

/-- One more member is not under the keys that are not its own. -/
theorem only_insert {keys : List String} {before after : Members} {key : String} (h : key ∉ keys) (v : Value) :
    (before ++ after).only keys = (before ++ (key, v) :: after).only keys := by
  unfold only
  rw [List.filter_append, List.filter_append, List.filter_cons_of_neg (by simpa using h)]

theorem get?_insert {before after : Members} {key other : String} (h : key ≠ other) (v : Value) :
    Members.get? other (before ++ after) = Members.get? other (before ++ (key, v) :: after) := by
  have hne : (other == key) = false := beq_eq_false_iff_ne.mpr h.symm
  unfold get?
  rw [List.lookup_append, List.lookup_append, List.lookup_cons, hne]

/-- Whether some keys stand in the same order in two objects, wherever that is among other keys. -/
def SameOrder (keys : List String) (ms ns : Members) : Prop :=
  (ms.map (·.1)).filter (· ∈ keys) = (ns.map (·.1)).filter (· ∈ keys)

instance (keys : List String) (ms ns : Members) : Decidable (SameOrder keys ms ns) :=
  inferInstanceAs (Decidable (_ = _))

theorem keys_only (keys : List String) (ms : Members) :
    (ms.only keys).map (·.1) = (ms.map (·.1)).filter (· ∈ keys) := by
  unfold only
  rw [List.filter_map]
  rfl

/-- With distinct keys, members in another order are the same members under keys in the same order. -/
theorem only_eq_of_perm (hms : (ms.map (·.1)).Nodup) (h : ms.Perm ns) {keys : List String}
    (horder : SameOrder keys ms ns) : ms.only keys = ns.only keys := by
  -- a member is known by its key
  have hrestore : ∀ ls : Members, ls ⊆ ms →
      (ls.map (·.1)).map (fun key => (key, (ms.get? key).getD .null)) = ls := by
    intro ls hls
    rw [List.map_map]
    refine (List.map_congr_left ?_).trans (List.map_id ls)
    intro m hm
    rw [Function.comp_apply, get?_eq_some_of_mem hms (hls hm)]
    rfl
  have hns : ns.only keys ⊆ ms := fun m hm => h.mem_iff.mpr (List.mem_of_mem_filter hm)
  rw [← hrestore (ms.only keys) (List.filter_subset_self ms), ← hrestore (ns.only keys) hns, keys_only, keys_only,
    horder]

end Members

variable {read : (t : τ) → Value → Except ReadError (El t)} {fields : List (Field El)}

/-- Checking what is there looks at the keys of the fields alone. -/
theorem checkPresent_only (ms : Members) :
    checkPresent read fields (ms.only (fields.map (·.key))) = checkPresent read fields ms := by
  unfold Members.only
  induction ms with
  | nil => rfl
  | cons m ms ih =>
      obtain ⟨k, v⟩ := m
      by_cases hk : k ∈ fields.map (·.key)
      · rw [List.filter_cons_of_pos (by simpa using hk), checkPresent, checkPresent, ih]
      · have hnone : fields.find? (fun f => f.key == k) = none := by
          rw [List.find?_eq_none]
          intro f hf hkey
          exact hk (List.mem_map.mpr ⟨f, hf, beq_iff_eq.mp hkey⟩)
        rw [List.filter_cons_of_neg (by simpa using hk), checkPresent, hnone, ih]

theorem fill_only {keys : List String} (hfields : ∀ f ∈ fields, f.key ∈ keys) (ms : Members) :
    fill read fields (ms.only keys) = fill read fields ms := by
  induction fields with
  | nil => rfl
  | cons f fs ih =>
      rw [List.forall_mem_cons] at hfields
      rw [fill, fill, Members.get?_only hfields.1, ih hfields.2]

/-- **What is read as a record, and what fault is found, depends on the members under its keys alone.** -/
theorem readObject_congr (h : ms.only (fields.map (·.key)) = ns.only (fields.map (·.key))) :
    readObject read fields ms = readObject read fields ns := by
  have honly : ∀ ls : Members,
      readObject read fields (ls.only (fields.map (·.key))) = readObject read fields ls := by
    intro ls
    unfold readObject
    rw [checkPresent_only, fill_only fun f hf => List.mem_map_of_mem hf]
  rw [← honly ms, h, honly]

end SyntaxShapes.Json
