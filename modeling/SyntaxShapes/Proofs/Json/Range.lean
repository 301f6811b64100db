import SyntaxShapes.Json.Reader
import SyntaxShapes.Proofs.Decimal.Rounding
import SyntaxShapes.Proofs.Json.Text

/-!
# `SyntaxShapes.Proofs.Json.Range` — the numbers that JSON text gives

A `Number` can be any integer and any bit pattern, but JSON text only gives integers of sixty-four bits,
signed or not, and real floating-point numbers. A value is `InRange` when all numbers in it, at any depth,
are of that sort.

The reader of text makes values of numbers that it reads from numerals, and these are in range; so a whole
text gives a value in range (`inRange_of_parse?`).

## Contents
- **Range.** `Number.InRange`, `Value.InRange`; `isFinite_of_readFloat?`, what is read from them.
- **Numbers of text.** `inRange_of_intOfNumeral?`, `isFinite_of_scaleByTen?`, `Number.inRange_of_ofNumeral?`.
- **Text.** `inRange_of_parse?`.
-/

namespace SyntaxShapes.Json

/-! ## Range -/

/-- Whether a number is one that JSON text can give. -/
def Number.InRange : Number → Prop
  | .int i => -2 ^ 63 ≤ i ∧ i < 2 ^ 64
  | .float x => x.isFinite = true

/-- Whether all numbers in a value are ones that JSON text can give. -/
inductive Value.InRange : Value → Prop
  | null : InRange .null
  | bool (b : Bool) : InRange (.bool b)
  | number {n : Number} (h : n.InRange) : InRange (.number n)
  | string (s : String) : InRange (.string s)
  | array {vs : List Value} (h : ∀ v ∈ vs, InRange v) : InRange (.array vs)
  | object {ms : Members} (h : ∀ m ∈ ms, InRange m.2) : InRange (.object ms)

theorem Value.inRange_nat {n : Nat} (h : n < 2 ^ 64) : (Value.nat n).InRange :=
  .number ⟨by omega, by omega⟩

/-- A number that is read from a value in range is real. -/
theorem isFinite_of_readFloat? {v : Value} (hv : v.InRange) {x : Binary64}
    (h : readFloat? v = .ok (some x)) : x.isFinite = true := by
  cases hv with
  | null => exact absurd h (by simp [readFloat?])
  | @number n hn =>
      cases n with
      | int i =>
          obtain ⟨hlo, hhi⟩ := hn
          obtain rfl : Binary64.ofInt i = x := Option.some.inj (Except.ok.inj h)
          exact Binary64.isFinite_ofInt (by omega)
      | float y =>
          obtain rfl : y = x := Option.some.inj (Except.ok.inj h)
          exact hn
  | bool _ | string _ | array _ | object _ => exact absurd h (by simp [readFloat?])

/-! ## Numbers of text -/

/-- An integer that is read fits sixty-four bits, with or without a sign. -/
theorem inRange_of_intOfNumeral? {n : Numeral} {i : Int} (h : intOfNumeral? n = some i) :
    -2 ^ 63 ≤ i ∧ i < 2 ^ 64 := by
  unfold intOfNumeral? maxWord at h
  dsimp only at h
  split at h
  · cases h
  · split at h
    · split at h
      · obtain rfl := Option.some.inj h
        omega
      · cases h
    · split at h
      · obtain rfl := Option.some.inj h
        omega
      · cases h

/-- A coefficient extended by digits still fits sixty-four bits. -/
theorem absorb_le {c : Nat} (hc : c ≤ maxWord) (ds : List Char) : (absorb c ds).1 ≤ maxWord := by
  induction ds generalizing c with
  | nil => exact hc
  | cons d ds ih =>
      unfold absorb
      dsimp only
      split
      · exact hc
      · exact ih (by omega)

/-- Scaling a number of sixty-four bits gives a real number, if it gives any. -/
theorem isFinite_of_scaleByTen? {x y : Binary64} {e : Int}
    (hx : x.magnitudeBits ≤ (1023 + 64) * 2 ^ 52) (h : scaleByTen? x e = some y) : y.isFinite = true := by
  have hfinite : ∀ z : Binary64, z.magnitudeBits ≤ (1023 + 64) * 2 ^ 52 → z.isFinite = true := by
    intro z hz
    rw [Binary64.isFinite_iff]
    unfold Binary64.infinityBits
    omega
  have hdiv : ∀ (z : Binary64) (k : Nat), z.magnitudeBits ≤ (1023 + 64) * 2 ^ 52 →
      (z.div (.powTen k)).magnitudeBits ≤ (1023 + 64) * 2 ^ 52 := fun z k hz =>
    Binary64.magnitudeBits_div_le (by decide) hz (Binary64.le_magnitudeBits_powTen k)
  -- a division stays below sixty-four bits, and a product is checked
  induction x, e using scaleByTen?.induct with
  | case1 x e he hpos z hz =>
      rw [scaleByTen?, if_pos he, if_pos hpos, if_pos hz] at h
      obtain rfl := Option.some.inj h
      exact hz
  | case2 x e he hpos z hz =>
      rw [scaleByTen?, if_pos he, if_pos hpos, if_neg hz] at h
      cases h
  | case3 x e he hneg =>
      rw [scaleByTen?, if_pos he, if_neg hneg] at h
      obtain rfl := Option.some.inj h
      exact hfinite _ (hdiv x _ hx)
  | case4 x e he hzero =>
      rw [scaleByTen?, if_neg he, if_pos hzero] at h
      obtain rfl := Option.some.inj h
      exact hfinite x hx
  | case5 x e he hzero hpos =>
      rw [scaleByTen?, if_neg he, if_neg hzero, dif_pos hpos] at h
      cases h
  | case6 x e he hzero hneg ih =>
      rw [scaleByTen?, if_neg he, if_neg hzero, dif_neg hneg] at h
      exact ih (hdiv x 308 hx) h

/-- A floating-point number that is read is real; larger ones are refused. -/
theorem isFinite_of_floatOfNumeral? {n : Numeral} {x : Binary64} (h : floatOfNumeral? n = some x) :
    x.isFinite = true := by
  unfold floatOfNumeral? at h
  obtain ⟨y, hy, rfl⟩ := Option.map_eq_some_iff.mp h
  have hword : (absorb (absorb 0 n.whole).1 n.fraction).1 ≤ maxWord :=
    absorb_le (absorb_le (Nat.zero_le _) _) _
  have hreal : y.isFinite = true := by
    refine isFinite_of_scaleByTen? (Binary64.magnitudeBits_ofRatio_le _ Nat.one_ne_zero (by decide) ?_) hy
    unfold maxWord at hword
    omega
  split
  · rw [Binary64.isFinite_neg, hreal]
  · exact hreal

theorem Number.inRange_of_ofNumeral? {n : Numeral} {x : Number} (h : Number.ofNumeral? n = some x) :
    x.InRange := by
  unfold Number.ofNumeral? at h
  split at h
  · rename_i hi
    obtain rfl := Option.some.inj h
    exact inRange_of_intOfNumeral? hi
  · obtain ⟨y, hy, rfl⟩ := Option.map_eq_some_iff.mp h
    exact isFinite_of_floatOfNumeral? hy

/-! ## Text -/

/-- **Text gives only values in range.** -/
theorem inRange_of_parse? {text : String} {v : Value} (h : parse? text = some v) : v.InRange := by
  have hkept : KeptByText Value.InRange fun ms => ∀ m ∈ ms, m.2.InRange :=
    { null := .null
      bool := .bool
      number := fun hx => .number (Number.inRange_of_ofNumeral? hx)
      string := .string
      array := .array
      object := .object
      nil := nofun
      put := Members.forall_put }
  exact hkept.of_parse? h

end SyntaxShapes.Json
