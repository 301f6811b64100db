import SyntaxShapes.Decimal.Numeral
import SyntaxShapes.Proofs.Decimal.Rounding

/-!
# `SyntaxShapes.Proofs.Decimal.Overflow` — which texts stand for real numbers

The largest real number is one unit short of `2 ^ 1024`. What lies below the middle of the two is rounded
down to it; the middle itself and all above become an infinity, since the significand of the largest
number is odd. So a fraction is rounded to a real number exactly when it is below `overflowBound`
(`isFinite_ofRatio_iff`). The text of a literal has a real value exactly when it is none of the words for
an infinity or a NaN, and is below that bound where it is a numeral (`isReal_iff`).

## Contents
- **Fractions.** `roundDiv_lt_iff`, `overflowBound`, `isFinite_ofRatio_iff`.
- **Numerals.** `isFinite_nearestScaled_iff`, `Numeral.isFinite_nearest_iff`.
- **Literal text.** `Numeral.IsReal`, `Numeral.isReal_iff`.
-/

namespace SyntaxShapes

namespace Binary64

/-! ## Fractions -/

/-- An infinity is no real number. -/
theorem isFinite_infinity (s : Bool) : ¬(infinity s).isFinite = true := by
  rw [isFinite_iff, infinity, magnitudeBits_ofSignMagnitude s (by decide)]
  exact Nat.lt_irrefl _

/-- Nor is a NaN, with either sign. -/
theorem isFinite_nan (s : Bool) : ¬(nan s).isFinite = true := by
  cases s
  all_goals decide

/-- A quotient is rounded to less than an even number exactly when it is below the middle between that
    number and the one before: the middle is rounded up. -/
theorem roundDiv_lt_iff {n d q : Nat} (hd : 0 < d) (hq : q % 2 = 0) (hpos : 0 < q) :
    roundDiv n d < q ↔ 2 * n < d * (2 * q - 1) := by
  have hn : d * (n / d) + n % d = n := Nat.div_add_mod n d
  have hr : n % d < d := Nat.mod_lt n hd
  unfold roundDiv
  dsimp only
  generalize n / d = f at hn ⊢
  generalize n % d = r at hn hr ⊢
  -- the number before is odd, so the middle above it goes up
  obtain ⟨p, rfl⟩ : ∃ p, q = p + 1 := ⟨q - 1, by omega⟩
  have hmid : d * (2 * (p + 1) - 1) = 2 * (d * p) + d := by
    rw [show 2 * (p + 1) - 1 = 2 * p + 1 by omega, Nat.mul_succ, Nat.mul_left_comm]
  rw [hmid]
  rcases Nat.lt_trichotomy f p with hlt | rfl | hgt
  · -- the quotient is below the number before
    have hle : d * (f + 1) ≤ d * p := Nat.mul_le_mul_left d hlt
    rw [Nat.mul_succ] at hle
    refine iff_of_true ?_ (by omega)
    split
    · omega
    · split
      · omega
      · split <;> omega
  · split
    · omega
    · split
      · omega
      · rw [if_neg (by omega)]
        omega
  · -- the quotient is not below the number itself
    have hle : d * (p + 1) ≤ d * f := Nat.mul_le_mul_left d hgt
    rw [Nat.mul_succ] at hle
    refine iff_of_false ?_ (by omega)
    split
    · omega
    · split
      · omega
      · split <;> omega

/-- The middle between `2 ^ (k + 54)` and the number of fifty-three bits before it. -/
def middle (k : Nat) : Nat := (2 ^ 54 - 1) * 2 ^ k

theorem two_pow_le_middle (k : Nat) : 2 ^ (k + 53) ≤ middle k := by
  unfold middle
  rw [Nat.pow_add, Nat.mul_comm]
  exact Nat.mul_le_mul_right _ (by decide)

theorem middle_le_two_pow (k : Nat) : middle k ≤ 2 ^ (k + 54) := by
  unfold middle
  rw [Nat.pow_add, Nat.mul_comm (2 ^ k)]
  exact Nat.mul_le_mul_right _ (by decide)

/-- Below the middle, and only there, a fraction is rounded to less than the carry out of fifty-three
    bits. -/
theorem roundDiv_lt_two_pow_iff {n d : Nat} (hd : 0 < d) (k : Nat) :
    roundDiv n (d * 2 ^ (k + 1)) < 2 ^ 53 ↔ n < d * middle k := by
  have hconst : 2 * 2 ^ 53 - 1 = 2 ^ 54 - 1 := rfl
  have hmiddle : d * 2 ^ (k + 1) * (2 * 2 ^ 53 - 1) = 2 * (d * middle k) := by
    unfold middle
    rw [hconst]
    generalize 2 ^ 54 - 1 = u
    rw [Nat.pow_succ]
    ac_rfl
  have hround := roundDiv_lt_iff (n := n) (q := 2 ^ 53) (Nat.mul_pos hd (Nat.two_pow_pos (k + 1))) (by decide)
    (by decide)
  rw [hround, hmiddle]
  exact Nat.mul_lt_mul_left (by decide)

/-- The middle between the largest real number and the power of two after it, `2 ^ 1024 - 2 ^ 970`. -/
def overflowBound : Nat := middle 970

theorem overflowBound_pos : 0 < overflowBound :=
  Nat.lt_of_lt_of_le (Nat.two_pow_pos _) (two_pow_le_middle 970)

/-- **A fraction is rounded to a real number exactly when it is below the bound.** -/
theorem isFinite_ofRatio_iff (s : Bool) {n d : Nat} (hd : d ≠ 0) :
    (ofRatio s n d).isFinite = true ↔ n < d * overflowBound := by
  have hd' : 0 < d := Nat.pos_of_ne_zero hd
  rw [isFinite_iff]
  unfold ofRatio
  by_cases hn : n = 0
  · rw [if_pos hn, zero, magnitudeBits_ofSignMagnitude s (by decide)]
    refine iff_of_true (by decide) ?_
    rw [hn]
    exact Nat.mul_pos hd' overflowBound_pos
  · rw [if_neg hn]
    dsimp only
    rw [magnitudeBits_ofSignMagnitude s (Nat.lt_of_le_of_lt (Nat.min_le_left _ _) (by decide))]
    have hlow := log2Ratio_le hn hd
    have hhigh := lt_log2Ratio hn hd
    rcases Int.lt_trichotomy (log2Ratio n d) 1023 with hlt | heq | hgt
    · -- below the last binade, even the carry stays below the infinity
      have hn' := mul_two_pow_lt (a := 0) (b := 970 + 53) hhigh (by omega)
      refine iff_of_true ?_ ?_
      · have hm := roundDiv_scaled_le hn hd (Int.le_max_right (-1074) (log2Ratio n d - 52))
        unfold infinityBits
        omega
      · rw [Nat.pow_zero, Nat.mul_one] at hn'
        exact Nat.lt_of_lt_of_le hn' (Nat.mul_le_mul_left d (two_pow_le_middle 970))
    · -- in the last binade, the significand decides
      have hscale : max (-1074) (log2Ratio n d - 52) = ((970 + 1 : Nat) : Int) := by omega
      rw [hscale, Int.toNat_natCast, show (-((970 + 1 : Nat) : Int)).toNat = 0 by omega, Nat.pow_zero,
        Nat.mul_one]
      have hround := roundDiv_lt_two_pow_iff (n := n) hd' 970
      generalize roundDiv n (d * 2 ^ (970 + 1)) = m at hround ⊢
      unfold infinityBits
      rw [overflowBound, ← hround]
      omega
    · -- past it, the exponent alone is that of the infinity
      have hn' := mul_two_pow_le (a := 0) (b := 970 + 54) hlow (by omega)
      refine iff_of_false ?_ ?_
      · have hm : 2 ^ 52 ≤ roundDiv (n * 2 ^ (-(max (-1074) (log2Ratio n d - 52))).toNat)
            (d * 2 ^ (max (-1074) (log2Ratio n d - 52)).toNat) := by
          refine le_roundDiv (Nat.mul_pos hd' (Nat.two_pow_pos _)) ?_
          rw [Nat.mul_assoc, ← Nat.pow_add]
          exact mul_two_pow_le hlow (by omega)
        unfold infinityBits
        omega
      · rw [Nat.pow_zero, Nat.mul_one] at hn'
        exact Nat.not_lt.mpr (Nat.le_trans (Nat.mul_le_mul_left d (middle_le_two_pow 970)) hn')

end Binary64

namespace Numeral

open Binary64 (overflowBound)

/-! ## Numerals -/

/-- The bound is no more than the three hundred and tenth power of ten. -/
theorem overflowBound_le_ten_pow {k : Nat} (hk : 310 ≤ k) : overflowBound ≤ 10 ^ k := by
  have hpow := Nat.pow_le_pow_right (show 0 < 10 by decide) hk
  calc overflowBound
      ≤ 2 ^ (970 + 54) := Binary64.middle_le_two_pow 970
    _ ≤ 10 ^ 310 := by decide +kernel
    _ ≤ 10 ^ k := hpow

/-- A number with more than three hundred and ten digits before the point is beyond the bound. -/
theorem mul_overflowBound_le {c j : Nat} {e : Int} (hc : 10 ^ (j - 1) ≤ c) (hj : 310 < (j : Int) + e) :
    10 ^ (-e).toNat * overflowBound ≤ c * 10 ^ e.toNat := by
  obtain ⟨k, hk⟩ : ∃ k, j - 1 + e.toNat = (-e).toNat + k := ⟨j - 1 + e.toNat - (-e).toNat, by omega⟩
  calc 10 ^ (-e).toNat * overflowBound
      ≤ 10 ^ (-e).toNat * 10 ^ k := Nat.mul_le_mul_left _ (overflowBound_le_ten_pow (by omega))
    _ = 10 ^ (j - 1) * 10 ^ e.toNat := by rw [← Nat.pow_add, ← hk, Nat.pow_add]
    _ ≤ c * 10 ^ e.toNat := Nat.mul_le_mul_right _ hc

/-- A number with zeros alone before the point is below it. -/
theorem lt_mul_overflowBound {c j : Nat} {e : Int} (hc : c < 10 ^ j) (hj : (j : Int) + e < 0) :
    c * 10 ^ e.toNat < 10 ^ (-e).toNat * overflowBound := by
  rw [show e.toNat = 0 by omega, Nat.pow_zero, Nat.mul_one]
  calc c
      < 10 ^ j := hc
    _ ≤ 10 ^ (-e).toNat := Nat.pow_le_pow_right (by decide) (by omega)
    _ ≤ 10 ^ (-e).toNat * overflowBound := Nat.le_mul_of_pos_right _ Binary64.overflowBound_pos

/-- A number is at least the power of ten that its digits say. -/
theorem ten_pow_le {c : Nat} (hc : c ≠ 0) : 10 ^ ((Nat.toDigits 10 c).length - 1) ≤ c := by
  have hlength : 0 < (Nat.toDigits 10 c).length := Nat.length_toDigits_pos
  by_cases hone : (Nat.toDigits 10 c).length = 1
  · rw [hone]
    exact Nat.pos_of_ne_zero hc
  · refine Nat.not_lt.mp fun hlt => ?_
    have hle := (Nat.length_toDigits_le_iff (by decide) (by omega)).mpr hlt
    omega

/-- **The number nearest to `± c · 10 ^ e` is real exactly when `c · 10 ^ e` is below the bound**; the two
    short cuts do not change that. -/
theorem isFinite_nearestScaled_iff (s : Bool) (c : Nat) (e : Int) :
    (nearestScaled s c e).isFinite = true ↔ c * 10 ^ e.toNat < 10 ^ (-e).toNat * overflowBound := by
  have hten : ∀ k, 0 < 10 ^ k := fun k => Nat.pow_pos (by decide)
  unfold nearestScaled
  dsimp only
  by_cases hc : c = 0
  · rw [if_pos hc, Binary64.isFinite_iff, Binary64.zero, Binary64.magnitudeBits_ofSignMagnitude s (by decide), hc,
      Nat.zero_mul]
    exact iff_of_true (by decide) (Nat.mul_pos (hten _) Binary64.overflowBound_pos)
  · rw [if_neg hc]
    -- the two short cuts first, then the rounding
    split
    · rename_i hmany
      exact iff_of_false (Binary64.isFinite_infinity s) (Nat.not_lt.mpr (mul_overflowBound_le (ten_pow_le hc) hmany))
    · split
      · rename_i hfew
        have hlt := (Nat.length_toDigits_le_iff (by decide) Nat.length_toDigits_pos).mp (Nat.le_refl
          (Nat.toDigits 10 c).length)
        rw [Binary64.isFinite_iff, Binary64.zero, Binary64.magnitudeBits_ofSignMagnitude s (by decide)]
        exact iff_of_true (by decide) (lt_mul_overflowBound hlt (by omega))
      · exact Binary64.isFinite_ofRatio_iff s (Nat.ne_of_gt (hten _))

/-- Whether the absolute value of a numeral is below the bound. -/
def IsBounded (n : Numeral) : Prop :=
  n.coefficient * 10 ^ n.decimalExponent.toNat < 10 ^ (-n.decimalExponent).toNat * overflowBound

/-- A numeral is rounded to a real number exactly when it is below the bound. -/
theorem isFinite_nearest_iff (n : Numeral) : n.nearest.isFinite = true ↔ n.IsBounded :=
  isFinite_nearestScaled_iff _ _ _

/-! ## Literal text -/

/-- The text of a literal without its sign, in small letters. -/
def unsignedWord (text : String) : String := String.ofList ((scanSign text.toList).2.map Char.toLower)

/-- Whether a text stands for a real number, or for no number at all: it is no word for an infinity or a
    NaN, and below the bound where it is a numeral. -/
def IsReal (text : String) : Prop :=
  unsignedWord text ∉ ["inf", "infinity", "nan"] ∧
    ∀ n, ofUnsignedText? ((scanSign text.toList).1 < 0) (scanSign text.toList).2 = some n → n.IsBounded

/-- **The value of a literal is absent or real exactly when its text says so.** -/
theorem isReal_iff {text : String} : (∀ x ∈ ofLiteralText? text, x.isFinite = true) ↔ IsReal text := by
  have hword : unsignedWord text = String.ofList ((scanSign text.toList).2.map Char.toLower) := rfl
  unfold ofLiteralText? IsReal
  dsimp only
  rw [← hword]
  generalize unsignedWord text = word
  generalize ofUnsignedText? _ _ = numeral?
  split
  · rename_i hinf
    refine iff_of_false (fun h => ?_) (fun h => h.1 ?_)
    · exact Binary64.isFinite_infinity _ (h _ rfl)
    · rcases hinf with rfl | rfl
      · decide
      · decide
  · rename_i hinf
    split
    · rename_i hnan
      refine iff_of_false (fun h => ?_) (fun h => h.1 ?_)
      · exact Binary64.isFinite_nan _ (h _ rfl)
      · rw [hnan]
        decide
    · rename_i hnan
      have hnone : word ∉ ["inf", "infinity", "nan"] := by
        simp only [List.mem_cons, List.not_mem_nil, or_false, ← or_assoc]
        exact not_or.mpr ⟨hinf, hnan⟩
      constructor
      · intro h
        refine ⟨hnone, fun n hn => (isFinite_nearest_iff n).mp (h _ ?_)⟩
        rw [hn]
        rfl
      · rintro ⟨-, h⟩ x hx
        obtain ⟨n, hn, rfl⟩ := Option.map_eq_some_iff.mp hx
        exact (isFinite_nearest_iff n).mpr (h n hn)

end Numeral

end SyntaxShapes
