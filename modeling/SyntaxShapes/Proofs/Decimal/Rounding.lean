import SyntaxShapes.Decimal.Binary64

/-!
# `SyntaxShapes.Proofs.Decimal.Rounding` — how far rounding can go

`ofRatio` rounds an exact fraction to the nearest pattern. Here its parts are bounded: the exponent that
`log2Ratio` finds brackets the fraction, the significand that `roundDiv` gives never exceeds fifty-three
bits by more than the carry, and so a fraction up to a power of two is rounded to at most the pattern of
that power (`magnitudeBits_ofRatio_le`). In particular every integer of sixty-four bits is rounded to a
real number (`isFinite_ofInt`).

All bounds are on natural numbers. A comparison of `n / d` with `2 ^ k` for an integer `k` is written as
`n * 2 ^ (-k).toNat` against `d * 2 ^ k.toNat`; one of the two powers is always one.

## Contents
- **Patterns.** `magnitudeBits`, the pattern without its sign; when it is finite.
- **Parts.** `log2Ratio_le`, `lt_log2Ratio`, `roundDiv_le`, `le_roundDiv`.
- **Bound.** `magnitudeBits_ofRatio_le`, `isFinite_ofRatio`, `isFinite_ofInt`.
- **Quotients.** `le_magnitudeBits_ofRatio`, `magnitude_le`, `le_magnitude`; from them
  `magnitudeBits_div_le`.
-/

namespace SyntaxShapes.Binary64

/-! ## Patterns -/

/-- The bits of a pattern less its sign. -/
def magnitudeBits (x : Binary64) : Nat := x.bits.toNat % 2 ^ 63

/-- A pattern has the magnitude that it is made of. -/
theorem magnitudeBits_ofSignMagnitude (s : Bool) {m : Nat} (h : m < 2 ^ 63) :
    (ofSignMagnitude s m).magnitudeBits = m := by
  cases s <;> simp [ofSignMagnitude, magnitudeBits] <;> omega

theorem exponentField_eq (x : Binary64) : x.exponentField = x.magnitudeBits / 2 ^ 52 := by
  have h : x.bits.toNat < 2 ^ 64 := x.bits.toNat_lt
  unfold exponentField magnitudeBits
  omega

/-- A pattern is finite exactly when its magnitude is below that of an infinity. -/
theorem isFinite_iff {x : Binary64} : x.isFinite = true ↔ x.magnitudeBits < infinityBits := by
  have h : x.bits.toNat < 2 ^ 64 := x.bits.toNat_lt
  unfold isFinite infinityBits
  rw [bne_iff_ne, exponentField_eq]
  unfold magnitudeBits
  omega

/-! ## Parts -/

/-- A strict bound on a fraction, scaled by powers of two that make it no tighter. -/
theorem mul_two_pow_lt {n d p q a b : Nat} (h : n * 2 ^ p < d * 2 ^ q) (hle : q + a ≤ p + b) :
    n * 2 ^ a < d * 2 ^ b := by
  have hp : 0 < 2 ^ p := Nat.two_pow_pos p
  refine Nat.lt_of_mul_lt_mul_right (a := 2 ^ p) ?_
  calc n * 2 ^ a * 2 ^ p
      = n * 2 ^ p * 2 ^ a := Nat.mul_right_comm _ _ _
    _ < d * 2 ^ q * 2 ^ a := Nat.mul_lt_mul_of_pos_right h (Nat.two_pow_pos a)
    _ = d * 2 ^ (q + a) := by rw [Nat.mul_assoc, ← Nat.pow_add]
    _ ≤ d * 2 ^ (p + b) := Nat.mul_le_mul_left d (Nat.pow_le_pow_right (by decide) hle)
    _ = d * 2 ^ b * 2 ^ p := by rw [Nat.mul_assoc, ← Nat.pow_add, Nat.add_comm b p]

theorem mul_two_pow_le {n d p q a b : Nat} (h : d * 2 ^ q ≤ n * 2 ^ p) (hle : p + b ≤ q + a) :
    d * 2 ^ b ≤ n * 2 ^ a :=
  Nat.not_lt.mp fun hlt => Nat.not_lt.mpr h (mul_two_pow_lt hlt (by omega))

/-- The bracket of a fraction by its logarithms, one bit too wide. -/
theorem log2_bracket {n d : Nat} (hn : n ≠ 0) (hd : d ≠ 0) :
    d * 2 ^ n.log2 < n * 2 ^ (d.log2 + 1) ∧ n * 2 ^ d.log2 < d * 2 ^ (n.log2 + 1) := by
  have hn1 : 2 ^ n.log2 ≤ n := Nat.log2_self_le hn
  have hn2 : n < 2 ^ (n.log2 + 1) := Nat.lt_log2_self
  have hd1 : 2 ^ d.log2 ≤ d := Nat.log2_self_le hd
  have hd2 : d < 2 ^ (d.log2 + 1) := Nat.lt_log2_self
  constructor
  · calc d * 2 ^ n.log2
        < 2 ^ (d.log2 + 1) * 2 ^ n.log2 := Nat.mul_lt_mul_of_pos_right hd2 (Nat.two_pow_pos _)
      _ ≤ 2 ^ (d.log2 + 1) * n := Nat.mul_le_mul_left _ hn1
      _ = n * 2 ^ (d.log2 + 1) := Nat.mul_comm _ _
  · calc n * 2 ^ d.log2
        < 2 ^ (n.log2 + 1) * 2 ^ d.log2 := Nat.mul_lt_mul_of_pos_right hn2 (Nat.two_pow_pos _)
      _ ≤ 2 ^ (n.log2 + 1) * d := Nat.mul_le_mul_left _ hd1
      _ = d * 2 ^ (n.log2 + 1) := Nat.mul_comm _ _

/-- The power of two that `log2Ratio` names is not above the fraction. -/
theorem log2Ratio_le {n d : Nat} (hn : n ≠ 0) (hd : d ≠ 0) :
    d * 2 ^ (log2Ratio n d).toNat ≤ n * 2 ^ (-log2Ratio n d).toNat := by
  unfold log2Ratio
  dsimp only
  split
  · assumption
  · refine Nat.le_of_lt (mul_two_pow_lt (log2_bracket hn hd).1 ?_)
    omega

/-- Twice the power of two that `log2Ratio` names is above the fraction. -/
theorem lt_log2Ratio {n d : Nat} (hn : n ≠ 0) (hd : d ≠ 0) :
    n * 2 ^ (-(log2Ratio n d + 1)).toNat < d * 2 ^ (log2Ratio n d + 1).toNat := by
  unfold log2Ratio
  dsimp only
  split
  · refine mul_two_pow_lt (log2_bracket hn hd).2 ?_
    omega
  · rename_i h
    rw [Nat.not_le] at h
    refine mul_two_pow_lt h ?_
    omega

/-- Rounding goes no further up than to the next whole number. -/
theorem roundDiv_le {n d q : Nat} (h : n < d * q) : roundDiv n d ≤ q := by
  have hq : n / d < q := Nat.div_lt_of_lt_mul h
  unfold roundDiv
  dsimp only
  split
  · omega
  · split
    · omega
    · split <;> omega

/-- Rounding goes no further down than to the whole part. -/
theorem le_roundDiv {n d q : Nat} (hd : 0 < d) (h : d * q ≤ n) : q ≤ roundDiv n d := by
  have hq : q ≤ n / d := (Nat.le_div_iff_mul_le hd).mpr (by rwa [Nat.mul_comm])
  unfold roundDiv
  dsimp only
  split
  · omega
  · split
    · omega
    · split <;> omega

theorem roundDiv_mul {d q : Nat} (hd : 0 < d) : roundDiv (d * q) d = q := by
  unfold roundDiv
  rw [Nat.mul_div_cancel_left q hd, Nat.mul_mod_right]
  simp [hd]

/-! ## Bound -/

/-- A fraction below the first power of two that `log2Ratio` does not reach is rounded to a significand
    of fifty-three bits, or to the carry out of them. -/
theorem roundDiv_scaled_le {n d : Nat} (hn : n ≠ 0) (hd : d ≠ 0) {e : Int}
    (he : log2Ratio n d - 52 ≤ e) :
    roundDiv (n * 2 ^ (-e).toNat) (d * 2 ^ e.toNat) ≤ 2 ^ 53 := by
  have h := mul_two_pow_lt (a := (-e).toNat) (b := e.toNat + 53) (lt_log2Ratio hn hd) (by omega)
  refine roundDiv_le ?_
  rw [Nat.mul_assoc, ← Nat.pow_add]
  exact h

/-- The logarithm of a fraction is at most that of any power of two above it. -/
theorem log2Ratio_le_of_le {n d k : Nat} (hn : n ≠ 0) (hd : d ≠ 0) (h : n ≤ d * 2 ^ k) :
    log2Ratio n d ≤ k := by
  refine Int.not_lt.mp fun hlt => ?_
  have hd' : 0 < d := Nat.pos_of_ne_zero hd
  have hlow := log2Ratio_le hn hd
  rw [show (-log2Ratio n d).toNat = 0 by omega, Nat.pow_zero, Nat.mul_one] at hlow
  have hpow : 2 ^ (k + 1) ≤ 2 ^ (log2Ratio n d).toNat := Nat.pow_le_pow_right (by decide) (by omega)
  have hmul : d * 2 ^ (k + 1) ≤ d * 2 ^ k :=
    calc d * 2 ^ (k + 1)
        ≤ d * 2 ^ (log2Ratio n d).toNat := Nat.mul_le_mul_left d hpow
      _ ≤ n := hlow
      _ ≤ d * 2 ^ k := h
  have hlt : 2 ^ k < 2 ^ (k + 1) := Nat.pow_lt_pow_right (by decide) (Nat.lt_succ_self k)
  exact absurd hmul (Nat.not_le.mpr (Nat.mul_lt_mul_of_pos_left hlt hd'))

/-- When the logarithm is that of a power of two above the fraction, the fraction is that power. -/
theorem eq_of_log2Ratio_eq {n d k : Nat} (hn : n ≠ 0) (hd : d ≠ 0) (h : n ≤ d * 2 ^ k)
    (hk : log2Ratio n d = k) : n = d * 2 ^ k := by
  have hlow := log2Ratio_le hn hd
  rw [hk, show (-(k : Int)).toNat = 0 by omega, Int.toNat_natCast, Nat.pow_zero, Nat.mul_one] at hlow
  exact Nat.le_antisymm h hlow

/-- **Rounding does not pass a power of two.** A fraction that is at most `2 ^ k` becomes at most the
    pattern of `2 ^ k`. -/
theorem magnitudeBits_ofRatio_le (s : Bool) {n d k : Nat} (hd : d ≠ 0) (hk : k ≤ 1023)
    (h : n ≤ d * 2 ^ k) : (ofRatio s n d).magnitudeBits ≤ (1023 + k) * 2 ^ 52 := by
  unfold ofRatio
  by_cases hn : n = 0
  · rw [if_pos hn, zero, magnitudeBits_ofSignMagnitude s (by decide)]
    exact Nat.zero_le _
  · rw [if_neg hn]
    dsimp only
    -- the exponent field is that of the logarithm, and the significand adds at most one to it
    generalize he : max (-1074) (log2Ratio n d - 52) = e
    have hm := roundDiv_scaled_le hn hd (show log2Ratio n d - 52 ≤ e by omega)
    have hle := log2Ratio_le_of_le hn hd h
    rw [magnitudeBits_ofSignMagnitude s (Nat.lt_of_le_of_lt (Nat.min_le_left _ _) (by decide))]
    refine Nat.le_trans (Nat.min_le_right _ _) ?_
    by_cases heq : log2Ratio n d = k
    · -- the fraction is `2 ^ k` itself, and its significand is exact
      have hsplit : n * 2 ^ (-e).toNat = d * 2 ^ e.toNat * 2 ^ 52 := by
        rw [eq_of_log2Ratio_eq hn hd h heq, Nat.mul_assoc, Nat.mul_assoc, ← Nat.pow_add, ← Nat.pow_add]
        congr 2
        omega
      rw [hsplit, roundDiv_mul (Nat.mul_pos (Nat.pos_of_ne_zero hd) (Nat.two_pow_pos _))]
      omega
    · omega

/-- A fraction up to a power of two that is not too large is rounded to a real number. -/
theorem isFinite_ofRatio (s : Bool) {n d k : Nat} (hd : d ≠ 0) (hk : k < 1023)
    (h : n ≤ d * 2 ^ k) : (ofRatio s n d).isFinite = true := by
  have hle := magnitudeBits_ofRatio_le s hd (by omega) h
  rw [isFinite_iff]
  unfold infinityBits
  omega

/-- Every integer of sixty-four bits, with or without a sign, is rounded to a real number. -/
theorem isFinite_ofInt {i : Int} (h : i.natAbs ≤ 2 ^ 64) : (ofInt i).isFinite = true :=
  isFinite_ofRatio _ Nat.one_ne_zero (show 64 < 1023 by decide) (by rwa [Nat.one_mul])

/-! ## Quotients -/

theorem log2Ratio_nonneg {n d : Nat} (hd : d ≠ 0) (h : d ≤ n) : 0 ≤ log2Ratio n d := by
  refine Int.not_lt.mp fun hneg => ?_
  have hlt := lt_log2Ratio (n := n) (by omega) hd
  rw [show (log2Ratio n d + 1).toNat = 0 by omega, Nat.pow_zero, Nat.mul_one] at hlt
  have hle : n ≤ n * 2 ^ (-(log2Ratio n d + 1)).toNat := Nat.le_mul_of_pos_right n (Nat.two_pow_pos _)
  omega

/-- **Rounding does not fall below one.** A fraction that is at least one becomes at least the pattern of
    one. -/
theorem le_magnitudeBits_ofRatio (s : Bool) {n d : Nat} (hd : d ≠ 0) (h : d ≤ n) :
    1023 * 2 ^ 52 ≤ (ofRatio s n d).magnitudeBits := by
  have hn : n ≠ 0 := by omega
  have hlog := log2Ratio_nonneg hd h
  unfold ofRatio
  rw [if_neg hn]
  dsimp only
  rw [Int.max_eq_right (by omega)]
  generalize he : log2Ratio n d - 52 = e
  -- the significand has its leading bit
  have hm : 2 ^ 52 ≤ roundDiv (n * 2 ^ (-e).toNat) (d * 2 ^ e.toNat) := by
    refine le_roundDiv (Nat.mul_pos (Nat.pos_of_ne_zero hd) (Nat.two_pow_pos _)) ?_
    rw [Nat.mul_assoc, ← Nat.pow_add]
    exact mul_two_pow_le (log2Ratio_le hn hd) (by omega)
  rw [magnitudeBits_ofSignMagnitude s (Nat.lt_of_le_of_lt (Nat.min_le_left _ _) (by decide))]
  refine Nat.le_min.mpr ⟨by decide, ?_⟩
  omega

theorem fraction_eq (x : Binary64) : x.fraction = x.magnitudeBits % 2 ^ 52 := by
  unfold fraction magnitudeBits
  omega

/-- Up to the pattern of a power of two, a number is at most that power. -/
theorem magnitude_le {x : Binary64} {k : Nat} (h : x.magnitudeBits ≤ (1023 + k) * 2 ^ 52) :
    x.magnitude.1 ≤ x.magnitude.2 * 2 ^ k := by
  have hfield := exponentField_eq x
  have hfraction := fraction_eq x
  -- a bound on the significand that leaves room for the scale
  obtain ⟨j, hj, hle⟩ : ∃ j, x.significand ≤ 2 ^ j ∧ j + x.scale.toNat ≤ (-x.scale).toNat + k := by
    unfold significand scale
    by_cases hzero : x.exponentField = 0
    · rw [if_pos hzero, if_pos hzero]
      exact ⟨52, by omega, by omega⟩
    · rw [if_neg hzero, if_neg hzero]
      by_cases htop : x.exponentField = 1023 + k
      · exact ⟨52, by omega, by omega⟩
      · exact ⟨53, by omega, by omega⟩
  calc x.significand * 2 ^ x.scale.toNat
      ≤ 2 ^ j * 2 ^ x.scale.toNat := Nat.mul_le_mul_right _ hj
    _ = 2 ^ (j + x.scale.toNat) := (Nat.pow_add _ _ _).symm
    _ ≤ 2 ^ ((-x.scale).toNat + k) := Nat.pow_le_pow_right (by decide) hle
    _ = 2 ^ (-x.scale).toNat * 2 ^ k := Nat.pow_add _ _ _

/-- From the pattern of one on, a number is at least one. -/
theorem le_magnitude {x : Binary64} (h : 1023 * 2 ^ 52 ≤ x.magnitudeBits) :
    x.magnitude.2 ≤ x.magnitude.1 := by
  have hfield := exponentField_eq x
  have hsignificand : 2 ^ 52 ≤ x.significand := by
    unfold significand
    rw [if_neg (by omega)]
    exact Nat.le_add_right _ _
  have hscale : (-x.scale).toNat ≤ 52 + x.scale.toNat := by
    unfold scale
    rw [if_neg (by omega)]
    omega
  calc 2 ^ (-x.scale).toNat
      ≤ 2 ^ (52 + x.scale.toNat) := Nat.pow_le_pow_right (by decide) hscale
    _ = 2 ^ 52 * 2 ^ x.scale.toNat := Nat.pow_add _ _ _
    _ ≤ x.significand * 2 ^ x.scale.toNat := Nat.mul_le_mul_right _ hsignificand

theorem magnitude_pos (x : Binary64) : 0 < x.magnitude.2 := Nat.two_pow_pos _

/-- **Dividing by a number that is at least one does not pass a power of two.** -/
theorem magnitudeBits_div_le {x y : Binary64} {k : Nat} (hk : k ≤ 1023)
    (hx : x.magnitudeBits ≤ (1023 + k) * 2 ^ 52) (hy : 1023 * 2 ^ 52 ≤ y.magnitudeBits) :
    (x.div y).magnitudeBits ≤ (1023 + k) * 2 ^ 52 := by
  have hx' := magnitude_le hx
  have hy' := le_magnitude hy
  have hpos : 0 < x.magnitude.2 * y.magnitude.1 :=
    Nat.mul_pos x.magnitude_pos (Nat.lt_of_lt_of_le y.magnitude_pos hy')
  refine magnitudeBits_ofRatio_le _ (Nat.ne_of_gt hpos) hk ?_
  calc x.magnitude.1 * y.magnitude.2
      ≤ x.magnitude.2 * 2 ^ k * y.magnitude.1 := Nat.mul_le_mul hx' hy'
    _ = x.magnitude.2 * y.magnitude.1 * 2 ^ k := Nat.mul_right_comm _ _ _

/-- A power of ten is at least one. -/
theorem le_magnitudeBits_powTen (k : Nat) : 1023 * 2 ^ 52 ≤ (powTen k).magnitudeBits :=
  le_magnitudeBits_ofRatio false Nat.one_ne_zero (Nat.pow_pos (by decide))

/-- The sign does not decide whether a pattern is finite. -/
theorem isFinite_neg (x : Binary64) : x.neg.isFinite = x.isFinite := by
  have hbits : x.neg.magnitudeBits = x.magnitudeBits :=
    magnitudeBits_ofSignMagnitude _ (Nat.mod_lt _ (by decide))
  rw [Bool.eq_iff_iff, isFinite_iff, isFinite_iff, hbits]

end SyntaxShapes.Binary64
