import SyntaxShapes.Power

/-!
# `SyntaxShapes.Decimal.Binary64` — 64-bit floating point, by its bit patterns

A binary64 number is its 64 bits: a sign, eleven bits of exponent, fifty-two of fraction. Two numbers
are the same here exactly when their bits are; comparing them as numbers is `numEq`. All arithmetic goes
through exact fractions of natural numbers and one rounding, `ofRatio`, to the nearest pattern with ties
to the even one.

## Contents
- **Patterns.** `Binary64`, its `negative`, `exponentField`, `fraction`; `isNaN`, `isFinite`.
- **Magnitudes.** `magnitude`, the exact fraction that a finite pattern stands for.
- **Rounding.** `roundDiv`, `ofRatio`, `ofNat`, `ofInt`.
- **Arithmetic.** `mul`, `div` on finite numbers, and `powTen`.
-/

namespace SyntaxShapes

/-- A 64-bit floating-point number, given by its bits. -/
structure Binary64 where
  /-- The sign, the exponent field and the fraction field, from the highest bit down. -/
  bits : UInt64
  deriving DecidableEq, Repr

namespace Binary64

/-! ## Patterns -/

/-- Whether the sign bit is set. -/
def negative (x : Binary64) : Bool :=
  2 ^ 63 ≤ x.bits.toNat

/-- The eleven bits of the exponent field. -/
def exponentField (x : Binary64) : Nat :=
  x.bits.toNat / 2 ^ 52 % 2 ^ 11

/-- The fifty-two bits of the fraction field. -/
def fraction (x : Binary64) : Nat :=
  x.bits.toNat % 2 ^ 52

/-- Whether the pattern stands for a real number: its exponent field is not all ones. -/
def isFinite (x : Binary64) : Bool :=
  x.exponentField != 2047

/-- Whether the pattern is a NaN. -/
def isNaN (x : Binary64) : Bool :=
  x.exponentField == 2047 && x.fraction != 0

/-- Whether the pattern is one of the two zeros. -/
def isZero (x : Binary64) : Bool :=
  x.bits.toNat % 2 ^ 63 == 0

/-- Equality as numbers: a NaN equals nothing and the two zeros are equal. -/
def numEq (x y : Binary64) : Bool :=
  !x.isNaN && !y.isNaN && (x == y || x.isZero && y.isZero)

/-- The pattern with a given sign and a given magnitude, both as numbers of bits. -/
def ofSignMagnitude (negative : Bool) (magnitude : Nat) : Binary64 :=
  ⟨UInt64.ofNat (magnitude + if negative then 2 ^ 63 else 0)⟩

/-- The bits of an infinity, less its sign. -/
def infinityBits : Nat := 2047 * 2 ^ 52

/-- An infinity. -/
def infinity (negative : Bool) : Binary64 :=
  ofSignMagnitude negative infinityBits

/-- A quiet NaN. -/
def nan (negative : Bool) : Binary64 :=
  ofSignMagnitude negative (infinityBits + 2 ^ 51)

/-- A zero. -/
def zero (negative : Bool) : Binary64 :=
  ofSignMagnitude negative 0

/-- The same number with the sign bit turned over. -/
def neg (x : Binary64) : Binary64 :=
  ofSignMagnitude (!x.negative) (x.bits.toNat % 2 ^ 63)

/-! ## Magnitudes -/

/-- The integer significand of a finite pattern, its leading bit included. -/
def significand (x : Binary64) : Nat :=
  if x.exponentField = 0 then x.fraction else 2 ^ 52 + x.fraction

/-- The power of two that scales the significand. -/
def scale (x : Binary64) : Int :=
  if x.exponentField = 0 then -1074 else (x.exponentField : Int) - 1075

/-- The absolute value of a finite pattern, as a numerator and a denominator. -/
def magnitude (x : Binary64) : Nat × Nat :=
  (x.significand * 2 ^ x.scale.toNat, 2 ^ (-x.scale).toNat)

/-! ## Rounding -/

/-- The natural number nearest to `n / d`; a tie goes to the even one. -/
def roundDiv (n d : Nat) : Nat :=
  let q := n / d
  let r := n % d
  if 2 * r < d then q
  else if d < 2 * r then q + 1
  else if q % 2 = 0 then q else q + 1

/-- The exponent `k` with `2 ^ k ≤ n / d < 2 ^ (k + 1)`, for positive `n` and `d`. -/
def log2Ratio (n d : Nat) : Int :=
  let k : Int := (n.log2 : Int) - d.log2
  if d * 2 ^ k.toNat ≤ n * 2 ^ (-k).toNat then k else k - 1

/-- The number nearest to `± n / d`, for a positive `d`. A significand of fifty-three bits is kept where
the exponent allows it; what is too large becomes an infinity. -/
def ofRatio (negative : Bool) (n d : Nat) : Binary64 :=
  if n = 0 then zero negative
  else
    let e : Int := max (-1074) (log2Ratio n d - 52)
    let m := roundDiv (n * 2 ^ (-e).toNat) (d * 2 ^ e.toNat)
    -- a carry out of the significand moves on to the next exponent by itself
    ofSignMagnitude negative (min infinityBits ((e + 1074).toNat * 2 ^ 52 + m))

/-- The number nearest to a natural number. -/
def ofNat (n : Nat) : Binary64 :=
  ofRatio false n 1

/-- The number nearest to an integer. -/
def ofInt (i : Int) : Binary64 :=
  ofRatio (i < 0) i.natAbs 1

/-! ## Arithmetic -/

/-- The rounded product of two finite numbers. -/
def mul (x y : Binary64) : Binary64 :=
  let (a, b) := x.magnitude
  let (c, d) := y.magnitude
  ofRatio (x.negative != y.negative) (a * c) (b * d)

/-- The rounded quotient of a finite number by a finite one that is not zero. -/
def div (x y : Binary64) : Binary64 :=
  let (a, b) := x.magnitude
  let (c, d) := y.magnitude
  ofRatio (x.negative != y.negative) (a * d) (b * c)

/-- The number nearest to a power of ten. -/
def powTen (k : Nat) : Binary64 :=
  ofNat (10 ^ k)

end Binary64

end SyntaxShapes
