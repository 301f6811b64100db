import SyntaxShapes.Decimal.Binary64

/-!
# `SyntaxShapes.Decimal.Shortest` — the fewest digits that read back

A finite binary64 number is written with the fewest significant digits that read back as the same
number; of several such texts, the one nearest to the number. Small and large exponents are written in
scientific form, all others with a point.

## Contents
- **Digits.** `readsBack`, `candidate?` on one decimal grid, and `shortest` over the grids from one digit
  to seventeen.
- **Text.** `text`, with the point or the exponent in place.
-/

namespace SyntaxShapes.Binary64

/-! ## Digits -/

/-- The number nearest to `c · 10 ^ e`, with a given sign. -/
def ofDecimal (negative : Bool) (c : Nat) (e : Int) : Binary64 :=
  ofRatio negative (c * 10 ^ e.toNat) (10 ^ (-e).toNat)

/-- Whether `c · 10 ^ e`, under the sign of `x`, reads back as `x`. -/
def readsBack (x : Binary64) (c : Nat) (e : Int) : Bool :=
  ofDecimal x.negative c e == x

/-- The `k` with `10 ^ (k - 1) ≤ n / d < 10 ^ k`, for positive `n` and `d`. -/
def digitsBeforePoint (n d : Nat) : Int :=
  let k : Int := (Nat.toDigits 10 n).length - (Nat.toDigits 10 d).length
  if d * 10 ^ k.toNat ≤ n * 10 ^ (-k).toNat then k + 1 else k

/-- The point of the grid of multiples of `10 ^ e` that reads back as `x`: one of the two neighbours of
`x` on the grid, the nearer one if both do, the even one if they are equally near. -/
def candidate? (x : Binary64) (e : Int) : Option Nat :=
  let (n, d) := x.magnitude
  let n := n * 10 ^ (-e).toNat
  let d := d * 10 ^ e.toNat
  let low := n / d
  let near := roundDiv n d
  let far := if near = low then low + 1 else low
  [near, far].find? fun c => x.readsBack c e

/-- The first hit on the grids that keep `digits`, `digits + 1`, … digits, `more` grids in all. -/
def firstHit (x : Binary64) (k : Int) (digits : Nat) : Nat → Nat × Int
  | 0 => (x.candidate? (k - digits) |>.getD 0, k - digits)
  | more + 1 =>
    match x.candidate? (k - digits) with
    | some c => (c, k - digits)
    | none => firstHit x k (digits + 1) more

/-- A coefficient and an exponent with the fewest digits that read back as a finite number. -/
def shortest (x : Binary64) : Nat × Int :=
  if x.isZero then (0, 0)
  else
    let (n, d) := x.magnitude
    x.firstHit (digitsBeforePoint n d) 1 16

/-! ## Text -/

/-- Trailing zeros of a coefficient, moved into the exponent; `fuel` bounds their number. -/
def dropZeros : Nat → Nat × Int → Nat × Int
  | 0, p => p
  | fuel + 1, (c, e) => if c ≠ 0 ∧ c % 10 = 0 then dropZeros fuel (c / 10, e + 1) else (c, e)

/-- An exponent with its sign, which is always written. -/
def exponentText (e : Int) : List Char :=
  (if e < 0 then '-' else '+') :: Nat.toDigits 10 e.natAbs

/-- Digits with the point after the first `k` of them, for `-5 < k ≤ 16`; scientific form otherwise. -/
def layOut (ds : List Char) (k : Int) : List Char :=
  let n := ds.length
  if n ≤ k ∧ k ≤ 16 then
    ds ++ List.replicate (k.toNat - n) '0' ++ ['.', '0']
  else if 0 < k ∧ k ≤ 16 then
    ds.take k.toNat ++ '.' :: ds.drop k.toNat
  else if -5 < k ∧ k ≤ 0 then
    '0' :: '.' :: List.replicate (-k).toNat '0' ++ ds
  else
    ds.take 1 ++ (if n = 1 then [] else '.' :: ds.drop 1) ++ 'e' :: exponentText (k - 1)

/-- The text of a finite number. -/
def text (x : Binary64) : String :=
  let sign := if x.negative then ['-'] else []
  if x.isZero then String.ofList (sign ++ ['0', '.', '0'])
  else
    let (c, e) := dropZeros 20 x.shortest
    let ds := Nat.toDigits 10 c
    String.ofList (sign ++ layOut ds (ds.length + e))

end SyntaxShapes.Binary64
