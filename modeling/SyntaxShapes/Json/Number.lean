import SyntaxShapes.Decimal.Numeral
import SyntaxShapes.Decimal.Shortest
import SyntaxShapes.Json.Value

/-!
# `SyntaxShapes.Json.Number` — numbers in JSON text

The grammar of a JSON number, the value that a written number gets, and the text of a number.

An integer that fits 64 bits, with or without a sign, is an integer. Everything else is a floating-point
number, computed in three steps: the leading digits that fit 64 bits unsigned, that natural number rounded
to binary64, and one multiplication or division by a rounded power of ten (several divisions when the
exponent is below -308). The result can therefore differ from the nearest number in its last bit; a number
too large for binary64 is an error.

## Contents
- **Grammar.** `scanNumeral?`; `length_of_scanNumeral?` says that it consumes something.
- **Value.** `absorb`, `scaleByTen?`, `Number.ofNumeral?`.
- **Text.** `Number.text`.
-/

namespace SyntaxShapes.Json

open Numeral (scanDigits scanExponent?)

/-! ## Grammar -/

/-- A point and its digits at the front of a text, if a point stands there, and what follows. There is
no answer when no digit follows the point. -/
def scanFraction? : List Char → Option (Option (List Char) × List Char)
  | '.' :: cs =>
    match scanDigits cs with
    | ([], _) => none
    | (ds, rest) => some (some ds, rest)
  | cs => some (none, cs)

/-- A sign at the front of a text: whether a minus stands there, and what follows. -/
def scanMinus : List Char → Bool × List Char
  | '-' :: cs => (true, cs)
  | cs => (false, cs)

/-- The digits of an integer: at least one, and no zero in front of others. -/
def isWhole : List Char → Bool
  | [] => false
  | '0' :: _ :: _ => false
  | _ => true

/-- The number at the front of a text, and what follows it. -/
def scanNumeral? (cs : List Char) : Option (Numeral × List Char) :=
  let (negative, cs) := scanMinus cs
  let (whole, cs) := scanDigits cs
  if isWhole whole then
    (scanFraction? cs).bind fun (fraction?, cs) =>
      (scanExponent? cs).bind fun (exponent?, rest) =>
        some (⟨negative, whole, fraction?, exponent?⟩, rest)
  else none

theorem length_of_scanFraction? {cs rest : List Char} {f : Option (List Char)}
    (h : scanFraction? cs = some (f, rest)) : rest.length ≤ cs.length := by
  unfold scanFraction? at h
  split at h
  · rename_i cs
    have hd := Numeral.length_scanDigits cs
    split at h
    · cases h
    · rename_i heq
      simp only [Option.some.injEq, Prod.mk.injEq] at h
      rw [heq] at hd
      obtain ⟨-, rfl⟩ := h
      simp only [List.length_cons] at *
      omega
  · simp only [Option.some.injEq, Prod.mk.injEq] at h
    simp [← h.2]

theorem length_scanMinus_le (cs : List Char) : (scanMinus cs).2.length ≤ cs.length := by
  unfold scanMinus
  split <;> simp

/-- A number takes at least one character. -/
theorem length_of_scanNumeral? {cs rest : List Char} {n : Numeral}
    (h : scanNumeral? cs = some (n, rest)) : rest.length < cs.length := by
  have hm := length_scanMinus_le cs
  have hd := Numeral.length_scanDigits (scanMinus cs).2
  simp only [scanNumeral?] at h
  split at h
  · rename_i hw
    obtain ⟨⟨f, r⟩, hf, h⟩ := Option.bind_eq_some_iff.mp h
    obtain ⟨⟨e, r'⟩, he, h⟩ := Option.bind_eq_some_iff.mp h
    have hf : r.length ≤ (scanDigits (scanMinus cs).2).2.length := length_of_scanFraction? hf
    have he : r'.length ≤ r.length := Numeral.length_of_scanExponent? he
    simp only [Option.some.injEq, Prod.mk.injEq] at h
    obtain ⟨-, rfl⟩ := h
    have : (scanDigits (scanMinus cs).2).1 ≠ [] := by
      intro h0
      rw [h0] at hw
      exact absurd hw (by decide)
    have := List.length_pos_iff.mpr this
    omega
  · cases h

/-! ## Value -/

/-- The largest natural number of 64 bits. -/
def maxWord : Nat := 2 ^ 64 - 1

/-- A coefficient extended by digits for as long as it fits 64 bits, and how many digits it took. -/
def absorb (c : Nat) : List Char → Nat × Nat
  | [] => (c, 0)
  | d :: ds =>
    let c' := Nat.ofDigitChars 10 [d] c
    if maxWord < c' then (c, 0)
    else
      let (c'', k) := absorb c' ds
      (c'', k + 1)

/-- A number multiplied by a power of ten, none when the result is too large. -/
def scaleByTen? (x : Binary64) (e : Int) : Option Binary64 :=
  if e.natAbs ≤ 308 then
    if 0 ≤ e then
      let y := x.mul (.powTen e.toNat)
      if y.isFinite then some y else none
    else some (x.div (.powTen (-e).toNat))
  else if x.isZero then some x
  else if h : 0 ≤ e then none
  else scaleByTen? (x.div (.powTen 308)) (e + 308)
  termination_by e.natAbs
  decreasing_by omega

/-- The floating-point number that a numeral gets. -/
def floatOfNumeral? (n : Numeral) : Option Binary64 :=
  let (c, k) := absorb 0 n.whole
  let (c, l) := absorb c n.fraction
  let e : Int := (n.whole.length - k : Nat) - (l : Int) + n.exponent?.getD 0
  (scaleByTen? (.ofNat c) e).map fun x => if n.negative then x.neg else x

/-- The integer that a numeral stands for, when it has neither point nor exponent and the integer fits
64 bits. A negative zero is no integer. -/
def intOfNumeral? (n : Numeral) : Option Int :=
  let c := Numeral.digitsValue n.whole
  if n.fraction?.isSome || n.exponent?.isSome then none
  else if n.negative then (if 0 < c ∧ c ≤ 2 ^ 63 then some (-c) else none)
  else if c ≤ maxWord then some c
  else none

/-- The number that a numeral gets, none when it is too large. -/
def Number.ofNumeral? (n : Numeral) : Option Number :=
  match intOfNumeral? n with
  | some i => some (.int i)
  | none => (floatOfNumeral? n).map .float

/-! ## Text -/

/-- The text of an integer. -/
def intText (i : Int) : List Char :=
  if i < 0 then '-' :: Nat.toDigits 10 i.natAbs else Nat.toDigits 10 i.natAbs

/-- The text of a number; what is no real number is written `null`. -/
def Number.text : Number → List Char
  | .int i => intText i
  | .float x => if x.isFinite then x.text.toList else ['n', 'u', 'l', 'l']

end SyntaxShapes.Json
