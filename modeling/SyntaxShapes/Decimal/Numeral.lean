import SyntaxShapes.Decimal.Binary64

/-!
# `SyntaxShapes.Decimal.Numeral` — numbers as they are written in decimal

A numeral is the parts of a written number: sign, digits before the point, digits after it, exponent.
What number it stands for is a separate question; `nearest` gives the correctly rounded answer.

## Contents
- **Parts.** `Numeral`, `digitsValue`, the scanners `scanDigits` and `scanExponent?`.
- **Value.** `coefficient`, `decimalExponent` and `nearest`.
- **Literal text.** `ofLiteralText?`, the value of a numeric literal's source text.
-/

namespace SyntaxShapes

/-- A number as it is written in decimal. -/
structure Numeral where
  /-- Whether a minus sign stands in front. -/
  negative : Bool
  /-- The digits before the point. -/
  whole : List Char
  /-- The digits after the point, if there is a point. -/
  fraction? : Option (List Char)
  /-- The exponent, if there is one. -/
  exponent? : Option Int
  deriving DecidableEq, Repr

namespace Numeral

/-- The natural number that a string of digits stands for. -/
def digitsValue (cs : List Char) : Nat :=
  Nat.ofDigitChars 10 cs 0

theorem digitsValue_toDigits (n : Nat) : digitsValue (Nat.toDigits 10 n) = n :=
  Nat.ofDigitChars_toDigits (by decide) (by decide)

/-! ## Scanning -/

/-- The digits at the front of a text, and what follows them. -/
def scanDigits (cs : List Char) : List Char × List Char :=
  (cs.takeWhile Char.isDigit, cs.dropWhile Char.isDigit)

theorem scanDigits_append (cs : List Char) : (scanDigits cs).1 ++ (scanDigits cs).2 = cs :=
  List.takeWhile_append_dropWhile

theorem length_scanDigits (cs : List Char) :
    (scanDigits cs).1.length + (scanDigits cs).2.length = cs.length := by
  rw [← List.length_append, scanDigits_append]

/-- A sign at the front of a text, read as `-1` or `1`, and what follows it. -/
def scanSign : List Char → Int × List Char
  | '-' :: cs => (-1, cs)
  | '+' :: cs => (1, cs)
  | cs => (1, cs)

theorem length_scanSign_le (cs : List Char) : (scanSign cs).2.length ≤ cs.length := by
  unfold scanSign
  split <;> simp

/-- An exponent at the front of a text, if an `e` stands there, and what follows it. There is no
answer when the `e` is not followed by a digit, with or without a sign. -/
def scanExponent? : List Char → Option (Option Int × List Char)
  | [] => some (none, [])
  | c :: cs =>
    if c = 'e' ∨ c = 'E' then
      match scanDigits (scanSign cs).2 with
      | ([], _) => none
      | (ds, rest) => some (some ((scanSign cs).1 * digitsValue ds), rest)
    else some (none, c :: cs)

theorem length_of_scanExponent? {cs rest : List Char} {e : Option Int}
    (h : scanExponent? cs = some (e, rest)) : rest.length ≤ cs.length := by
  unfold scanExponent? at h
  split at h
  · simp_all
  · rename_i c cs
    split at h
    · have hs := length_scanSign_le cs
      have hd := length_scanDigits (scanSign cs).2
      split at h
      · cases h
      · rename_i ds rest' _ heq
        simp only [Option.some.injEq, Prod.mk.injEq] at h
        rw [heq] at hd
        obtain ⟨-, rfl⟩ := h
        simp only [List.length_cons] at *
        omega
    · simp only [Option.some.injEq, Prod.mk.injEq] at h
      simp [← h.2]

/-! ## Value -/

/-- The digits after the point, none when there is no point. -/
def fraction (n : Numeral) : List Char := n.fraction?.getD []

/-- All digits as one natural number. -/
def coefficient (n : Numeral) : Nat := digitsValue (n.whole ++ n.fraction)

/-- The power of ten that scales the coefficient. -/
def decimalExponent (n : Numeral) : Int := n.exponent?.getD 0 - n.fraction.length

/-- The number nearest to `± c · 10 ^ e`. Past three hundred and ten digits before the point it is an
infinity and past three hundred and thirty zeros after it a zero, without computing the power. -/
def nearestScaled (negative : Bool) (c : Nat) (e : Int) : Binary64 :=
  let digits : Int := (Nat.toDigits 10 c).length
  if c = 0 then .zero negative
  else if 310 < digits + e then .infinity negative
  else if digits + e < -330 then .zero negative
  else .ofRatio negative (c * 10 ^ e.toNat) (10 ^ (-e).toNat)

/-- The number nearest to a numeral. -/
def nearest (n : Numeral) : Binary64 :=
  nearestScaled n.negative n.coefficient n.decimalExponent

/-! ## Literal text -/

/-- A numeral without its sign that fills a whole text: digits with an optional point, at least one
digit, and an optional exponent. -/
def ofUnsignedText? (negative : Bool) (cs : List Char) : Option Numeral :=
  let (whole, cs) := scanDigits cs
  let (fraction?, cs) := match cs with
    | '.' :: cs => (some (scanDigits cs).1, (scanDigits cs).2)
    | cs => (none, cs)
  if whole.isEmpty && (fraction?.getD []).isEmpty then none
  else match scanExponent? cs with
    | some (exponent?, []) => some ⟨negative, whole, fraction?, exponent?⟩
    | _ => none

/-- The value of a numeric literal's text: an optional sign, then a numeral, `inf`, `infinity` or `nan`
in letters of either case. Texts of any other form have no value. -/
def ofLiteralText? (s : String) : Option Binary64 :=
  let (sign, cs) := scanSign s.toList
  let negative := sign < 0
  let word := String.ofList (cs.map Char.toLower)
  if word = "inf" ∨ word = "infinity" then some (.infinity negative)
  else if word = "nan" then some (.nan negative)
  else (ofUnsignedText? negative cs).map nearest

end Numeral

end SyntaxShapes
