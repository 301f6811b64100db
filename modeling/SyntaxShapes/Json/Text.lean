/-!
# `SyntaxShapes.Json.Text` — strings in JSON text

A JSON string stands between double quotes. Quotes, backslashes and control characters are escaped; a
character beyond the basic plane may be written as two escaped halves, and a half by itself is an error.

## Contents
- **Writing.** `escapeChar`, `quote`.
- **Reading.** `scanText?`, which takes the characters after the opening quote;
  `length_of_scanText?` says that it consumes something.
- **Round trip.** `scanText?_quote`: what is written reads back.
-/

namespace SyntaxShapes.Json

/-! ## Writing -/

/-- A character as it is written inside a string. -/
def escapeChar (c : Char) : List Char :=
  if c = '"' then ['\\', '"']
  else if c = '\\' then ['\\', '\\']
  else if c = '\x08' then ['\\', 'b']
  else if c = '\x0c' then ['\\', 'f']
  else if c = '\n' then ['\\', 'n']
  else if c = '\r' then ['\\', 'r']
  else if c = '\t' then ['\\', 't']
  else if c.toNat < 32 then
    ['\\', 'u', '0', '0', Nat.digitChar (c.toNat / 16), Nat.digitChar (c.toNat % 16)]
  else [c]

/-- A text as a JSON string. -/
def quote (s : String) : List Char :=
  '"' :: (s.toList.flatMap escapeChar ++ ['"'])

/-! ## Reading -/

/-- The value of a hexadecimal digit. -/
def hexDigit? (c : Char) : Option Nat :=
  if c.isDigit then some (c.toNat - 48)
  else if 'a' ≤ c ∧ c ≤ 'f' then some (c.toNat - 87)
  else if 'A' ≤ c ∧ c ≤ 'F' then some (c.toNat - 55)
  else none

/-- The value of four hexadecimal digits. -/
def hexUnit? (a b c d : Char) : Option Nat := do
  return (((← hexDigit? a) * 16 + (← hexDigit? b)) * 16 + (← hexDigit? c)) * 16 + (← hexDigit? d)

/-- Whether a unit is the first half of a pair. -/
def isHighHalf (u : Nat) : Bool := 0xD800 ≤ u && u < 0xDC00

/-- Whether a unit is the second half of a pair. -/
def isLowHalf (u : Nat) : Bool := 0xDC00 ≤ u && u < 0xE000

/-- The character that two halves stand for. -/
def joinHalves (high low : Nat) : Char :=
  Char.ofNat (0x10000 + (high - 0xD800) * 0x400 + (low - 0xDC00))

/-- The character of a one-letter escape. -/
def unescape? : Char → Option Char
  | '"' => some '"'
  | '\\' => some '\\'
  | '/' => some '/'
  | 'b' => some '\x08'
  | 'f' => some '\x0c'
  | 'n' => some '\n'
  | 'r' => some '\r'
  | 't' => some '\t'
  | _ => none

/-- Reads a string up to its closing quote and gives what follows it. The characters read so far come
in reverse, with the first half of a pair whose second half must follow. -/
def scanText? (done : List Char) (half? : Option Nat) : List Char → Option (String × List Char)
  | [] => none
  | '"' :: cs => if half?.isSome then none else some (String.ofList done.reverse, cs)
  | '\\' :: 'u' :: a :: b :: c :: d :: cs =>
    match hexUnit? a b c d, half? with
    | none, _ => none
    | some u, some high =>
      if isLowHalf u then scanText? (joinHalves high u :: done) none cs else none
    | some u, none =>
      if isHighHalf u then scanText? done (some u) cs
      else if isLowHalf u then none
      else scanText? (Char.ofNat u :: done) none cs
  | '\\' :: e :: cs =>
    match unescape? e, half? with
    | some c, none => scanText? (c :: done) none cs
    | _, _ => none
  | c :: cs => if half?.isSome || c.toNat < 32 then none else scanText? (c :: done) none cs

theorem length_of_scanText? {done : List Char} {half? : Option Nat} {cs rest : List Char} {s : String}
    (h : scanText? done half? cs = some (s, rest)) : rest.length < cs.length := by
  fun_induction scanText? done half? cs <;> simp_all <;> omega

/-! ## Round trip -/

theorem hexUnit?_control : ∀ n < 32,
    hexUnit? '0' '0' (Nat.digitChar (n / 16)) (Nat.digitChar (n % 16)) = some n := by
  decide

theorem scanText?_cons {c : Char} (done rest : List Char) (hq : c ≠ '"') (hb : c ≠ '\\')
    (hc : ¬c.toNat < 32) : scanText? done none (c :: rest) = scanText? (c :: done) none rest := by
  conv => lhs; unfold scanText?
  split
  case h_5 =>
    rename_i heq
    obtain ⟨rfl, rfl⟩ := List.cons.inj heq
    rw [if_neg (by simpa using hc)]
  all_goals simp_all

/-- Reading takes back one written character. -/
theorem scanText?_escapeChar (done : List Char) (c : Char) (rest : List Char) :
    scanText? done none (escapeChar c ++ rest) = scanText? (c :: done) none rest := by
  unfold escapeChar
  repeat' split
  case isFalse.isFalse.isFalse.isFalse.isFalse.isFalse.isFalse.isTrue =>
    rename_i h
    have hu := hexUnit?_control c.toNat h
    have h1 : isHighHalf c.toNat = false := by simp [isHighHalf]; omega
    have h2 : isLowHalf c.toNat = false := by simp [isLowHalf]; omega
    simp [scanText?, hu, h1, h2]
  case isFalse.isFalse.isFalse.isFalse.isFalse.isFalse.isFalse.isFalse =>
    exact scanText?_cons done rest ‹_› ‹_› ‹_›
  all_goals simp_all [scanText?, unescape?]

theorem scanText?_flatMap (cs done rest : List Char) :
    scanText? done none (cs.flatMap escapeChar ++ rest) = scanText? (cs.reverse ++ done) none rest := by
  induction cs generalizing done with
  | nil => rfl
  | cons c cs ih => simp [scanText?_escapeChar, ih]

/-- A written string reads back, whatever follows it. -/
theorem scanText?_quote (s : String) (rest : List Char) :
    scanText? [] none (s.toList.flatMap escapeChar ++ '"' :: rest) = some (s, rest) := by
  simp [scanText?_flatMap, scanText?]

end SyntaxShapes.Json
