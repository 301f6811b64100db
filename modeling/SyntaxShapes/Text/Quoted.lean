import SyntaxShapes.Text.Printable

/-!
# `SyntaxShapes.Text.Quoted` — text between double quotes, on one line

Messages quote a text so that it can be told from its surroundings: quotes and backslashes are escaped,
tabs, line ends and NUL have short escapes, and whatever would not show by itself is written by its code
point. A single quote stands as it is.

## Contents
- **`escapeChar`, `quoted`.** One character, and a whole text with its quotes.
- **`newline_notMem_quoted`.** A quoted text never spans lines.
-/

namespace SyntaxShapes.Text

/-- A code point in hexadecimal, between braces. -/
def codePoint (c : Char) : List Char :=
  '\\' :: 'u' :: '\x7b' :: Nat.toDigits 16 c.toNat ++ ['\x7d']

/-- A character as it is written inside quotes. -/
def escapeChar (c : Char) : List Char :=
  if c = '\x00' then ['\\', '0']
  else if c = '\t' then ['\\', 't']
  else if c = '\r' then ['\\', 'r']
  else if c = '\n' then ['\\', 'n']
  else if c = '\\' then ['\\', '\\']
  else if c = '"' then ['\\', '"']
  else if extendsGrapheme c || !isPrintable c then codePoint c
  else [c]

/-- A text between quotes. -/
def quoted (s : String) : String :=
  String.ofList ('"' :: s.toList.flatMap escapeChar ++ ['"'])

/-! ## A quoted text stays on its line -/

theorem newline_notMem_toDigits {b : Nat} (hb : 1 < b) (n : Nat) : '\n' ∉ Nat.toDigits b n := by
  induction n using Nat.strongRecOn with
  | ind n ih =>
    rw [Nat.toDigits_eq_if hb]
    have hne : ∀ d : Nat, '\n' ≠ d.digitChar := fun d h => Nat.digitChar_ne '\n' (by decide) h.symm
    split
    · simp [hne n]
    · rename_i hlt
      have := ih (n / b) (Nat.div_lt_self (by omega) hb)
      simp [this, hne]

theorem newline_notMem_escapeChar (c : Char) : '\n' ∉ escapeChar c := by
  by_cases hc : c = '\n'
  · simp [escapeChar, hc]
  · have hc' : ¬ '\n' = c := fun h => hc h.symm
    unfold escapeChar
    repeat' split
    all_goals simp [codePoint, newline_notMem_toDigits, hc']

/-- No line end is left inside a quoted text. -/
theorem newline_notMem_quoted (s : String) : '\n' ∉ (quoted s).toList := by
  simp [quoted, newline_notMem_escapeChar]

end SyntaxShapes.Text
