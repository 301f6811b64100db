import SyntaxShapes.Text.Blank

/-!
# `SyntaxShapes.Text.Pattern.Settings` — the settings that a pattern may change

A pattern is read under settings, and may change them by letters in parentheses: for the rest of the group
that it stands in, or for a group of its own.

## Contents
- **`Settings`.** The settings; `Settings.set?` changes one by its letter.
- **Reading.** `Settings.scan?` takes the letters up to the mark that ends them, `Settings.skip` what does
  not count.
-/

namespace SyntaxShapes.Text.Pattern

/-- How a pattern is read. -/
structure Settings where
  /-- Letters stand for both of their cases. -/
  caseless : Bool := false
  /-- The anchors of a text hold at each of its lines. -/
  perLine : Bool := false
  /-- A dot stands for line ends too. -/
  dotAll : Bool := false
  /-- Repetitions are reluctant where they would be greedy, and the other way round. -/
  swapGreed : Bool := false
  /-- Characters beyond ASCII count as such. -/
  unicode : Bool := true
  /-- A carriage return ends a line too. -/
  carriage : Bool := false
  /-- White space and comments do not count. -/
  spaced : Bool := false
  deriving DecidableEq, Repr

namespace Settings

/-- Changes the setting with a letter. -/
def set? (t : Settings) (letter : Char) (value : Bool) : Option Settings :=
  match letter with
  | 'i' => some { t with caseless := value }
  | 'm' => some { t with perLine := value }
  | 's' => some { t with dotAll := value }
  | 'U' => some { t with swapGreed := value }
  | 'u' => some { t with unicode := value }
  | 'R' => some { t with carriage := value }
  | 'x' => some { t with spaced := value }
  | _ => none

/-! ## Reading -/

/-- Letters of settings up to the colon or parenthesis that ends them, with that mark and what follows it.
The settings are switched on, and off after a minus sign. No letter may stand twice, nor the minus sign, and
the sign needs a letter after it. The letters read so far come in reverse. -/
def scan? (t : Settings) (seen : List Char) : List Char → Option (Settings × Char × List Char)
  | [] => none
  | c :: cs =>
    if c = ':' ∨ c = ')' then
      if seen.head? = some '-' then none else some (t, c, cs)
    else if c ∈ seen then none
    else if c = '-' then scan? t (c :: seen) cs
    else
      match t.set? c (!seen.contains '-') with
      | some t => scan? t (c :: seen) cs
      | none => none

/-- A text from its first character that is neither white space nor in a comment. A comment goes from a hash
sign to the end of its line. -/
def dropSpace (inComment : Bool) : List Char → List Char
  | [] => []
  | c :: cs =>
    if inComment then dropSpace (c != '\n') cs
    else if isBlank c then dropSpace false cs
    else if c = '#' then dropSpace true cs
    else c :: cs

theorem length_dropSpace_le (inComment : Bool) (cs : List Char) :
    (dropSpace inComment cs).length ≤ cs.length := by
  fun_induction dropSpace inComment cs <;> simp_all <;> omega

/-- A text from its first character that counts. -/
def skip (t : Settings) (cs : List Char) : List Char :=
  if t.spaced then dropSpace false cs else cs

theorem length_skip_le (t : Settings) (cs : List Char) : (t.skip cs).length ≤ cs.length := by
  unfold skip
  split
  · exact length_dropSpace_le false cs
  · exact Nat.le_refl _

end Settings

end SyntaxShapes.Text.Pattern
