/-!
# `SyntaxShapes.Named` — vocabularies whose members have names

A serialised tree refers to the members of its vocabularies (tokens, keywords, node kinds, shapes) by
name. A type is `Named` when it lists its members, each under a name of its own; reading a name is then
the same search for every vocabulary.

## Contents
- **`Named`.** The members in order, their names, and the law that a name leads back to its member.
- **`ofName?`.** The member of a name; `ofName?_eq_some_iff` says exactly when there is one.
-/

namespace SyntaxShapes

/-- A finite vocabulary: its members in order, and a name for each that no other member has. -/
class Named (α : Type) where
  /-- Every member, in the order in which messages list them. -/
  all : List α
  /-- The name of a member. -/
  name : α → String
  /-- Looking for a member's name finds that member. -/
  find?_name : ∀ a, all.find? (name · == name a) = some a

namespace Named

variable {α : Type} [Named α]

/-- The member with a given name. -/
def ofName? (s : String) : Option α :=
  (all : List α).find? (name · == s)

/-- The names of all members, in order. -/
def names (α : Type) [Named α] : List String :=
  (all : List α).map name

theorem ofName?_name (a : α) : ofName? (name a) = some a :=
  find?_name a

theorem mem_all (a : α) : a ∈ (all : List α) :=
  List.mem_of_find?_eq_some (find?_name a)

theorem name_injective {a b : α} (h : name a = name b) : a = b := by
  have ha := ofName?_name a
  rw [h, ofName?_name] at ha
  exact (Option.some.inj ha).symm

theorem ofName?_eq_some_iff {s : String} {a : α} : ofName? s = some a ↔ s = name a := by
  constructor
  · intro h
    have := List.find?_some h
    exact (beq_iff_eq.mp this).symm
  · rintro rfl
    exact ofName?_name a

end Named

end SyntaxShapes
