import SyntaxShapes.Text.Pattern.Basic

/-!
# `SyntaxShapes.Text.Pattern.Machine` — how a text is searched for a pattern

A pattern is searched for by a machine that goes through a text once. It follows all ways to match at the
same time, as threads in order of preference; the threads of a match that starts earlier come first. A
thread that has matched makes all threads after it pointless, and no match is started any more.

Of each place the machine first knows only the character in front. A condition that asks for the character
after the place stops a thread until that character is there; then all threads of the place go on from where
they stand. A node is gone through once before that and once after it, so a round of a loop that takes no
character, but has met such a condition, may be followed by another round at the same place.

## Contents
- **Machines.** `Node`, `Machine`, and `Machine.ofPattern`.
- **Threads.** `Machine.reach`, the nodes at which threads stop; `Machine.settle`.
- **Searching.** `Machine.run`, and `Pattern.fits`: whether the first match of a pattern in a text, taken the
  way that it prefers, ends where the text ends.
-/

namespace SyntaxShapes.Text

/-! ## Machines -/

/-- A node of a machine, at which a thread may be. Nodes are given by their numbers. -/
inductive Node
  /-- Goes on with a character of a set. -/
  | char (s : CharSet) (next : Nat)
  /-- Goes on at places that meet a condition. -/
  | anchor (a : Anchor) (next : Nat)
  /-- Goes on at several nodes, the earlier ones rather than the later. -/
  | fork (choices : List Nat)
  /-- Has matched. -/
  | accept
  deriving DecidableEq, Repr

/-- The choice between going into something and going past it. -/
def Node.choice (greedy : Bool) (into past : Nat) : Node :=
  .fork (if greedy then [into, past] else [past, into])

/-- Adds the nodes of a pattern that is followed by a node, and gives the node at which it begins. Where a
round of a loop may take no character, the loop is entered through a choice of its own. -/
def Pattern.addNodes : Pattern → Nat → Array Node → Nat × Array Node
  | empty, next, ns => (next, ns)
  | char s, next, ns => (ns.size, ns.push (.char s next))
  | anchor a, next, ns => (ns.size, ns.push (.anchor a next))
  | seq x y, next, ns =>
    let (second, ns) := y.addNodes next ns
    x.addNodes second ns
  | alt x y, next, ns =>
    let (first, ns) := x.addNodes next ns
    let (second, ns) := y.addNodes next ns
    (ns.size, ns.push (.fork [first, second]))
  | optional x greedy, next, ns =>
    let (into, ns) := x.addNodes next ns
    (ns.size, ns.push (.choice greedy into next))
  | star x greedy, next, ns =>
    let (into, ns') := x.addNodes ns.size (ns.push .accept)
    let ns' := ns'.setIfInBounds ns.size (.choice greedy into next)
    if x.takesSome then (ns.size, ns') else (ns'.size, ns'.push (.choice greedy into next))
  | repeated x greedy, next, ns =>
    let (into, ns') := x.addNodes ns.size (ns.push .accept)
    (into, ns'.setIfInBounds ns.size (.choice greedy into next))

/-- A machine that searches for a pattern. -/
structure Machine where
  /-- The node at which threads begin. -/
  entry : Nat
  /-- The nodes. -/
  nodes : Array Node
  deriving DecidableEq, Repr

namespace Machine

/-- The machine of a pattern. -/
def ofPattern (x : Pattern) : Machine :=
  let (entry, nodes) := x.addNodes 0 #[.accept]
  { entry, nodes }

/-! ## Threads -/

theorem count_false_set_lt {seen : Array Bool} {i : Nat} {h : i < seen.size} (hi : seen[i] = false) :
    (seen.set i true h).count false < seen.count false := by
  have pos : 0 < seen.count false := Array.count_pos_iff.2 (hi ▸ Array.getElem_mem h)
  rw [Array.count_set, hi]
  show seen.count false - 1 + 0 < seen.count false
  omega

/-- The nodes at which threads stop that go on from some nodes, in order, given which conditions hold.
Threads also stop at conditions that hold. No node is gone through twice. -/
def reach (m : Machine) (holds : Anchor → Bool) (todo : List Nat) (seen : Array Bool) : List Nat :=
  match todo with
  | [] => []
  | i :: todo =>
    if h : i < seen.size then
      if _hi : seen[i] = false then
        let seen := seen.set i true
        match m.nodes[i]? with
        | some (.fork choices) => m.reach holds (choices ++ todo) seen
        | some (.anchor a next) => i :: m.reach holds (if holds a then next :: todo else todo) seen
        | _ => i :: m.reach holds todo seen
      else m.reach holds todo seen
    else m.reach holds todo seen
termination_by (seen.count false, todo.length)
decreasing_by
  all_goals first
    | exact .left _ _ (count_false_set_lt _hi)
    | exact .right _ (Nat.lt_succ_self _)

/-- The nodes at which threads stop that come to some nodes at one place. -/
def threads (m : Machine) (holds : Anchor → Bool) (starts : List Nat) : List Nat :=
  m.reach holds starts (.replicate m.nodes.size false)

/-- Whether a thread has matched. -/
def isDone (m : Machine) (i : Nat) : Bool :=
  m.nodes[i]? == some .accept

/-- Whether a thread stands at a condition that is met, but was not known to be. -/
def isReleased (m : Machine) (p : Place) (i : Nat) : Bool :=
  match m.nodes[i]? with
  | some (.anchor a _) => a.holds p && !a.holdsEarly p.before?
  | _ => false

/-- The threads of a place once the character after it is known. -/
def settle (m : Machine) (p : Place) (ts : List Nat) : List Nat :=
  if ts.any (m.isReleased p) then m.threads (·.holds p) ts else ts

/-- Where a thread goes on with a character. -/
def step? (m : Machine) (c : Char) (i : Nat) : Option Nat :=
  match m.nodes[i]? with
  | some (.char s next) => if s.mem c then some next else none
  | _ => none

/-! ## Searching -/

/-- Whether a match may start inside of a character that takes several bytes. It takes nothing then, and
there is no edge of a text, of a line or of a word. -/
def matchesInside (m : Machine) : Bool :=
  (m.threads (· == .noWordEdge) [m.entry]).any m.isDone

/-- Whether the first match ends where a text ends, given the threads of a place in it, what stands around
that place, and whether matches may still start after it. -/
def run (m : Machine) (searching : Bool) (ts : List Nat) (before? : Option Char) : List Char → Bool
  | [] => (m.settle ⟨before?, none⟩ ts).any m.isDone
  | c :: cs =>
    let ts := m.settle ⟨before?, some c⟩ ts
    let going := ts.takeWhile (!m.isDone ·)
    let searching := searching && !ts.any m.isDone && !(128 ≤ c.toNat && m.matchesInside)
    let starts := going.filterMap (m.step? c) ++ if searching then [m.entry] else []
    m.run searching (m.threads (·.holdsEarly (some c)) starts) (some c) cs

end Machine

/-- Whether a pattern fits a text: its first match ends where the text ends. -/
def Pattern.fits (x : Pattern) (s : String) : Bool :=
  let m := Machine.ofPattern x
  m.run true (m.threads (·.holdsEarly none) [m.entry]) none s.toList

end SyntaxShapes.Text
