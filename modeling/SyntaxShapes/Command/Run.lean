import SyntaxShapes.Command.Arguments
import SyntaxShapes.Report.Json
import SyntaxShapes.Report.Text

/-!
# `SyntaxShapes.Command.Run` — from a source text to a report

A run reads the source as JSON, the JSON as a tree, and writes the report that was asked for. Reading the
source from its path is left to the caller.

## Contents
- **`Failure`.** Why a run ends without a report, with the path that was given.
- **`Outcome`.** Status, output and events of a run that does not fail.
- **`run`.** The run; `run_eq_ok_iff` says when it succeeds.
-/

namespace SyntaxShapes.Command

/-- Why a run ends without a report. -/
inductive Failure
  /-- The input could not be read. -/
  | unreadable (path : String)
  /-- The input is not JSON. -/
  | notJson (path : String)
  /-- The input is no tree. -/
  | notArena (path : String) (error : Load.LoadError)
  deriving DecidableEq, Repr

namespace Failure

/-- What is said about a failure. -/
def message : Failure → String
  | unreadable path => if path = "-" then "failed to read stdin" else "failed to read " ++ path
  | notJson path => path ++ " is not valid JSON"
  | notArena path _ => "failed to load node arena from " ++ path

/-- What is said about its cause, where that is this library's to say. -/
def cause? : Failure → Option String
  | notArena _ e => some e.message
  | _ => none

end Failure

/-- A run that ends with a report. -/
structure Outcome where
  /-- Zero when every node was usable, one otherwise. -/
  status : Nat
  /-- The report. -/
  output : String
  /-- What was logged, in order. -/
  events : List Load.Event
  deriving DecidableEq, Repr

/-- The options of a report that a command line asks for. -/
def Arguments.options (args : Arguments) : Options :=
  { only := args.only, all := args.all }

/-- The text of a report as a command line asks for it. -/
def Arguments.render (args : Arguments) (paint : Paint) (r : Report) : String :=
  match args.format with
  | .text => r.text (if args.noColour then .plain else paint) args.summary
  | .json => r.jsonText

/-- The status of a run that ends with this report. -/
def exitStatus (r : Report) : Nat :=
  if r.malformed.isEmpty then 0 else 1

/-- The outcome of a run whose tree has been read. -/
def Arguments.outcome (args : Arguments) (paint : Paint) (l : Load.Loaded) : Outcome :=
  let r := Report.ofLoaded l args.options
  { status := exitStatus r
    output := args.render paint r
    events := l.events }

/-- Reads the tree in a source text, if the input could be read. -/
def readTree (path : String) (source? : Option String) : Except Failure Load.Loaded :=
  match source? with
  | none => .error (.unreadable path)
  | some source =>
    match Json.parse? source with
    | none => .error (.notJson path)
    | some v => (Load.load v).mapError (.notArena path)

/-- Runs the command on the source that was read from its input. -/
def run (args : Arguments) (paint : Paint) (source? : Option String) : Except Failure Outcome :=
  (readTree args.input source?).map (args.outcome paint)

/-- A run succeeds exactly when its source is the JSON text of a tree. -/
theorem run_eq_ok_iff {args : Arguments} {paint : Paint} {source : String} {o : Outcome} :
    run args paint (some source) = .ok o ↔
      ∃ v l, Json.parse? source = some v ∧ Load.load v = .ok l ∧ args.outcome paint l = o := by
  unfold run readTree
  cases hp : Json.parse? source with
  | none => simp [Except.map, hp]
  | some v =>
    cases hl : Load.load v with
    | error e =>
      constructor
      · intro h
        simp only [hp, hl] at h
        cases h
      · rintro ⟨_, l, hv, hl', -⟩
        obtain rfl := Option.some.inj hv
        rw [hl] at hl'
        cases hl'
    | ok l =>
      constructor
      · intro h
        simp only [hp, hl] at h
        exact ⟨v, l, rfl, hl, Except.ok.inj h⟩
      · rintro ⟨_, l', hv, hl', rfl⟩
        obtain rfl := Option.some.inj hv
        obtain rfl := Except.ok.inj (hl.symm.trans hl')
        simp only [hp, hl]
        rfl

end SyntaxShapes.Command
