import SyntaxShapes.Shape.Basic

/-!
# `SyntaxShapes.Command.Arguments` — the command line

The command takes one input path and options in any order. `--format` and `--only` take a value, in the
next word or after `=`; the other options take none; only `--only` may be repeated. After `--` every word
is a path.

A value is examined when the word after it starts something new, or at the end. So a word that fits
nowhere is noticed before a bad value in front of it, and a repeated option only after one.

## Contents
- **Result.** `OutputFormat`, `Arguments`, `Rejection`.
- **Words.** `Switch`, `ValueOption`, `Word`, `Word.ofText`.
- **Reading.** `State`, `State.settle`, `State.step`, `State.finish`, and `Arguments.parse`.
-/

namespace SyntaxShapes.Command

/-! ## Result -/

/-- The form in which a report is written. -/
inductive OutputFormat
  | text | json
  deriving DecidableEq, Repr

/-- The format that a word names. -/
def OutputFormat.ofText? (s : String) : Option OutputFormat :=
  if s = "text" then some .text
  else if s = "json" then some .json
  else none

/-- What a command line asks for. -/
structure Arguments where
  /-- The path of the input; `-` is the standard input. -/
  input : String
  /-- The form of the report. -/
  format : OutputFormat := .text
  /-- The shapes to list, in the order given. -/
  only : List Shape := []
  /-- Whether nodes without a shape are listed. -/
  all : Bool := false
  /-- Whether a summary follows a text report. -/
  summary : Bool := false
  /-- Whether colour is off in any case. -/
  noColour : Bool := false
  deriving DecidableEq, Repr

/-- Why a command line does not start a run. -/
inductive Rejection
  /-- There is no input path. -/
  | missingInput
  /-- A word is no known option, or a second path. -/
  | unknownArgument
  /-- A format is not known, a value is absent, or a path is empty. -/
  | invalidValue
  /-- A shape is not known. -/
  | invalidShape
  /-- An option that may stand once stands twice. -/
  | repeated
  /-- An option that takes no value has one. -/
  | unneededValue
  /-- The help was asked for. -/
  | help
  /-- The version was asked for. -/
  | version
  deriving DecidableEq, Repr

/-! ## Words -/

/-- The options without a value. -/
inductive Switch
  | all | summary | noColour | help | version
  deriving DecidableEq, Repr

/-- The options with a value. -/
inductive ValueOption
  | format | only
  deriving DecidableEq, Repr

/-- A word of the command line, before `--`. -/
inductive Word
  /-- `--` itself. -/
  | escape
  | switch (s : Switch)
  /-- An option without a value, with a value. -/
  | switchWithValue
  | option (o : ValueOption)
  | optionWithValue (o : ValueOption) (value : String)
  /-- A word that looks like an option and is none. -/
  | unknown
  /-- A path, or the value of the option before it. -/
  | plain (text : String)
  deriving DecidableEq, Repr

/-- The option without a value that a name stands for. -/
def Switch.ofName? (name : String) : Option Switch :=
  if name = "all" then some .all
  else if name = "summary" then some .summary
  else if name = "no-color" then some .noColour
  else if name = "help" then some .help
  else if name = "version" then some .version
  else none

/-- The option with a value that a name stands for. -/
def ValueOption.ofName? (name : String) : Option ValueOption :=
  if name = "format" then some .format
  else if name = "only" then some .only
  else none

/-- The word for what follows two hyphens. -/
def Word.ofLong (cs : List Char) : Word :=
  let name := String.ofList (cs.takeWhile (· ≠ '='))
  match cs.dropWhile (· ≠ '=') with
  | [] =>
    match Switch.ofName? name, ValueOption.ofName? name with
    | some s, _ => .switch s
    | none, some o => .option o
    | none, none => .unknown
  | _ :: value =>
    match Switch.ofName? name, ValueOption.ofName? name with
    | some _, _ => .switchWithValue
    | none, some o => .optionWithValue o (String.ofList value)
    | none, none => .unknown

/-- The word that a text is. A single hyphen is a path; after a single hyphen only `h` and `V` mean
something. -/
def Word.ofText (s : String) : Word :=
  match s.toList with
  | ['-', '-'] => .escape
  | '-' :: '-' :: cs => .ofLong cs
  | '-' :: 'h' :: _ => .switch .help
  | '-' :: 'V' :: _ => .switch .version
  | '-' :: _ :: _ => .unknown
  | _ => .plain s

/-! ## Reading -/

/-- Something whose value has not been examined yet. -/
inductive Pending
  /-- An option whose value must come next. -/
  | awaiting (o : ValueOption)
  /-- An option with its value. -/
  | option (o : ValueOption) (value : String)
  /-- A path. -/
  | input (path : String)
  deriving DecidableEq, Repr

/-- What has been read so far. -/
structure State where
  /-- Whether `--` has been read. -/
  escaped : Bool := false
  /-- Whether a path has been read, examined or not. -/
  inputSeen : Bool := false
  /-- What has not been examined yet. -/
  pending? : Option Pending := none
  /-- The path. -/
  input? : Option String := none
  /-- The format, if one was given. -/
  format? : Option OutputFormat := none
  /-- The shapes. -/
  only : List Shape := []
  /-- Whether `--all` was given. -/
  all : Bool := false
  /-- Whether `--summary` was given. -/
  summary : Bool := false
  /-- Whether `--no-color` was given. -/
  noColour : Bool := false
  deriving DecidableEq, Repr

namespace State

/-- Takes over an option with its value. -/
def setOption (s : State) (o : ValueOption) (value : String) : Except Rejection State :=
  match o with
  | .format =>
    if s.format?.isSome then .error .repeated
    else match OutputFormat.ofText? value with
      | some f => .ok { s with format? := some f }
      | none => .error .invalidValue
  | .only =>
    match Shape.ofText value with
    | .ok shape => .ok { s with only := s.only ++ [shape] }
    | .error _ => .error .invalidShape

/-- Takes over an option without a value. -/
def setSwitch (s : State) : Switch → Except Rejection State
  | .all => if s.all then .error .repeated else .ok { s with all := true }
  | .summary => if s.summary then .error .repeated else .ok { s with summary := true }
  | .noColour => if s.noColour then .error .repeated else .ok { s with noColour := true }
  | .help => .error .help
  | .version => .error .version

/-- Examines what is pending. -/
def settle (s : State) : Except Rejection State :=
  let s' := { s with pending? := none }
  match s.pending? with
  | none => .ok s'
  | some (.awaiting _) => .error .invalidValue
  | some (.option o value) => s'.setOption o value
  | some (.input path) => if path = "" then .error .invalidValue else .ok { s' with input? := some path }

/-- Takes a word as a path. -/
def takeInput (s : State) (path : String) : Except Rejection State :=
  if s.inputSeen then .error .unknownArgument
  else do
    let s ← s.settle
    return { s with pending? := some (.input path), inputSeen := true }

/-- Takes a word that stands before `--`. -/
def takeWord (s : State) : Word → Except Rejection State
  | .escape => .ok { s with escaped := true }
  | .switch w => do (← s.settle).setSwitch w
  | .switchWithValue => .error .unneededValue
  | .option o => do return { ← s.settle with pending? := some (.awaiting o) }
  | .optionWithValue o value => do (← s.settle).setOption o value
  | .unknown => .error .unknownArgument
  | .plain text =>
    match s.pending? with
    | some (.awaiting o) => .ok { s with pending? := some (.option o text) }
    | _ => s.takeInput text

/-- Takes the next word. -/
def step (s : State) (text : String) : Except Rejection State :=
  if s.escaped then s.takeInput text else s.takeWord (.ofText text)

/-- What was asked for, at the end of the command line. -/
def finish (s : State) : Except Rejection Arguments := do
  let s ← s.settle
  match s.input? with
  | none => .error .missingInput
  | some input =>
    return { input, format := s.format?.getD .text, only := s.only, all := s.all,
             summary := s.summary, noColour := s.noColour }

end State

/-- Reads a command line, without the name of the program. -/
def Arguments.parse (words : List String) : Except Rejection Arguments := do
  (← words.foldlM State.step {}).finish

end SyntaxShapes.Command
