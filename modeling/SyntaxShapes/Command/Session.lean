import SyntaxShapes.Command.Run
import SyntaxShapes.Log.Line

/-!
# `SyntaxShapes.Command.Session` — one start of the command

What the command answers to a command line, an environment and an input: exit status, standard output, and
the lines on the standard error, log first.

## Contents
- **Environment.** `Environment`, with the colour and the log that it asks for.
- **Answers.** `Reply` with its `status`, `output` and `errorText?`.
- **`Session.of`.** The whole answer.
-/

namespace SyntaxShapes.Command

/-! ## Environment -/

/-- The settings that the command takes from its environment. -/
structure Environment where
  /-- What to log. -/
  log? : Option String := none
  /-- What to log when `log?` says nothing. -/
  fallbackLog? : Option String := none
  /-- The form of the log. -/
  logFormat? : Option String := none
  /-- Whether to colour in any case. -/
  forceColour? : Option String := none
  /-- Whether to leave out colour. -/
  noColour? : Option String := none
  /-- Whether to colour on a terminal. -/
  terminalColour? : Option String := none
  deriving DecidableEq, Repr

namespace Environment

/-- The settings of an environment, given the value of each variable. -/
def ofLookup (value? : String → Option String) : Environment :=
  { log? := value? "TSGUARD_LOG"
    fallbackLog? := value? "RUST_LOG"
    logFormat? := value? "TSGUARD_LOG_FORMAT"
    forceColour? := value? "CLICOLOR_FORCE"
    noColour? := value? "NO_COLOR"
    terminalColour? := value? "CLICOLOR" }

/-- The names of the variables that matter. -/
def names : List String :=
  ["TSGUARD_LOG", "RUST_LOG", "TSGUARD_LOG_FORMAT", "CLICOLOR_FORCE", "NO_COLOR", "CLICOLOR"]

/-- Whether reports are coloured: always when that is forced, else never when it is unwanted, else on a
terminal. A setting of `0` forces nothing, but any setting of `NO_COLOR` says that colour is unwanted. -/
def paint (e : Environment) (terminal : Bool) : Paint :=
  if e.forceColour?.any (· ≠ "0") then .colour
  else if e.noColour?.isSome then .plain
  else if terminal && e.terminalColour?.all (· ≠ "0") then .colour
  else .plain

/-- The filter of the log, if it can be used; without a setting nothing is logged. -/
def filter (e : Environment) : Except Log.DirectiveFault (Option Log.Filter) :=
  match e.log?.or e.fallbackLog? with
  | none => .ok none
  | some text => (Log.Filter.ofText text).map some

/-- The form of the log. -/
def logFormat (e : Environment) : Log.Format :=
  .ofText (e.logFormat?.getD "")

end Environment

/-! ## Answers -/

/-- What the command does with a command line. -/
inductive Reply
  /-- It stops at a setting of the log that cannot be used, and looks at nothing else. -/
  | stopped
  /-- It shows the help. -/
  | help
  /-- It shows its version. -/
  | version
  /-- It refuses the command line. -/
  | refused (rejection : Rejection)
  /-- It ends without a report. -/
  | failed (args : Arguments) (failure : Failure)
  /-- It ends with a report. -/
  | finished (args : Arguments) (outcome : Outcome)
  deriving DecidableEq, Repr

namespace Reply

/-- The answer to a command line that has been read, with the source that was read from its input. -/
def of (parsed : Except Rejection Arguments) (paint : Paint) (source? : Option String) : Reply :=
  match parsed with
  | .error .help => .help
  | .error .version => .version
  | .error r => .refused r
  | .ok args =>
    match run args paint source? with
    | .ok outcome => .finished args outcome
    | .error failure => .failed args failure

/-- The help. -/
def helpText : String :=
  String.join
    ["Classify the nodes of a serialized TypeScript AST by syntactic shape\n\n",
     "Usage: tsguard [OPTIONS] <INPUT>\n\n",
     "Arguments:\n",
     "  <INPUT>  Serialized node arena (JSON). Use `-` to read from stdin\n\n",
     "Options:\n",
     "      --format <FORMAT>  Output format for the report [default: text] [possible values: text, json]\n",
     "      --only <ONLY>      Only report nodes matching this shape (repeatable)\n",
     "      --all              Also list nodes that match no shape\n",
     "      --summary          Print the number of nodes per shape after the report\n",
     "      --no-color         Disable colored output\n",
     "  -h, --help             Print help\n",
     "  -V, --version          Print version\n"]

/-- The exit status. -/
def status : Reply → Nat
  | stopped => 101
  | help | version => 0
  | refused _ => 2
  | failed _ _ => 1
  | finished _ outcome => outcome.status

/-- The standard output. -/
def output : Reply → String
  | help => helpText
  | version => "tsguard 0.1.0\n"
  | stopped | refused _ | failed _ _ => ""
  | finished _ outcome => outcome.output

/-- What the standard error says after the log, if something went wrong. -/
def errorText? : Reply → Option String
  | refused _ => some "error: invalid command line; for more information, try '--help'"
  | failed _ failure =>
    some ("Error: " ++ failure.message
      ++ (failure.cause?.map fun c => "\n\nCaused by:\n    " ++ c).getD "")
  | _ => none

/-- The log. -/
def log (filter : Log.Filter) (format : Log.Format) : Reply → List String
  | finished args outcome => Log.lines filter format args.input outcome.events
  | failed args _ => Log.lines filter format args.input []
  | _ => []

end Reply

/-- One start of the command. -/
structure Session where
  /-- What the command does. -/
  reply : Reply
  /-- The lines of the log, after a note on each part of the filter that is no rule. -/
  log : List String
  deriving DecidableEq, Repr

/-- The answer to a command line that has been read, in an environment, on a terminal or not, with the
source that was read from its input. -/
def Session.of (env : Environment) (terminal : Bool) (parsed : Except Rejection Arguments)
    (source? : Option String) : Session :=
  let reply := Reply.of parsed (env.paint terminal) source?
  match env.filter with
  | .error fault => { reply := .stopped, log := ["unusable log filter: " ++ fault.message] }
  | .ok none => { reply, log := [] }
  | .ok (some filter) =>
    { reply
      log := filter.ignored.map (fun (part, fault) => "ignoring `" ++ part ++ "`: " ++ fault.message)
        ++ reply.log filter env.logFormat }

end SyntaxShapes.Command
