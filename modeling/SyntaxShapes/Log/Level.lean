/-!
# `SyntaxShapes.Log.Level` — how much a log line matters

## Contents
- **`Level`.** The five levels, from the weightiest down; `name`, `rank`.
-/

namespace SyntaxShapes.Log

/-- The weight of a log line. -/
inductive Level
  | error | warn | info | debug | trace
  deriving DecidableEq, Repr

namespace Level

/-- The name of a level. -/
def name : Level → String
  | .error => "ERROR"
  | .warn => "WARN"
  | .info => "INFO"
  | .debug => "DEBUG"
  | .trace => "TRACE"

/-- The place of a level: larger for lines that matter less, from one up. -/
def rank : Level → Nat
  | .error => 1
  | .warn => 2
  | .info => 3
  | .debug => 4
  | .trace => 5

end Level

end SyntaxShapes.Log
