import SyntaxShapes.Command.Session

/-!
# `SyntaxShapes.Main` — the command

Reads arguments, environment and input, and writes what `SyntaxShapes.Command.Session` answers.
-/

namespace SyntaxShapes.Command

/-- The text of an input, if it can be read; `-` is the standard input. -/
def readInput (path : String) : IO (Option String) := do
  try
    if path = "-" then
      let bytes ← (← IO.getStdin).readBinToEnd
      return String.fromUTF8? bytes
    else
      return some (← IO.FS.readFile path)
  catch _ =>
    return none

end SyntaxShapes.Command

open SyntaxShapes.Command

/-- Runs the command on its arguments. -/
def main (words : List String) : IO UInt32 := do
  let values ← Environment.names.mapM fun name => do return (name, ← IO.getEnv name)
  let env := Environment.ofLookup fun name => (values.lookup name).join
  let parsed := Arguments.parse words
  let source? ← match parsed with
    | .ok args => readInput args.input
    | .error _ => pure none
  let session := Session.of env (← (← IO.getStdout).isTty) parsed source?
  for line in session.log do
    IO.eprintln line
  IO.print session.reply.output
  if let some text := session.reply.errorText? then
    IO.eprintln text
  return session.reply.status.toUInt32
