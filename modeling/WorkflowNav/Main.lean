/-
The program.

All decisions are made by `CommandLine`; what is left here is to write the outcome and, when
serving, to stay until the editor closes its end.
-/
import WorkflowNav.CommandLine

set_option autoImplicit false

namespace WorkflowNav.CommandLine

/-- Read a stream until it ends. -/
partial def drain (stream : IO.FS.Stream) : IO Unit := do
  let bytes ← stream.read 4096
  if bytes.isEmpty then return else drain stream

end WorkflowNav.CommandLine

open WorkflowNav in
def main (arguments : List String) : IO UInt32 := do
  let action := CommandLine.action arguments
  let outcome := CommandLine.outcome action
  (← IO.getStdout).putStr outcome.output
  (← IO.getStderr).putStr outcome.errors
  if action = .serve then CommandLine.drain (← IO.getStdin)
  return outcome.status
