/-
The command line.

Arguments are taken one by one. The first that asks for something on its own, or is unknown,
decides; serving an editor is what is left when all arguments ask for it.
-/
import WorkflowNav.Text.Basic

set_option autoImplicit false

namespace WorkflowNav.CommandLine

/-- What a command line asks for. -/
inductive Action where
  | serve
  | version
  | help
  | refuse (argument : String)
  deriving DecidableEq, Repr

/-- What arguments ask for, if `serve` says whether serving was asked for before. -/
def actionFrom (serve : Bool) : List String → Action
  | [] => if serve then .serve else .help
  | argument :: rest =>
    if argument = "--stdio" then actionFrom true rest
    else if argument = "--version" then .version
    else if argument = "--help" then .help
    else .refuse argument

/-- What arguments ask for. -/
def action (arguments : List String) : Action := actionFrom false arguments

/-- The name of the program. -/
def programName : String := "argonav"

/-- The version of the program. -/
def programVersion : String := "0.1.0"

/-- The text that explains the command line. -/
def usage : String :=
  programName ++ " " ++ programVersion
    ++ ", a language server for Argo WorkflowTemplate navigation.\n\n"
    ++ "Usage: argonav [OPTIONS]\n\n"
    ++ "Available options:\n\n"
    ++ "--stdio                      Start the LSP server using stdio transport\n"
    ++ "--version                    Print the version\n"
    ++ "--help                       Print this help message\n\n"
    ++ "Set ARGONAV_PERF=1 to log query timings.\n\n"

/-- What the program writes and how it ends. -/
structure Outcome where
  status : UInt32 := 0
  output : String := ""
  errors : String := ""
  deriving DecidableEq, Repr

/-- The outcome of an action. Serving writes nothing of its own. -/
def outcome : Action → Outcome
  | .serve => {}
  | .version => { output := programName ++ " " ++ programVersion ++ "\n" }
  | .help => { output := usage }
  | .refuse argument => { status := 1, errors := "Error: Unknown argument: '" ++ argument ++ "'\n" }

end WorkflowNav.CommandLine
