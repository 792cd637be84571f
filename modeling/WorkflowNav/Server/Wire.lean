/-
What the server says, as JSON.

The shapes are those of the language server protocol. A link is a range of no width at the start of
its line.
-/
import WorkflowNav.CommandLine
import WorkflowNav.Server.Basic

set_option autoImplicit false

namespace WorkflowNav

namespace Json

/-- An object with the given fields. -/
def ofFields (fields : List (String × Json)) : Json :=
  object (fields.map fun (name, value) => (name.toList, value))

/-- A string. -/
def ofString (text : String) : Json := string text.toList

/-- A natural number. -/
def ofNat (n : Nat) : Json := integer n

end Json

/-- The start of a line. -/
def Link.position (link : Link) : Json :=
  .ofFields [("line", .ofNat link.line), ("character", .ofNat 0)]

/-- A link. -/
def Link.toJson (link : Link) : Json :=
  .ofFields [
    ("uri", .string link.uri.toText),
    ("range", .ofFields [("start", link.position), ("end", link.position)])]

/-- The reply to a request for a definition. -/
def DefinitionReply.toJson : DefinitionReply → Json
  | nothing => .null
  | one link => link.toJson
  | many links => .array (links.map Link.toJson)

/-- The number for how much a message matters. -/
def Severity.number : Severity → Nat
  | warning => 2
  | info => 3

namespace Server

/-- What the server can do: it takes edits one by one, and finds definitions and references. -/
def capabilities : Json :=
  .ofFields [
    ("capabilities", .ofFields [
      ("textDocumentSync", .ofNat 2),
      ("definitionProvider", .bool true),
      ("referencesProvider", .bool true)]),
    ("serverInfo", .ofFields [
      ("name", .ofString CommandLine.programName),
      ("version", .ofString CommandLine.programVersion)])]

/-- The files that the editor is asked to watch. -/
def manifestPattern : String := "**/*.\x7byaml,yml\x7d"

/-- The result of a request that is not refused. -/
def resultOf : Response → Json
  | .none => .null
  | .refused _ => .null
  | .capabilities => capabilities
  | .done => .null
  | .definition reply => reply.toJson
  | .references none => .null
  | .references (some links) => .array (links.map Link.toJson)

/-- The method of a message to the editor. -/
def methodOf : Outgoing → String
  | .watchManifests => "client/registerCapability"
  | .notice _ => "window/showMessage"

/-- The parameters of a message to the editor. -/
def parametersOf : Outgoing → Json
  | .watchManifests =>
    .ofFields [("registrations", .array [.ofFields [
      ("id", .ofString "argonav-yaml-watcher"),
      ("method", .ofString "workspace/didChangeWatchedFiles"),
      ("registerOptions", .ofFields [
        ("watchers", .array [.ofFields [("globPattern", .ofString manifestPattern)]])])]])]
  | .notice notice =>
    .ofFields [
      ("type", .ofNat notice.severity.number),
      ("message", .string notice.message)]

end Server

end WorkflowNav
