/-
What the editor says, as JSON.

A message has a method and parameters, in the shapes of the language server protocol. The method
alone tells what a message is for, so one whose parameters do not fit is still a request to refuse,
or a notification to ignore: it is `Message.malformed`.
-/
import WorkflowNav.Json.Record
import WorkflowNav.Server.Basic
import WorkflowNav.Uri.Parser

set_option autoImplicit false

namespace WorkflowNav

/-! ## Parts of messages -/

/-- A URI, as a text. -/
def Uri.ofJson? (json : Json) : Option Uri := json.text?.bind Uri.parse?

/-- A place in a document. -/
def Position.ofJson? (json : Json) : Option Position := do
  let record ← json.record? ["line", "character"]
  return { row := ← (record.part "line").natural32?
           column := ← (record.part "character").natural32? }

/-- A stretch of a document. -/
def Range.ofJson? (json : Json) : Option Range := do
  let record ← json.record? ["start", "end"]
  return { start := ← Position.ofJson? (record.part "start")
           stop := ← Position.ofJson? (record.part "end") }

/-- A change to a document. The length of the range may be given too, and goes unused. -/
def Edit.ofJson? (json : Json) : Option Edit := do
  let record ← json.record? ["range", "rangeLength", "text"]
  let range ← (record.part "range").orNull? Range.ofJson?
  let _ ← (record.part "rangeLength").orNull? Json.natural32?
  return { range := range, text := ← (record.part "text").text? }

/-- Word of a changed file, with the number for the kind of change. -/
def FileChange.reported? (json : Json) : Option (Uri × Int) := do
  let record ← json.record? ["uri", "type"]
  return (← Uri.ofJson? (record.part "uri"), ← (record.part "type").integer32?)

/-- A folder of the workspace. Its name goes unused. -/
def Workspace.folder? (json : Json) : Option Uri := do
  let record ← json.record? ["uri", "name"]
  let uri ← Uri.ofJson? (record.part "uri")
  let _ ← (record.part "name").text?
  return uri

/-- How an editor introduces itself. It cannot do what it says nothing of. -/
def Introduction.ofJson? (parameters : Json) : Option Introduction := do
  let watching := ((parameters.part "capabilities").part "workspace").part "didChangeWatchedFiles"
  let dynamic ← (watching.part "dynamicRegistration").orNull? Json.bool?
  return {
    folders := ← (parameters.part "workspaceFolders").orNull? (Json.list? Workspace.folder?)
    rootUri := ← (parameters.part "rootUri").orNull? Uri.ofJson?
    options := ← (parameters.part "initializationOptions").orNull? some
    watchesFiles := dynamic.getD false }

/-! ## Messages -/

/-- What the messages of a method are for; none for a method that is not known. -/
def Intent.ofMethod? : String → Option Intent
  | "initialize" => some .introduction
  | "shutdown" | "textDocument/definition" | "textDocument/references" => some .request
  | "initialized" | "textDocument/didOpen" | "textDocument/didChange" | "textDocument/didClose"
  | "workspace/didChangeConfiguration" | "workspace/didChangeWatchedFiles" => some .notification
  | _ => none

namespace Message

/-- The document that parameters are about. -/
def documentOf (parameters : Json) : Json := parameters.part "textDocument"

/-- The URI of the document that parameters are about. -/
def uriOf? (parameters : Json) : Option Uri := Uri.ofJson? ((documentOf parameters).part "uri")

/-- The version of the document that parameters are about. -/
def versionOf? (parameters : Json) : Option Int :=
  ((documentOf parameters).part "version").integer32?

/-- The place in a document that parameters are about. -/
def placeOf? (parameters : Json) : Option Position := Position.ofJson? (parameters.part "position")

/-- The message of a method, if the parameters fit. -/
def read? (method : String) (parameters : Json) : Option Message := do
  match method with
  | "initialize" => return introduce (← Introduction.ofJson? parameters)
  | "initialized" => return ready
  | "shutdown" => return shutdown
  | "textDocument/didOpen" =>
    return opened (← uriOf? parameters) (← ((documentOf parameters).part "text").text?)
      (← versionOf? parameters)
  | "textDocument/didChange" =>
    return edited (← uriOf? parameters) (← versionOf? parameters)
      (← (parameters.part "contentChanges").list? Edit.ofJson?)
  | "textDocument/didClose" => return closed (← uriOf? parameters)
  | "workspace/didChangeConfiguration" => return configured (parameters.part "settings")
  | "workspace/didChangeWatchedFiles" =>
    return filesChanged (← (parameters.part "changes").list? FileChange.reported?)
  | "textDocument/definition" => return definition (← uriOf? parameters) (← placeOf? parameters)
  | "textDocument/references" =>
    return references (← uriOf? parameters) (← placeOf? parameters)
      (← ((parameters.part "context").part "includeDeclaration").bool?)
  | _ => none

/-- The message of a method with its parameters; none for a method that is not known. -/
def ofJson? (method : String) (parameters : Json) : Option Message :=
  (Intent.ofMethod? method).map fun intent => (read? method parameters).getD (malformed intent)

end Message

end WorkflowNav
