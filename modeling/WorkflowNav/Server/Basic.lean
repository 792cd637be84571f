/-
Serving an editor.

The server takes one message at a time and answers with a response, messages of its own, and its
next state. Requests are refused before the editor has introduced itself and after it has said
goodbye, and whenever what they say cannot be read; notifications are then ignored.

Word of changed files is not acted on at once. It goes into a queue, and `settle` works the queue
off: each change invalidates the navigator that is current when the change is taken, which may not
be the one that was current when it came in.
-/
import WorkflowNav.Notice
import WorkflowNav.Workspace

set_option autoImplicit false

namespace WorkflowNav

/-- Where a session stands. -/
inductive Phase where
  /-- The editor has not introduced itself. -/
  | waiting
  | running
  /-- The editor has said goodbye. -/
  | stopped
  deriving DecidableEq, Repr

/-- How an editor introduces itself. -/
structure Introduction where
  folders : Option (List Uri) := none
  /-- The one folder of an editor that knows of no others. -/
  rootUri : Option Uri := none
  /-- Settings, as JSON. -/
  options : Option Json := none
  /-- Whether the editor can be asked to watch files. -/
  watchesFiles : Bool := false

/-- What a message is for. -/
inductive Intent where
  | introduction
  /-- Any other request. -/
  | request
  | notification
  deriving DecidableEq, Repr

/-- A message from the editor. -/
inductive Message where
  | introduce (introduction : Introduction)
  | ready
  | shutdown
  | opened (uri : Uri) (text : Text) (version : Int)
  | edited (uri : Uri) (version : Int) (edits : List Edit)
  | closed (uri : Uri)
  | configured (settings : Json)
  /-- Files changed, each with the number for the kind of change. -/
  | filesChanged (changes : List (Uri × Int))
  | definition (uri : Uri) (position : Position)
  | references (uri : Uri) (position : Position) (withDeclaration : Bool)
  /-- A message that cannot be read beyond what it is for. -/
  | malformed (intent : Intent)

/-- What a request is answered with. -/
inductive Response where
  /-- Nothing: the message was no request. -/
  | none
  /-- The request is out of place. -/
  | refused (code : Int)
  /-- What the server can do. -/
  | capabilities
  /-- The request is done. -/
  | done
  | definition (reply : DefinitionReply)
  /-- Links, or nothing if nothing is known at the cursor. -/
  | references (links : Option (List Link))
  deriving DecidableEq, Repr

/-- A message to the editor. -/
inductive Outgoing where
  /-- Ask the editor to watch the manifests. -/
  | watchManifests
  /-- Show a message to the user. -/
  | notice (notice : Notice)
  deriving DecidableEq, Repr

/-- A server in a session. -/
structure Server where
  phase : Phase := .waiting
  workspace : Workspace := .ofSettings {}
  watchesFiles : Bool := false
  queue : ChangeQueue := {}
  deriving DecidableEq, Repr

/-- What comes of a message. -/
structure Outcome where
  server : Server
  response : Response := .none
  sent : List Outgoing := []
  effort : Effort := {}
  deriving DecidableEq, Repr

namespace Message

/-- What a message is for. -/
def intent : Message → Intent
  | introduce _ => .introduction
  | shutdown | definition _ _ | references _ _ _ => .request
  | malformed intent => intent
  | _ => .notification

end Message

namespace Server

/-- The code for a request before the introduction. -/
def notInitialized : Int := -32002

/-- The code for a request out of place. -/
def invalidRequest : Int := -32600

/-- The code for a request that cannot be read. -/
def invalidParameters : Int := -32602

/-- The settings in JSON are taken over if they have our section. -/
def configure (workspace : Workspace) (json : Json) : Workspace :=
  match Settings.ofJson? json with
  | some settings => workspace.configure settings
  | none => workspace

/-- Take over what an editor says about itself. -/
def introduce (server : Server) (introduction : Introduction) : Server :=
  let folders := introduction.folders.getD introduction.rootUri.toList
  let workspace := folders.foldl Workspace.addFolder server.workspace
  let workspace := match introduction.options with
    | some options => configure workspace options
    | none => workspace
  { server with
    phase := .running
    workspace := workspace
    watchesFiles := introduction.watchesFiles }

/-- The text of a document: as it is open, or else as the navigator knows it. -/
def textOf (workspace : Workspace) (moment : Moment) (uri : Uri) : Option Text × Workspace :=
  match workspace.document? uri with
  | some document => (some document.text, workspace)
  | none =>
    match uri.toPath? with
    | none => (none, workspace)
    | some path =>
      let (text, texts) := workspace.navigator.texts.fetch moment path
      (text.toOption, { workspace with navigator := { workspace.navigator with texts := texts } })

/-- Resolve a cursor in a document. Without a folder to search nothing is known. -/
def resolve (workspace : Workspace) (moment : Moment) (uri : Uri) (position : Position) :
    Option Navigator.Resolution × Effort × Workspace :=
  match workspace.root? with
  | none => (none, {}, workspace)
  | some root =>
    match textOf workspace moment uri with
    | (none, workspace) => (none, {}, workspace)
    | (some text, workspace) =>
      let (resolution, effort, navigator) :=
        workspace.navigator.resolve moment {} root text position.row position.column
      (resolution, effort, { workspace with navigator := navigator })

/-- Answer a request for a definition. The user is told of a lookup that found nothing or too much,
but not on a definition. -/
def findDefinition (server : Server) (moment : Moment) (uri : Uri) (position : Position) :
    Outcome :=
  let (resolution, effort, workspace) := resolve server.workspace moment uri position
  let server := { server with workspace := workspace }
  match resolution with
  | none => { server := server, response := .definition .nothing, effort := effort }
  | some { site, answer } =>
    let notice :=
      if site.isDefinition then none
      else Notice.ofLookup? workspace.settings.notices answer.name answer.locations.length
    { server := server
      response := .definition (Reply.definition answer.locations)
      sent := notice.toList.map .notice
      effort := effort }

/-- Answer a request for references. -/
def findReferences (server : Server) (moment : Moment) (uri : Uri) (position : Position)
    (withDeclaration : Bool) : Outcome :=
  let (resolution, effort, workspace) := resolve server.workspace moment uri position
  let server := { server with workspace := workspace }
  match resolution with
  | none => { server := server, response := .references none, effort := effort }
  | some { site, answer } =>
    let links := Reply.references site answer.locations { uri := uri, line := position.row }
      withDeclaration
    let notice := Notice.ofReferences? workspace.settings.notices site links.length
    { server := server
      response := .references (some links)
      sent := notice.toList.map .notice
      effort := effort }

/-- Refuse a request, or ignore a notification. -/
def refuse (server : Server) (message : Message) (code : Int) : Outcome :=
  { server := server
    response := if message.intent = .notification then .none else .refused code }

/-- Take a message in a running session. -/
def handle (server : Server) (moment : Moment) : Message → Outcome
  | .introduce _ | .malformed .introduction =>
    { server := server, response := .refused invalidRequest }
  | .malformed intent => server.refuse (.malformed intent) invalidParameters
  | .ready =>
    { server := server, sent := if server.watchesFiles then [.watchManifests] else [] }
  | .shutdown => { server := { server with phase := .stopped }, response := .done }
  | .opened uri text version =>
    { server := { server with
        workspace := server.workspace.openDocument uri text (some version) } }
  | .edited uri version edits =>
    let workspace := edits.foldl (fun workspace edit => workspace.editDocument uri edit)
      server.workspace
    { server := { server with
        workspace := workspace.updateDocument uri fun document =>
          { document with version := some version } } }
  | .closed uri => { server := { server with workspace := server.workspace.closeDocument uri } }
  | .configured settings =>
    { server := { server with workspace := configure server.workspace settings } }
  | .filesChanged changes =>
    let changes := changes.filterMap fun (uri, number) => FileChange.ofEditor? uri number
    { server := { server with
        queue := changes.foldl (fun queue change => (queue.send change).1) server.queue } }
  | .definition uri position => server.findDefinition moment uri position
  | .references uri position withDeclaration =>
    server.findReferences moment uri position withDeclaration

/-- Take a message. -/
def receive (server : Server) (moment : Moment) (message : Message) : Outcome :=
  match server.phase, message with
  | .waiting, .introduce introduction =>
    { server := server.introduce introduction, response := .capabilities }
  | .waiting, .malformed .introduction => server.refuse message invalidParameters
  | .waiting, message => server.refuse message notInitialized
  | .running, message => server.handle moment message
  | .stopped, message => server.refuse message invalidRequest

/-- Act on the changes in the queue, oldest first. -/
def settle (server : Server) : Server :=
  { server with
    queue := { server.queue with changes := [] }
    workspace := { server.workspace with
      navigator := server.queue.changes.foldl Navigator.handleChange server.workspace.navigator } }

end Server

end WorkflowNav
