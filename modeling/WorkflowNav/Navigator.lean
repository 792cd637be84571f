/-
Answering questions about a workspace.

A question is put to every manifest below a root, in path order, and the lines found are the answer.
Files are scanned a batch at a time; when a single location is wanted, no batch is started after one
that found it. A file whose text cannot be had says nothing.

Two caches stand in between, and neither should show. Texts come from the text cache. Where a
WorkflowTemplate is defined is asked so often that answers to it are kept as well.

Other tasks run while a scan waits for files. What they may do is the parameter `meanwhile`:
withdraw the request, or change the cache of definitions. Both are given by the number of texts
scanned so far. It also says in which order the fetches of each batch take their turns.
-/
import WorkflowNav.Cache.Definition
import WorkflowNav.Cache.Shared
import WorkflowNav.Crawl
import WorkflowNav.FileChange
import WorkflowNav.Settings

set_option autoImplicit false

namespace WorkflowNav

/-- The lines that answer a question in the text of one manifest. -/
abbrev Rule := Text → List UInt32

/-- The places that a rule finds in the text of a file. -/
def Rule.locations (rule : Rule) (path : Path) (text : Text) : List Location :=
  (rule text).map fun line => { path := path, line := line }

/-- The rule for a question. -/
def Query.rule : Query → Rule
  | .definition name, text => Manifest.definitions (Text.lines text) name
  | .templateDefinition owner template, text =>
    (Manifest.templateDefinition? (Text.lines text) owner template).toList
  | .templateReferences owner template, text =>
    Manifest.templateReferences (Text.lines text) owner template
  | .workflowTemplateReferences name, text =>
    Manifest.workflowTemplateReferences (Text.lines text) name

/-- How many locations a question needs, if not all. -/
def Query.limit? : Query → Option Nat
  | .templateDefinition _ _ => some 1
  | _ => none

/-- What other tasks do while texts are scanned, by the number of texts so far. -/
structure Meanwhile where
  /-- Whether the request is withdrawn. -/
  withdrawn : Nat → Bool := fun _ => false
  /-- What becomes of the cache of definitions. -/
  definitions : Nat → DefinitionCache → DefinitionCache := fun _ cache => cache
  /-- The turns that the fetches of each batch take, before they go on in rounds. -/
  turns : List (List Nat) := []

/-- How much work was done. -/
structure Effort where
  /-- Files put up for scanning. -/
  files : Nat := 0
  /-- Texts to which a rule was applied. -/
  texts : Nat := 0
  /-- Questions answered from the cache of definitions. -/
  hits : Nat := 0
  deriving DecidableEq, Repr

/-- What was found for a question. -/
structure Answer where
  name : Text
  locations : List Location
  effort : Effort := {}
  deriving DecidableEq, Repr

/-- The state of a scan: the text cache, what was found, and the texts read. -/
structure Scan where
  texts : TextCache
  found : List Location := []
  read : Nat := 0
  deriving DecidableEq, Repr

namespace Scan

/-- Scan a batch of files. They are fetched at once, and what is found counts in their order. -/
def batch (scan : Scan) (moment : Moment) (rule : Rule) (turns : List Nat) (paths : List Path) :
    Scan :=
  let shared := SharedTexts.fetchAll scan.texts moment paths turns
  let texts := paths.zipIdx.filterMap fun (path, id) =>
    (shared.fetches id).text?.map fun text => (path, text)
  { texts := shared.cache
    found := scan.found ++ texts.flatMap fun (path, text) => rule.locations path text
    read := scan.read + texts.length }

/-- Whether enough was found. -/
def isEnough (limit : Option Nat) (scan : Scan) : Bool :=
  match limit with
  | some limit => limit ≤ scan.found.length
  | none => false

/-- Scan batches of files until enough was found. -/
def run (moment : Moment) (rule : Rule) (limit : Option Nat) (turns : List (List Nat))
    (scan : Scan) : List (List Path) → Scan
  | [] => scan
  | paths :: rest =>
    let scan := scan.batch moment rule (turns.headD []) paths
    if scan.isEnough limit then scan else run moment rule limit turns.tail scan rest

end Scan

/-- What answers questions: settings and the caches they shape. -/
structure Navigator where
  settings : SearchSettings
  texts : TextCache
  definitions : DefinitionCache
  deriving DecidableEq, Repr

namespace Navigator

/-- A navigator with empty caches. -/
def ofSettings (settings : SearchSettings) : Navigator :=
  { settings := settings
    texts := { timeout := seconds settings.textSeconds, threshold := settings.sweepThreshold }
    definitions := { timeout := seconds settings.definitionSeconds } }

/-! ## Searching -/

/-- The manifests below a root. -/
def manifests (navigator : Navigator) (moment : Moment) (root : Path) : List Path :=
  Crawl.manifests moment.disk.list? navigator.settings.maxDepth navigator.settings.directoryBatch
    root

/-- Scan files with a rule. -/
def scanFiles (navigator : Navigator) (moment : Moment) (turns : List (List Nat)) (rule : Rule)
    (limit : Option Nat) (files : List Path) : List Location × Effort × Navigator :=
  let scan := Scan.run moment rule limit turns { texts := navigator.texts }
    (batches navigator.settings.fileBatch files)
  (scan.found, { files := files.length, texts := scan.read },
    { navigator with texts := scan.texts })

/-- Answer a question by a scan of the manifests below a root. -/
def search (navigator : Navigator) (moment : Moment) (meanwhile : Meanwhile) (root : Path)
    (query : Query) : Answer × Navigator :=
  let (found, effort, navigator) :=
    navigator.scanFiles moment meanwhile.turns query.rule query.limit?
      (navigator.manifests moment root)
  let locations := match query.limit? with
    | some limit => found.take limit
    | none => found
  ({ name := query.name, locations := locations, effort := effort },
    { navigator with definitions := meanwhile.definitions effort.texts navigator.definitions })

/-- Where a WorkflowTemplate is defined: the answer that is kept, or else a search, whose answer is
kept unless something was invalidated meanwhile. -/
def findDefinition (navigator : Navigator) (moment : Moment) (meanwhile : Meanwhile) (root : Path)
    (name : Text) : Answer × Navigator :=
  match navigator.definitions.lookup? moment.now name with
  | some locations => ({ name := name, locations := locations, effort := { hits := 1 } }, navigator)
  | none =>
    let generation := navigator.definitions.generation
    let (answer, navigator) := navigator.search moment meanwhile root (.definition name)
    (answer,
      { navigator with
        definitions := navigator.definitions.record moment.now generation name answer.locations })

/-- Answer a question about the manifests below a root. -/
def run (navigator : Navigator) (moment : Moment) (meanwhile : Meanwhile) (root : Path) :
    Query → Answer × Navigator
  | .definition name => navigator.findDefinition moment meanwhile root name
  | query => navigator.search moment meanwhile root query

/-! ## Resolving a cursor -/

/-- What the cursor is on, and what was found for it. -/
structure Resolution where
  site : Site
  answer : Answer
  deriving DecidableEq, Repr

/-- Resolve a cursor in a text. A request that is withdrawn gets nothing, but a scan that has
started is finished. The work that was done is told in any case. -/
def resolve (navigator : Navigator) (moment : Moment) (meanwhile : Meanwhile) (root : Path)
    (text : Text) (line column : Nat) : Option Resolution × Effort × Navigator :=
  if meanwhile.withdrawn 0 then (none, {}, navigator)
  else
    match Site.ofCursor? text line column with
    | none => (none, {}, navigator)
    | some site =>
      let (answer, navigator) := navigator.run moment meanwhile root site.query
      let resolution := { site := site, answer := answer }
      (if meanwhile.withdrawn answer.effort.texts then none else some resolution,
        answer.effort, navigator)

/-! ## Invalidation -/

/-- A manifest changed: first the definitions go, then its text. -/
def handleChange (navigator : Navigator) (change : FileChange) : Navigator :=
  { navigator with
    definitions := navigator.definitions.invalidate
    texts := navigator.texts.erase change.path }

/-- Anything may have changed. -/
def invalidateAll (navigator : Navigator) : Navigator :=
  { navigator with
    definitions := navigator.definitions.invalidate
    texts := navigator.texts.clear }

end Navigator

end WorkflowNav
