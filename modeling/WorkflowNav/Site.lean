/-
What stands under the cursor.

Five rules are tried in order and the first that applies decides. Each of the first four looks at
the line of the cursor and at a fixed number of lines around it; only the last looks at the column.
Lines above the cursor are read upwards, nearest first, and a rule that meets a line which closes
its section gives up there.
-/
import WorkflowNav.Manifest.Symbols
import WorkflowNav.Manifest.Token
import WorkflowNav.Query
import WorkflowNav.Text.Lines

set_option autoImplicit false

namespace WorkflowNav

open Manifest

/-- What the cursor is on, in the order of the rules. -/
inductive Site where
  /-- A `- name:` entry in the list of templates of a WorkflowTemplate. -/
  | templateDefinition (owner template : Text)
  /-- The name in the metadata of a WorkflowTemplate. -/
  | workflowTemplateDefinition (name : Text)
  /-- The `template:` line of a reference. -/
  | templateReference (owner template : Text)
  /-- The `name:` line of a reference. -/
  | workflowTemplateReference (name : Text)
  /-- Any other token. -/
  | word (name : Text)
  deriving DecidableEq, Repr

namespace Site

/-! ## What a site asks -/

/-- The question that answers a site: definitions ask for references, all else for a definition. -/
def query : Site → Query
  | templateDefinition owner template => .templateReferences owner template
  | workflowTemplateDefinition name => .workflowTemplateReferences name
  | templateReference owner template => .templateDefinition owner template
  | workflowTemplateReference name => .definition name
  | word name => .definition name

/-- Whether a site is itself a definition. -/
def isDefinition : Site → Bool
  | templateDefinition _ _ => true
  | workflowTemplateDefinition _ => true
  | _ => false

/-! ## How far the rules look -/

/-- Lines above an entry in which its `templates:` is looked for. -/
def templatesReach : Nat := 50

/-- Lines from a kind line on in which its name is looked for, the kind line included. -/
def ownerReach : Nat := 20

/-- Lines above a name in which its kind line is looked for. -/
def metadataReach : Nat := 20

/-- Lines above a `template:` in which its `templateRef:` is looked for. -/
def templateReach : Nat := 15

/-- Lines below a `template:` in which the name beside it is looked for. -/
def siblingReach : Nat := 3

/-- Lines above a `name:` in which its `templateRef:` is looked for. -/
def nameReach : Nat := 5

/-- The least length of a word that is worth a question. -/
def wordLength : Nat := 2

/-! ## The rules -/

/-- The `n` lines above a position, nearest first. -/
def above (lines : List Text) (i n : Nat) : List Text := (lines.take i).reverse.take n

/-- Whether the line lies in a list of templates: going up from the line itself, `templates:` comes
before any line that opens a document. -/
def inTemplates (lines : List Text) (i : Nat) : Bool :=
  let decides (line : Text) :=
    Text.has Marker.templates line || Text.has Marker.kind line || Text.has Marker.apiVersion line
  match (above lines (i + 1) (templatesReach + 1)).find? decides with
  | some line => Text.has Marker.templates line
  | none => false

/-- The name of the nearest WorkflowTemplate, going up from the line itself, that has a name close
below its kind line. -/
def owner? (lines : List Text) (i : Nat) : Option Text :=
  ((kindLines lines).filter (· ≤ i)).reverse.findSome? fun kindLine =>
    ((lines.drop (kindLine + 1)).take (ownerReach - 1)).findSome? name?

/-- Whether the lines above, nearest first, reach a kind line of a WorkflowTemplate past a
`metadata:` and before any other section. -/
def reachesKind (seen : Bool) : List Text → Bool
  | [] => false
  | line :: rest =>
    if Text.has Marker.spec line || Text.has Marker.status line then false
    else
      let seen := seen || Text.has Marker.metadata line
      if Text.has Marker.workflowTemplate line then seen else reachesKind seen rest

/-- Whether the line lies in the metadata of a WorkflowTemplate. -/
def inMetadata (lines : List Text) (i : Nat) : Bool :=
  reachesKind false (above lines i metadataReach)

/-- Whether a `templateRef:` is close above the line, with no list entry in between. -/
def inReference (lines : List Text) (i : Nat) : Bool :=
  let decides (line : Text) := Text.has Marker.templateRef line || isEntry line
  match (above lines i nameReach).find? decides with
  | some line => Text.has Marker.templateRef line
  | none => false

/-- The first rule: an entry in a list of templates. A name that cannot be read as a value is taken
as written. -/
def templateDefinition? (lines : List Text) (i : Nat) (line : Text) : Option Site := do
  let written ← entryText? line
  guard (inTemplates lines i)
  let owner ← owner? lines i
  return .templateDefinition owner ((name? line).getD (Text.trim written))

/-- The second rule: a name in the metadata of a WorkflowTemplate. -/
def workflowTemplateDefinition? (lines : List Text) (i : Nat) (line : Text) : Option Site := do
  guard (inMetadata lines i)
  let name ← name? line
  return .workflowTemplateDefinition name

/-- The third rule: the `template:` of a reference. The name beside it is the first one from its
`templateRef:` down to a few lines below the cursor. -/
def templateReference? (lines : List Text) (i : Nat) (line : Text) : Option Site := do
  let template ← template? line
  let up ← (above lines i templateReach).findIdx? (Text.has Marker.templateRef)
  let owner ← ((lines.drop (i - up)).take (up + 1 + siblingReach)).findSome? fun line =>
    if Text.has Marker.template line then none else name? line
  return .templateReference owner template

/-- The fourth rule: the `name:` of a reference. -/
def workflowTemplateReference? (lines : List Text) (i : Nat) (line : Text) : Option Site := do
  guard (!Text.has Marker.template line && inReference lines i)
  let name ← name? line
  return .workflowTemplateReference name

/-- The last rule: the token at the column. -/
def word? (line : Text) (column : Nat) : Option Site :=
  ((Token.at? line (Text.byteOffset line column)).filter (wordLength ≤ ·.length)).map .word

/-- What stands at a line and UTF-16 column of some lines. -/
def at? (lines : List Text) (i column : Nat) : Option Site := do
  let line ← lines[i]?
  templateDefinition? lines i line
    <|> workflowTemplateDefinition? lines i line
    <|> templateReference? lines i line
    <|> workflowTemplateReference? lines i line
    <|> word? line column

/-- What stands at a line and UTF-16 column of a text. -/
def ofCursor? (text : Text) (i column : Nat) : Option Site := at? (Text.lines text) i column

/-! ## Positions that may be out of range -/

/-- `inTemplates`, or none if there is no such line. -/
def inTemplates? (lines : List Text) (i : Nat) : Option Bool :=
  if i < lines.length then some (inTemplates lines i) else none

/-- `owner?`, or none if there is no such line. -/
def ownerAt? (lines : List Text) (i : Nat) : Option (Option Text) :=
  if i < lines.length then some (owner? lines i) else none

end Site

end WorkflowNav
