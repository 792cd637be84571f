/-
Where the symbols of one manifest are.

Four questions about the lines of a manifest: where a WorkflowTemplate is defined, where one of its
templates is defined, and where each is referred to. Answers are line numbers from zero.

The kind line is the anchor of both definition searches. The name in the metadata is searched from
there to the end of the file, so a kind line without a name of its own reports the next matching
name, once per kind line; the search for a template rejects a name beyond its block instead.
-/
import WorkflowNav.Manifest.Block

set_option autoImplicit false

namespace WorkflowNav.Manifest

/-! ## Definitions -/

/-- The kind lines of WorkflowTemplates. -/
def kindLines (lines : List Text) : List Nat := linesWith Marker.workflowTemplate lines

/-- The positions of the name lines of the WorkflowTemplates called `name`, one for each kind line
that finds one. -/
def definitionPositions (lines : List Text) (name : Text) : List Nat :=
  (kindLines lines).filterMap fun kindLine => metadataName? lines kindLine name

/-- The name lines of the WorkflowTemplates called `name`. -/
def definitions (lines : List Text) (name : Text) : List UInt32 :=
  (definitionPositions lines name).map lineNumber

/-- The entry of `template` in the block of a kind line, if that block is named `owner`. -/
def entryInBlock? (lines : List Text) (owner template : Text) (kindLine : Nat) : Option Nat :=
  let stop := blockEnd lines kindLine
  match metadataName? lines kindLine owner with
  | none => none
  | some nameLine =>
    if nameLine < stop then
      (firstIn lines kindLine stop (Text.has Marker.templates)).bind fun listLine =>
        firstIn lines (listLine + 1) stop (isEntryOf template)
    else none

/-- The position of the entry of `template` in the first block of `owner` that has one. -/
def templatePosition? (lines : List Text) (owner template : Text) : Option Nat :=
  (kindLines lines).findSome? (entryInBlock? lines owner template)

/-- The entry of `template` in the first block of `owner` that has one. -/
def templateDefinition? (lines : List Text) (owner template : Text) : Option UInt32 :=
  (templatePosition? lines owner template).map lineNumber

/-! ## References -/

/-- The `template:` lines of the reference blocks that name `owner` and `template`. -/
def templateReferences (lines : List Text) (owner template : Text) : List UInt32 :=
  (linesWith Marker.templateRef lines).filterMap fun refLine =>
    (refBlock lines refLine).templateLine? owner template

/-- How many lines after a `workflowTemplateRef:` are searched for its name. -/
def workflowTemplateRefLines : Nat := 5

/-- The position of the name that a `workflowTemplateRef:` at a position has for `owner`. -/
def wholeRefLine? (lines : List Text) (owner : Text) (refLine : Nat) : Option Nat :=
  firstIn lines (refLine + 1) (refLine + 1 + workflowTemplateRefLines)
    fun line => name? line == some owner

/-- The `name:` lines of references of both kinds that name the WorkflowTemplate `owner`, in the
order of the references. -/
def workflowTemplateReferences (lines : List Text) (owner : Text) : List UInt32 :=
  lines.zipIdx.flatMap fun (line, i) =>
    (if Text.has Marker.templateRef line then ((refBlock lines i).ownerLine? owner).toList else [])
      ++ (if Text.has Marker.workflowTemplateRef line then
            ((wholeRefLine? lines owner i).map lineNumber).toList
          else [])

end WorkflowNav.Manifest
