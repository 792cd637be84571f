/-
Questions about a workspace.

A query names what is looked for. A template is named by its WorkflowTemplate, its owner, and its
own name; a WorkflowTemplate by its name alone.
-/
import WorkflowNav.Text.Basic

set_option autoImplicit false

namespace WorkflowNav

/-- What is looked for in the workspace. -/
inductive Query where
  /-- Where the WorkflowTemplate is defined. -/
  | definition (name : Text)
  /-- Where the template is defined in its WorkflowTemplate. -/
  | templateDefinition (owner template : Text)
  /-- Where the template is referred to. -/
  | templateReferences (owner template : Text)
  /-- Where the WorkflowTemplate is referred to. -/
  | workflowTemplateReferences (name : Text)
  deriving DecidableEq, Repr

/-- The name a query is reported under: that of the template, if it is about one. -/
def Query.name : Query → Text
  | .definition name => name
  | .templateDefinition _ template => template
  | .templateReferences _ template => template
  | .workflowTemplateReferences name => name

end WorkflowNav
