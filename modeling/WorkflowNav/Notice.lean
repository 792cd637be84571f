/-
Messages shown to the user.

A lookup that finds nothing, or more than one definition, is worth a message, and so is the result
of a search for the references to a template. Settings can switch each of them off, and two names
are so common that not finding them is no news.
-/
import WorkflowNav.Settings
import WorkflowNav.Site
import WorkflowNav.Text.Number

set_option autoImplicit false

namespace WorkflowNav

/-- How much a message matters. -/
inductive Severity where
  | warning
  | info
  deriving DecidableEq, Repr

/-- A message for the user. -/
inductive Notice where
  /-- The WorkflowTemplate was not found. -/
  | notFound (name : Text)
  /-- The WorkflowTemplate has several definitions. -/
  | multipleDefinitions (name : Text) (count : Nat)
  /-- The template has references. -/
  | references (owner template : Text) (count : Nat)
  /-- The template has no references. -/
  | noReferences (owner template : Text)
  deriving DecidableEq, Repr

namespace Notice

/-- Names that may be missing without a message. -/
def quietNames : List Text := ["main".toList, "default".toList]

/-- The message after a lookup that found `count` locations for a name. -/
def ofLookup? (settings : NoticeSettings) (name : Text) (count : Nat) : Option Notice :=
  if count = 0 then
    if settings.notFound && !quietNames.contains name then some (.notFound name) else none
  else if 1 < count && settings.multipleDefinitions then some (.multipleDefinitions name count)
  else none

/-- The message after a search for references that tells the editor of `count` links. Only a search
from the definition of a template has one. -/
def ofReferences? (settings : NoticeSettings) (site : Site) (count : Nat) : Option Notice :=
  match site with
  | .templateDefinition owner template =>
    if settings.references then
      some (if count = 0 then .noReferences owner template else .references owner template count)
    else none
  | _ => none

/-- How much a message matters. -/
def severity : Notice → Severity
  | notFound _ => .warning
  | multipleDefinitions _ _ => .info
  | references _ _ _ => .info
  | noReferences _ _ => .warning

/-- The words of a message. -/
def message : Notice → Text
  | notFound name => "WorkflowTemplate '".toList ++ name ++ "' not found.".toList
  | multipleDefinitions name count =>
    "Found ".toList ++ Text.ofNat count ++ " WorkflowTemplate definitions for '".toList ++ name
      ++ "'".toList
  | references owner template count =>
    "Found ".toList ++ Text.ofNat count ++ " reference(s) to template '".toList ++ template
      ++ "' from WorkflowTemplate '".toList ++ owner ++ "'".toList
  | noReferences owner template =>
    "No references found for template '".toList ++ template
      ++ "' from WorkflowTemplate '".toList ++ owner ++ "'".toList

end Notice

end WorkflowNav
