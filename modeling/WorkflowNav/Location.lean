/-
Places in files, and how an editor is told of them.

The search finds lines of files. An editor names a file by its URI, so a line of a file whose path
is not absolute cannot be shown and is left out. Columns are not tracked: an editor goes to the
start of the line.
-/
import WorkflowNav.Site
import WorkflowNav.Uri.Basic

set_option autoImplicit false

namespace WorkflowNav

/-- A line of a file, counted from zero. -/
structure Location where
  path : Path
  line : UInt32
  deriving DecidableEq, Repr

/-- The start of a line in a document, as an editor names it. -/
structure Link where
  uri : Uri
  line : Nat
  deriving DecidableEq, Repr

namespace Location

/-- The link to a location. -/
def toLink? (location : Location) : Option Link :=
  (Uri.ofPath? location.path).map fun uri => { uri := uri, line := location.line.toNat }

end Location

/-- What an editor is told on a request for a definition. -/
inductive DefinitionReply where
  | nothing
  | one (link : Link)
  | many (links : List Link)
  deriving DecidableEq, Repr

namespace Reply

/-- The links to locations, in their order. -/
def links (locations : List Location) : List Link := locations.filterMap Location.toLink?

/-- The reply to a request for a definition: a single link stands for itself. -/
def definition (locations : List Location) : DefinitionReply :=
  match links locations with
  | [] => .nothing
  | [link] => .one link
  | links => .many links

/-- The reply to a request for references. If asked for, the line of the cursor comes first when it
is a definition. -/
def references (site : Site) (locations : List Location) (cursor : Link)
    (withDeclaration : Bool) : List Link :=
  (if withDeclaration && site.isDefinition then [cursor] else []) ++ links locations

end Reply

end WorkflowNav
