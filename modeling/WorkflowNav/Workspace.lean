/-
What an editor has open.

Documents by their URIs, the folders of the workspace, the settings, and the navigator that was made
from them. The first folder is the one that is searched.

The navigator always runs under the current settings. It is made anew, with empty caches, exactly
when a setting that shapes the search changes.
-/
import WorkflowNav.Document
import WorkflowNav.Navigator

set_option autoImplicit false

namespace WorkflowNav

/-- What an editor has open. -/
structure Workspace where
  documents : List (Uri × Document) := []
  folders : List Uri := []
  settings : Settings
  navigator : Navigator
  deriving DecidableEq, Repr

namespace Workspace

/-- An empty workspace. -/
def ofSettings (settings : Settings) : Workspace :=
  { settings := settings, navigator := .ofSettings settings.search }

/-- Take over new settings. -/
def configure (workspace : Workspace) (settings : Settings) : Workspace :=
  { workspace with
    settings := settings
    navigator :=
      if workspace.settings.changesSearch settings then .ofSettings settings.search
      else workspace.navigator }

/-- The open document of a URI. -/
def document? (workspace : Workspace) (uri : Uri) : Option Document :=
  Keyed.get? uri workspace.documents

/-- Open a document, or replace it. -/
def openDocument (workspace : Workspace) (uri : Uri) (text : Text) (version : Option Int) :
    Workspace :=
  { workspace with
    documents := Keyed.put uri { text := text, version := version } workspace.documents }

/-- Close a document. -/
def closeDocument (workspace : Workspace) (uri : Uri) : Workspace :=
  { workspace with documents := Keyed.erase uri workspace.documents }

/-- Change an open document; without one nothing happens. -/
def updateDocument (workspace : Workspace) (uri : Uri) (change : Document → Document) : Workspace :=
  match workspace.document? uri with
  | some document =>
    { workspace with documents := Keyed.put uri (change document) workspace.documents }
  | none => workspace

/-- Edit an open document. -/
def editDocument (workspace : Workspace) (uri : Uri) (edit : Edit) : Workspace :=
  workspace.updateDocument uri fun document => document.apply edit

/-- Add a folder after the others. -/
def addFolder (workspace : Workspace) (uri : Uri) : Workspace :=
  { workspace with folders := workspace.folders ++ [uri] }

/-- The directory that is searched: the first folder, if it is on this machine. -/
def root? (workspace : Workspace) : Option Path := workspace.folders.head?.bind Uri.toPath?

end Workspace

end WorkflowNav
