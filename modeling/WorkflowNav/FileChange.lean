/-
Changes to files.

A change is worth knowing if it is about a manifest. Word of it comes from the editor, with a URI
and a number for the kind of change, or from the file system, with one kind for several paths.
-/
import WorkflowNav.Uri.Basic

set_option autoImplicit false

namespace WorkflowNav

/-- What happened to a file. -/
inductive ChangeKind where
  | created
  | changed
  | deleted
  deriving DecidableEq, Repr

/-- What a file system reports about some paths. A rename is a modification. -/
inductive FileEvent where
  | created
  | modified
  | removed
  /-- Anything that leaves contents alone. -/
  | other
  deriving DecidableEq, Repr

/-- A change to a manifest. -/
structure FileChange where
  path : Path
  kind : ChangeKind
  deriving DecidableEq, Repr

namespace FileChange

/-- The kind that an editor's number stands for. -/
def kindOfNumber (number : Int) : ChangeKind :=
  if number = 1 then .created else if number = 3 then .deleted else .changed

/-- The kind of a file system's report, if it is a change. -/
def kindOfEvent? : FileEvent → Option ChangeKind
  | .created => some .created
  | .modified => some .changed
  | .removed => some .deleted
  | .other => none

/-- The change an editor reports, if it is about a manifest on this machine. -/
def ofEditor? (uri : Uri) (number : Int) : Option FileChange :=
  (uri.toPath?.filter Path.isManifest).map fun path => { path := path, kind := kindOfNumber number }

/-- The changes a file system reports: one for each manifest. -/
def ofFileSystem (event : FileEvent) (paths : List Path) : List FileChange :=
  match kindOfEvent? event with
  | none => []
  | some kind => (paths.filter Path.isManifest).map fun path => { path := path, kind := kind }

end FileChange

/-- Changes on their way to whoever drops stale texts, oldest first, until the receiver goes away.
-/
structure ChangeQueue where
  changes : List FileChange := []
  isOpen : Bool := true
  deriving DecidableEq, Repr

namespace ChangeQueue

/-- Send a change, and whether it was taken. -/
def send (queue : ChangeQueue) (change : FileChange) : ChangeQueue × Bool :=
  if queue.isOpen then ({ queue with changes := queue.changes ++ [change] }, true)
  else (queue, false)

/-- The receiver goes away, and what it had not taken with it. -/
def close (_ : ChangeQueue) : ChangeQueue := { changes := [], isOpen := false }

/-- Take the oldest change. -/
def take? (queue : ChangeQueue) : Option (FileChange × ChangeQueue) :=
  match queue.changes with
  | [] => none
  | change :: rest => some (change, { queue with changes := rest })

end ChangeQueue

end WorkflowNav
