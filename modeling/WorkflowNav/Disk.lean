/-
A disk.

A disk is a tree of directories, files and symbolic links. It is kept flat: every entry stands under
its place, the names that lead to it from the root. Places are free of dots and links; a path may
hold both, and `locate` walks it to a place the way an operating system does, piece by piece, with
the same complaints in the same order.

The last piece of a path may be missing, since a file can be made there. Whoever needs it to exist
asks for the entry.

An operation that changes a disk takes several steps, and what was done before a step failed stays
done. So it gives the disk it leaves together with its complaint.
-/
import WorkflowNav.Keyed
import WorkflowNav.Path

set_option autoImplicit false

namespace WorkflowNav

open Text (Bytes)

/-- The names that lead to an entry from the root. -/
abbrev Place := List Bytes

/-- What stands at a place. -/
inductive Entry where
  | file (bytes : Bytes)
  | directory
  | link (target : Path)
  deriving DecidableEq, Repr

/-- What a directory tells about an entry without following it. -/
inductive EntryKind where
  | file
  | directory
  | other
  deriving DecidableEq, Repr

/-- Why a path leads nowhere. -/
inductive DiskError where
  | notFound
  | notDirectory
  | isDirectory
  | nameTooLong
  | tooManyLinks
  | taken
  | invalid
  | notEmpty
  | nulInName
  deriving DecidableEq, Repr

namespace DiskError

/-- The words of the operating system for an error, with its number. -/
def message : DiskError → String
  | notFound => "No such file or directory (os error 2)"
  | notDirectory => "Not a directory (os error 20)"
  | isDirectory => "Is a directory (os error 21)"
  | nameTooLong => "File name too long (os error 36)"
  | tooManyLinks => "Too many levels of symbolic links (os error 40)"
  | taken => "File exists (os error 17)"
  | invalid => "Invalid argument (os error 22)"
  | notEmpty => "Directory not empty (os error 39)"
  | nulInName => "file name contained an unexpected NUL byte"

end DiskError

/-- The kind of an entry. -/
def Entry.kind : Entry → EntryKind
  | file _ => .file
  | directory => .directory
  | link _ => .other

/-- A disk: its entries by place. The root is always there. -/
structure Disk where
  entries : List (Place × Entry) := []
  deriving DecidableEq, Repr

namespace Disk

/-! ## From a path to a place -/

/-- The longest name of an entry, in bytes. -/
def nameLimit : Nat := 255

/-- The longest path, in bytes. -/
def pathLimit : Nat := 4095

/-- How many links one path may lead through. -/
def linkLimit : Nat := 40

/-- The entry at a place. -/
def get? (disk : Disk) (place : Place) : Option Entry :=
  if place = [] then some .directory else Keyed.get? place disk.entries

/-- The pieces of a path between its slashes. -/
def pieces (path : Path) : List Bytes := (cut Path.slash path.bytes).filter (· ≠ [])

/-- Whether a path ends in a slash. -/
def isSlashed (path : Path) : Bool := path.bytes.getLast? == some Path.slash

/-- The pieces of a path to walk. A slash at the end asks for a directory, as a dot does. -/
def steps (path : Path) : List Bytes :=
  pieces path ++ if isSlashed path then [Component.dot] else []

/-- Walk pieces from a place, through at most `links` links. A link at the end is followed if
`follow` says so. -/
def walk (disk : Disk) (follow : Bool) (links : Nat) (here : Place) :
    List Bytes → Except DiskError Place
  | [] => .ok here
  | piece :: rest =>
    if disk.get? here ≠ some .directory then .error .notDirectory
    else if piece = Component.dot then walk disk follow links here rest
    else if piece = Component.dots then walk disk follow links here.dropLast rest
    else if nameLimit < piece.length then .error .nameTooLong
    else
      match disk.get? (here ++ [piece]) with
      | none => if rest.isEmpty then .ok (here ++ [piece]) else .error .notFound
      | some (.link target) =>
        if rest.isEmpty && !follow then .ok (here ++ [piece])
        else
          match links with
          | 0 => .error .tooManyLinks
          | links + 1 =>
            walk disk follow links (if target.isAbsolute then [] else here) (steps target ++ rest)
      | some _ => walk disk follow links (here ++ [piece]) rest
  termination_by pieces => (links, pieces.length)

/-- Complain about a path that no disk can hold. There is no working directory here, so that a path
that is not absolute leads nowhere. -/
def check (path : Path) : Except DiskError Unit :=
  if path.bytes.contains 0 then .error .nulInName
  else if pathLimit < path.bytes.length then .error .nameTooLong
  else if !path.isAbsolute then .error .notFound
  else .ok ()

/-- The place a path leads to. -/
def locate (disk : Disk) (follow : Bool) (path : Path) : Except DiskError Place := do
  check path
  disk.walk follow linkLimit [] (steps path)

/-- Whether a path leads to a directory. -/
def isDirectory (disk : Disk) (path : Path) : Bool :=
  match disk.locate true path with
  | .ok place => disk.get? place = some .directory
  | .error _ => false

/-! ## Reading -/

/-- The bytes of the file at a path. -/
def read (disk : Disk) (path : Path) : Except DiskError Bytes := do
  let place ← disk.locate true path
  match disk.get? place with
  | some (.file bytes) => return bytes
  | some .directory => throw .isDirectory
  | some (.link _) => throw .tooManyLinks
  | none => throw .notFound

/-- The names in the directory at a place and their kinds. -/
def children (disk : Disk) (place : Place) : List (Bytes × EntryKind) :=
  disk.entries.filterMap fun (other, entry) =>
    match place.isPrefixOf? other with
    | some [name] => some (name, entry.kind)
    | _ => none

/-- The names in the directory at a path and their kinds, if it can be read. -/
def list? (disk : Disk) (path : Path) : Option (List (Bytes × EntryKind)) :=
  match disk.locate true path with
  | .error _ => none
  | .ok place =>
    if disk.get? place = some .directory then some (disk.children place) else none

/-! ## Changing -/

/-- What an operation leaves: a disk, and a complaint unless it went through. -/
structure Attempt where
  disk : Disk
  error : Option DiskError := none
  deriving DecidableEq, Repr

/-- Go on with the disk that an operation leaves, if it went through. -/
def Attempt.andThen (attempt : Attempt) (next : Disk → Attempt) : Attempt :=
  match attempt.error with
  | some _ => attempt
  | none => next attempt.disk

/-- The disk that an operation leaves, if it went through. -/
def Attempt.done? (attempt : Attempt) : Option Disk :=
  match attempt.error with
  | some _ => none
  | none => some attempt.disk

/-- Leave a disk as it is, with a complaint. -/
def fail (disk : Disk) (error : DiskError) : Attempt := { disk := disk, error := some error }

/-- Put an entry at a place. -/
def put (disk : Disk) (place : Place) (entry : Entry) : Disk :=
  { disk with entries := Keyed.put place entry disk.entries }

/-- The directory that holds the last piece of a path, and that piece. The piece may be dots. -/
def parent (disk : Disk) (path : Path) : Except DiskError (Place × Bytes) := do
  check path
  match (pieces path).getLast? with
  | none => return ([], Component.dot)
  | some last =>
    let place ← disk.walk true linkLimit [] ((pieces path).dropLast)
    match disk.get? place with
    | some .directory => return (place, last)
    | some _ => throw .notDirectory
    | none => throw .notFound

/-- The place for a new entry at a path. -/
def vacancy (disk : Disk) (path : Path) : Except DiskError Place := do
  let (place, last) ← disk.parent path
  if last = Component.dot ∨ last = Component.dots then throw .taken
  else if nameLimit < last.length then throw .nameTooLong
  else if (disk.get? (place ++ [last])).isSome then throw .taken
  else return place ++ [last]

/-- Make one directory. -/
def makeOne (disk : Disk) (path : Path) : Attempt :=
  match disk.vacancy path with
  | .ok place => { disk := disk.put place .directory }
  | .error error => disk.fail error

/-- Make one directory unless there is one. -/
def makeMissing (disk : Disk) (path : Path) : Attempt :=
  let attempt := disk.makeOne path
  if attempt.error.isSome && disk.isDirectory path then { disk := disk } else attempt

/-- Make a directory, given with those above it. Those are made first if they are missing. -/
def makeAll (disk : Disk) : List Path → Attempt
  | [] => disk.fail .notFound
  | path :: above =>
    if (disk.makeOne path).error = some .notFound then
      (makeAll disk above).andThen (·.makeMissing path)
    else disk.makeMissing path

/-- Make the directory at a path and those above it. -/
def makeDirectory (disk : Disk) (path : Path) : Attempt := makeAll disk (path :: path.above)

/-- Make the directories above a path. -/
def makeAbove (disk : Disk) (path : Path) : Attempt :=
  match path.above with
  | [] => { disk := disk }
  | above => makeAll disk above

/-- Write the file at a path, in a directory that is there. -/
def writeFile (disk : Disk) (path : Path) (bytes : Bytes) : Attempt :=
  match disk.locate true path with
  | .error error => disk.fail error
  | .ok place =>
    if disk.get? place = some .directory then disk.fail .isDirectory
    else { disk := disk.put place (.file bytes) }

/-- Write the file at a path. The directories above it are made first. -/
def write (disk : Disk) (path : Path) (bytes : Bytes) : Attempt :=
  (disk.makeAbove path).andThen (·.writeFile path bytes)

/-- Make a link at a path. The directories above it are made first. -/
def makeLink (disk : Disk) (path target : Path) : Attempt :=
  (disk.makeAbove path).andThen fun disk =>
    if target.bytes.contains 0 then disk.fail .nulInName
    else if pathLimit < target.bytes.length then disk.fail .nameTooLong
    else
      match disk.vacancy path with
      | .error error => disk.fail error
      | .ok place =>
        if isSlashed path then disk.fail .notFound else { disk := disk.put place (.link target) }

/-- The disk without an entry. -/
def erase (disk : Disk) (place : Place) : Disk :=
  { disk with entries := Keyed.erase place disk.entries }

/-- The disk without what is below a place. -/
def clear (disk : Disk) (place : Place) : Disk :=
  { disk with
    entries := disk.entries.filter fun pair => pair.1 = place || !place.isPrefixOf pair.1 }

/-- Remove an empty directory. One that is not there need not be removed, a path that ends in dots
does not say which to remove, and a link is none. -/
def removeOne (disk : Disk) (path : Path) : Attempt :=
  match disk.parent path with
  | .error .notFound => { disk := disk }
  | .error error => disk.fail error
  | .ok (place, last) =>
    if last = Component.dot then disk.fail .invalid
    else if last = Component.dots then disk.fail .notEmpty
    else
      match disk.get? (place ++ [last]) with
      | none => { disk := disk }
      | some .directory => { disk := disk.erase (place ++ [last]) }
      | some _ => disk.fail .notDirectory

/-- Remove what stands at a path. Of a directory what is below it goes first. A link is removed
itself. -/
def remove (disk : Disk) (path : Path) : Attempt :=
  match disk.locate false path with
  | .error error => disk.fail error
  | .ok place =>
    match disk.get? place with
    | none => disk.fail .notFound
    | some .directory => (disk.clear place).removeOne path
    | some _ => { disk := disk.erase place }

end Disk

end WorkflowNav
