/-
Finding the manifests below a directory.

Directories are read level by level, a batch at a time. All that a read needs to give is the names
in a directory and their kinds, or nothing if it cannot be read, so the crawl is written against any
such listing. Links are of no kind that is entered, which is why it cannot run in circles: a level
only holds directories one step further from the root.

The manifests come out in path order, whatever the order of the reads.
-/
import WorkflowNav.Batch
import WorkflowNav.Disk

set_option autoImplicit false

namespace WorkflowNav.Crawl

open Text (Bytes)

/-- What reading a directory gives: names and kinds, or nothing if it cannot be read. -/
abbrev Listing := Path → Option (List (Bytes × EntryKind))

/-- The manifests in a directory. -/
def manifestsIn (list : Listing) (directory : Path) : List Path :=
  ((list directory).getD []).filterMap fun (name, kind) =>
    if kind = .file ∧ Path.isManifestName (Text.decodeLossy name) then some (directory.join name)
    else none

/-- The directories in a directory that are entered. -/
def directoriesIn (list : Listing) (directory : Path) : List Path :=
  ((list directory).getD []).filterMap fun (name, kind) =>
    if kind = .directory ∧ ¬ Path.isIgnoredName (Text.decodeLossy name) then
      some (directory.join name)
    else none

/-- The manifests and directories in some directories, read a batch at a time. -/
def level (list : Listing) (size : Nat) (directories : List Path) : List Path × List Path :=
  let read := batches size directories
  (read.flatMap (·.flatMap (manifestsIn list)), read.flatMap (·.flatMap (directoriesIn list)))

/-- The manifests in some directories and below them, at most `levels` levels in all. -/
def below (list : Listing) (size : Nat) : Nat → List Path → List Path
  | 0, _ => []
  | _ + 1, [] => []
  | levels + 1, directory :: more =>
    let (manifests, directories) := level list size (directory :: more)
    manifests ++ below list size levels directories

/-- The manifests at most `depth` directories below a root, in path order. -/
def manifests (list : Listing) (depth size : Nat) (root : Path) : List Path :=
  (below list size (depth + 1) [root]).mergeSort Path.le

end WorkflowNav.Crawl
