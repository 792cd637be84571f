/-
Paths.

A path is kept as it was written, because it is shown that way. Disks know only bytes, so a path is
bytes, and two paths may be shown alike without being the same.

What a path means is the list of its components: repeated slashes, inner dots and a final slash say
nothing, while `..` stays. Two paths are the same if their components are, and paths are ordered
component by component, so that a directory's files stand together whatever the names beside it.
-/
import WorkflowNav.Text.Utf8

set_option autoImplicit false

namespace WorkflowNav

open Text (Bytes)

/-- A part of a path. -/
inductive Component where
  /-- The slash at the front. -/
  | root
  /-- A dot at the front. -/
  | here
  /-- The directory above. -/
  | up
  /-- A named entry. -/
  | name (bytes : Bytes)
  deriving DecidableEq, Repr

/-- A path as written. -/
structure Path where
  bytes : Bytes
  deriving DecidableEq, Repr

namespace Component

/-- The piece of a path that stands for the directory itself. -/
def dot : Bytes := [0x2E]

/-- The piece of a path that stands for the directory above. -/
def dots : Bytes := [0x2E, 0x2E]

/-- The component that a piece between slashes stands for; empty pieces and dots are none. -/
def ofPiece? (piece : Bytes) : Option Component :=
  if piece = [] ∨ piece = dot then none
  else if piece = dots then some up
  else some (name piece)

/-- The bytes of a component; the root has none of its own. -/
def bytes : Component → Bytes
  | root => []
  | here => dot
  | up => dots
  | name bytes => bytes

/-- The place of a kind of component in the order. -/
def rank : Component → Nat
  | root => 0
  | here => 1
  | up => 2
  | name _ => 3

/-- The order of components: by kind, and names by their bytes. -/
def compare (a b : Component) : Ordering :=
  match a, b with
  | name s, name t => if s < t then .lt else if s = t then .eq else .gt
  | _, _ => Ord.compare a.rank b.rank

end Component

namespace Path

/-- The byte that divides a path. -/
def slash : UInt8 := 0x2F

/-- The path that a text writes. -/
def ofText (text : Text) : Path := ⟨Text.encode text⟩

/-- The text that shows a path. Bytes that are no text are shown as replacement characters. -/
def toText (path : Path) : Text := Text.decodeLossy path.bytes

/-- The components of a path. -/
def components (path : Path) : List Component :=
  let pieces := cut slash path.bytes
  let front :=
    match pieces with
    | [] :: _ :: _ => [Component.root]
    | first :: _ => if first = Component.dot then [Component.here] else []
    | [] => []
  front ++ pieces.filterMap Component.ofPiece?

/-- Whether the path starts at the root. -/
def isAbsolute (path : Path) : Bool := path.bytes.head? == some slash

/-- The name of the entry that a path leads to, if it ends in a name. -/
def fileName? (path : Path) : Option Bytes :=
  match path.components.getLast? with
  | some (.name bytes) => some bytes
  | _ => none

/-- A name inside a directory. -/
def join (path : Path) (name : Bytes) : Path :=
  if path.bytes = [] ∨ path.bytes.getLast? = some slash then ⟨path.bytes ++ name⟩
  else ⟨path.bytes ++ slash :: name⟩

/-- A name given as a text inside a directory. -/
def child (path : Path) (name : Text) : Path := path.join (Text.encode name)

/-- The path with the given components. -/
def ofComponents : List Component → Path
  | .root :: rest => ⟨slash :: [slash].intercalate (rest.map Component.bytes)⟩
  | components => ⟨[slash].intercalate (components.map Component.bytes)⟩

/-- The directories above a path, the nearest first. -/
def above (path : Path) : List Path :=
  let components := path.components
  ((List.range components.length).drop 1).reverse.map fun i => ofComponents (components.take i)

/-- The order of lists of components. -/
def compareComponents : List Component → List Component → Ordering
  | [], [] => .eq
  | [], _ :: _ => .lt
  | _ :: _, [] => .gt
  | a :: as, b :: bs =>
    match a.compare b with
    | .eq => compareComponents as bs
    | order => order

/-- Whether a path stands at or before another. -/
def le (a b : Path) : Bool := compareComponents a.components b.components != .gt

/-! ## Manifests and directories -/

/-- The endings of manifest names. -/
def manifestEndings : List Text := [".yaml".toList, ".yml".toList]

/-- Whether a file name is that of a manifest. -/
def isManifestName (name : Text) : Bool := manifestEndings.any (·.isSuffixOf name)

/-- Whether a path leads to a manifest, by its name. -/
def isManifest (path : Path) : Bool :=
  match path.fileName? with
  | some name => isManifestName (Text.decodeLossy name)
  | none => false

/-- Directories that hold no sources. -/
def ignoredNames : List Text :=
  ["node_modules".toList, ".git".toList, ".vscode".toList, "dist".toList, "build".toList,
    "out".toList, "target".toList]

/-- Whether a directory is passed over: by its name, or because it is hidden. -/
def isIgnoredName (name : Text) : Bool := ignoredNames.contains name || name.head? == some '.'

end Path

end WorkflowNav
