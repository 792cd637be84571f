/-
Sample workspaces.

A sample workspace has libraries, each a WorkflowTemplate with some templates, and callers, each a
Workflow whose steps refer to templates of the libraries. Everything in it follows from five
numbers, so where a step leads and on which line it stands can be told without reading the files.

Line numbers have 32 bits and counts 64 bits. A count is cut to 32 bits before a line is computed
from it; a line or a count that grows past its bits does not exist.
-/
import WorkflowNav.Disk
import WorkflowNav.Text.Number

set_option autoImplicit false

namespace WorkflowNav

/-- The numbers that determine a sample workspace. -/
structure Sample where
  libraries : Nat
  templates : Nat
  callers : Nat
  stepsPerCaller : Nat
  /-- Lines of padding at the end of each file. -/
  padding : Nat
  deriving DecidableEq, Repr

namespace Sample

/-! ## Sizes -/

/-- A workspace for quick checks. -/
def small : Sample := ⟨5, 3, 10, 2, 5⟩

/-- A workspace of a hundred files. -/
def medium : Sample := ⟨25, 5, 75, 4, 20⟩

/-- A workspace of four hundred files. -/
def large : Sample := ⟨100, 10, 300, 8, 50⟩

/-! ## Names and places -/

/-- The name of a library. -/
def libraryName (library : Nat) : Text := "wft-".toList ++ Text.ofNat library

/-- The name of a template of a library. -/
def templateName (library template : Nat) : Text :=
  "tpl-".toList ++ Text.ofNat library ++ '-' :: Text.ofNat template

/-- The file of a library. -/
def libraryPath (root : Path) (library : Nat) : Path :=
  (root.child "lib".toList).child ("wft_".toList ++ Text.ofNat library ++ ".yaml".toList)

/-- The file of a caller. -/
def callerPath (root : Path) (caller : Nat) : Path :=
  (root.child "callers".toList).child ("caller_".toList ++ Text.ofNat caller ++ ".yaml".toList)

/-- The line of the name of every library. -/
def definitionLine : Nat := 3

/-- The number of 32-bit line numbers. -/
def lineLimit : Nat := 4294967296

/-- The number of 64-bit counts. -/
def countLimit : Nat := 18446744073709551616

/-- A line number, if it exists. -/
def line? (line : Nat) : Option Nat := if line < lineLimit then some line else none

/-- The line of the entry of a template. -/
def templateLine? (template : Nat) : Option Nat := line? (6 + 3 * (template % lineLimit))

/-- The line of the `template:` of a step. -/
def stepLine? (step : Nat) : Option Nat := line? (12 + 4 * (step % lineLimit))

/-- The library and template that a step of a caller refers to; none if there is no library or no
template, or if the step cannot be counted. -/
def target? (sample : Sample) (caller step : Nat) : Option (Nat × Nat) :=
  if sample.libraries = 0 ∨ sample.templates = 0 ∨ countLimit ≤ caller + step then none
  else some ((caller + step) % sample.libraries, step % sample.templates)

/-! ## Files -/

/-- Lines, each with its end. -/
def unlines (lines : List Text) : Text := lines.flatMap (· ++ ['\n'])

/-- The lines of padding. -/
def paddingLines (sample : Sample) : List Text :=
  (List.range sample.padding).map fun i => "# padding line ".toList ++ Text.ofNat i

/-- The lines of a library. -/
def libraryLines (sample : Sample) (library : Nat) : List Text :=
  ["apiVersion: argoproj.io/v1alpha1".toList, "kind: WorkflowTemplate".toList, "metadata:".toList,
    "  name: ".toList ++ libraryName library, "spec:".toList, "  templates:".toList]
  ++ (List.range sample.templates).flatMap (fun template =>
    ["  - name: ".toList ++ templateName library template, "    container:".toList,
      "      image: alpine:3.".toList ++ Text.ofNat template])
  ++ sample.paddingLines

/-- The lines of a step that refers to a template of a library. -/
def stepLines (step library template : Nat) : List Text :=
  ["    - - name: step-".toList ++ Text.ofNat step, "        templateRef:".toList,
    "          name: ".toList ++ libraryName library,
    "          template: ".toList ++ templateName library template]

/-- The lines of a caller; none if its steps have nothing to refer to. -/
def callerLines? (sample : Sample) (caller : Nat) : Option (List Text) := do
  let steps ← (List.range sample.stepsPerCaller).mapM fun step =>
    (sample.target? caller step).map fun (library, template) => stepLines step library template
  return ["apiVersion: argoproj.io/v1alpha1".toList, "kind: Workflow".toList, "metadata:".toList,
      "  generateName: caller-".toList ++ Text.ofNat caller ++ "-".toList, "spec:".toList,
      "  entrypoint: main".toList, "  templates:".toList, "  - name: main".toList,
      "    steps:".toList]
    ++ steps.flatten ++ sample.paddingLines

/-- The directories of a sample workspace. -/
def directories (root : Path) : List Path := [root.child "lib".toList, root.child "callers".toList]

/-- The files of a sample workspace and their texts; none if steps have nothing to refer to. -/
def files? (sample : Sample) (root : Path) : Option (List (Path × Text)) := do
  let callers ← (List.range sample.callers).mapM fun caller =>
    (sample.callerLines? caller).map fun lines => (callerPath root caller, unlines lines)
  return (List.range sample.libraries).map
      (fun library => (libraryPath root library, unlines (sample.libraryLines library)))
    ++ callers

/-- The disk with a sample workspace written below a root: first the directories, then the files.
None if steps have nothing to refer to, or if the disk refuses a part of it. -/
def write? (sample : Sample) (disk : Disk) (root : Path) : Option Disk := do
  let files ← sample.files? root
  let disk ← (directories root).foldlM (fun disk path => (disk.makeDirectory path).done?) disk
  files.foldlM (fun disk (path, text) => (disk.writeFile path (Text.encode text)).done?) disk

end Sample

end WorkflowNav
