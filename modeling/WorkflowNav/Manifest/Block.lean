/-
Blocks of lines.

A file may hold several documents, and a document is found from its kind line: its block runs from
there to the next line that opens a document. Two things are searched in and around a block, the
name in its metadata and the lines after a `templateRef:`. Both look at a fixed stretch of lines, so
this file is about first positions in a stretch: `firstIn` is the only search, over lines or over
pairs of a line and the one after it.

Searches go by positions, but what is found is reported by line number, and a line number has 32
bits.
-/
import WorkflowNav.Manifest.Line

set_option autoImplicit false

namespace WorkflowNav.Manifest

/-! ## First positions -/

/-- The first position from `lo` up to but without `hi` whose element passes the test. -/
def firstIn {α : Type} (xs : List α) (lo hi : Nat) (test : α → Bool) : Option Nat :=
  (((xs.take hi).drop lo).findIdx? test).map (lo + ·)

/-- Each line with the one after it. -/
def adjacent (lines : List Text) : List (Text × Text) := lines.zip lines.tail

/-- The positions of the lines in which a marker stands. -/
def linesWith (marker : Text) (lines : List Text) : List Nat :=
  lines.zipIdx.filterMap fun (line, i) => if Text.has marker line then some i else none

/-- The number by which the line at a position is reported. It has 32 bits, so that lines beyond the
last number are counted from zero again. -/
def lineNumber (i : Nat) : UInt32 := UInt32.ofNat i

/-! ## Documents -/

/-- Whether a line opens a document: a kind line, or a version line right after a separator. -/
def opensDocument (previous : Option Text) (line : Text) : Bool :=
  Marker.kind.isPrefixOf line
    || (Marker.apiVersion.isPrefixOf line && previous == some Marker.separator)

/-- Whether the line at a position opens a document; none if there is no such line. -/
def isBoundary? (lines : List Text) (i : Nat) : Option Bool :=
  lines[i]?.map (opensDocument (if i = 0 then none else lines[i - 1]?))

/-- The position after the block of the kind line at `kindLine`. -/
def blockEnd (lines : List Text) (kindLine : Nat) : Nat :=
  match firstIn (adjacent lines) kindLine lines.length
      fun (previous, line) => opensDocument (some previous) line with
  | some i => i + 1
  | none => lines.length

/-- The first line from `start` on that follows a `metadata:` line and names `name`. The first line
of a file follows none. -/
def metadataName? (lines : List Text) (start : Nat) (name : Text) : Option Nat :=
  (firstIn (adjacent lines) (start - 1) lines.length fun (previous, line) =>
    Text.has Marker.metadata previous && name? line == some name).map (· + 1)

/-! ## Reference blocks -/

/-- How many lines after a `templateRef:` belong to it. -/
def refBlockLines : Nat := 10

/-- The lines that belong to the `templateRef:` at a position, with their positions. A new list
item ends them, except as the first line. -/
def refBody (lines : List Text) (refLine : Nat) : List (Text × Nat) :=
  match (lines.zipIdx.drop (refLine + 1)).take refBlockLines with
  | [] => []
  | first :: rest => first :: rest.takeWhile fun (line, _) => !isNewItem line

/-- What a `templateRef:` names, each with where it stands. -/
structure RefBlock (ι : Type) where
  owner : Option (Text × ι)
  template : Option (Text × ι)
  deriving DecidableEq, Repr

namespace RefBlock

variable {ι κ : Type}

/-- The same names, with another way to tell where they stand. -/
def map (tell : ι → κ) (block : RefBlock ι) : RefBlock κ :=
  { owner := block.owner.map fun (w, i) => (w, tell i)
    template := block.template.map fun (t, i) => (t, tell i) }

/-- Where the owner stands, if it is `owner`. -/
def ownerLine? (block : RefBlock ι) (owner : Text) : Option ι :=
  match block.owner with
  | some (w, i) => if w = owner then some i else none
  | none => none

/-- Where the template stands, if it is `template` and the owner is `owner`. -/
def templateLine? (block : RefBlock ι) (owner template : Text) : Option ι :=
  match block.owner, block.template with
  | some (w, _), some (t, i) => if w = owner ∧ t = template then some i else none
  | _, _ => none

end RefBlock

/-- What the `templateRef:` at a position names, with positions. The first line with a `name:` and
no `template:` decides about the owner, whether its value can be read or not; the template is the
first that can be read. -/
def refPositions (lines : List Text) (refLine : Nat) : RefBlock Nat :=
  let body := refBody lines refLine
  { owner :=
      (body.find? fun (line, _) => Text.has Marker.name line && !Text.has Marker.template line).bind
        fun (line, i) => (name? line).map fun value => (value, i)
    template := body.findSome? fun (line, i) => (template? line).map fun value => (value, i) }

/-- Read the block of the `templateRef:` at a position. -/
def refBlock (lines : List Text) (refLine : Nat) : RefBlock UInt32 :=
  (refPositions lines refLine).map lineNumber

end WorkflowNav.Manifest
