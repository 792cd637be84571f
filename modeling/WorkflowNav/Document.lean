/-
Open documents.

An editor sends edits, not whole texts: the range from one position to another is replaced. A
position is a row and a UTF-16 column in it. A column past the end of a row stands for the end of
its content, a row past the last one for the end of the text, and a range whose end comes before its
start is empty.
-/
import WorkflowNav.Text.Column
import WorkflowNav.Text.Lines

set_option autoImplicit false

namespace WorkflowNav

/-- A place in a document. -/
structure Position where
  row : Nat
  column : Nat
  deriving DecidableEq, Repr

/-- A stretch of a document. -/
structure Range where
  start : Position
  stop : Position
  deriving DecidableEq, Repr

/-- A change to a document: a range, or everything, is replaced by a text. -/
structure Edit where
  range : Option Range
  text : Text
  deriving DecidableEq, Repr

/-- An open document. -/
structure Document where
  text : Text
  version : Option Int
  deriving DecidableEq, Repr

namespace Document

/-- The number of characters before a position in rows. -/
def offsetIn : List Text → Position → Nat
  | [], _ => 0
  | row :: rest, position =>
    match position.row with
    | 0 => Text.charOffset (Text.rowContent row) position.column
    | n + 1 => row.length + offsetIn rest { position with row := n }

/-- The number of characters before a position. -/
def offset (text : Text) (position : Position) : Nat := offsetIn (Text.rows text) position

/-- The text after an edit. -/
def editText (text : Text) (edit : Edit) : Text :=
  match edit.range with
  | none => edit.text
  | some range =>
    let start := offset text range.start
    let stop := max start (offset text range.stop)
    text.take start ++ edit.text ++ text.drop stop

/-- The document after an edit. Its version is set by whoever sent the edit. -/
def apply (document : Document) (edit : Edit) : Document :=
  { document with text := editText document.text edit }

end Document

end WorkflowNav
