/-
Two ways to cut a text into lines.

Reading and editing do not agree on what ends a line. A manifest is read by `lines`: a line ends at
a line feed, one carriage return right before it goes with it, and nothing follows a final line
feed. A document is edited by `rows`: a row ends at any of the breaks of the Unicode standard,
keeps its break, and the text after the last break is a row too, so there is always at least one.
-/
import WorkflowNav.Text.Basic

set_option autoImplicit false

namespace WorkflowNav.Text

/-! ## Lines, for reading -/

/-- The lines of a text, without their ends. -/
def lines : Text → List Text
  | [] => []
  | '\n' :: rest => [] :: lines rest
  | '\r' :: '\n' :: rest => [] :: lines rest
  | c :: rest =>
    match lines rest with
    | [] => [[c]]
    | line :: more => (c :: line) :: more

/-! ## Rows, for editing -/

/-- Characters that end a row on their own: line feed, vertical tab, form feed, carriage return,
next line, line separator, paragraph separator. A carriage return and the line feed after it end
one row together. -/
def isBreak (c : Char) : Bool :=
  c == '\n' || c == '\x0b' || c == '\x0c' || c == '\r' || c == '\u0085' || c == '\u2028'
    || c == '\u2029'

/-- Put a character in front of the first row. -/
def consRow (c : Char) : List Text → List Text
  | [] => [[c]]
  | row :: more => (c :: row) :: more

/-- The rows of a text, each with its break; the last one has none. -/
def rows : Text → List Text
  | [] => [[]]
  | '\r' :: '\n' :: rest => ['\r', '\n'] :: rows rest
  | c :: rest => if isBreak c then [c] :: rows rest else consRow c (rows rest)

/-- A row without the carriage returns and line feeds at its end. Other breaks stay: they count as
content when a column is looked up. -/
def rowContent (row : Text) : Text :=
  (row.reverse.dropWhile fun c => c == '\n' || c == '\r').reverse

end WorkflowNav.Text
