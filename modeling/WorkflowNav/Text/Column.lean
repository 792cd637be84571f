/-
Columns counted in UTF-16 code units.

An editor names a column by the number of UTF-16 units before it. `charOffset` turns that into a
number of characters and `byteOffset` into a number of UTF-8 bytes. Both stop at the first
character boundary that reaches the column, so a column inside a surrogate pair rounds up, and a
column past the end is the end.
-/
import WorkflowNav.Text.Basic

set_option autoImplicit false

namespace WorkflowNav.Text

/-- UTF-16 units of one character. -/
def units (c : Char) : Nat := if c.toNat < 0x10000 then 1 else 2

/-- UTF-16 units of a text. -/
def width : Text → Nat
  | [] => 0
  | c :: rest => units c + width rest

/-- UTF-8 bytes of a text. -/
def byteSize : Text → Nat
  | [] => 0
  | c :: rest => c.utf8Size + byteSize rest

/-- The least number of leading characters whose width reaches the column, or all of them. -/
def charOffset : Text → Nat → Nat
  | [], _ => 0
  | _ :: _, 0 => 0
  | c :: rest, column + 1 => charOffset rest (column + 1 - units c) + 1

/-- The bytes of the leading characters whose width reaches the column, or of all of them. They are
added up on the way, without the number of characters. -/
def byteOffset : Text → Nat → Nat
  | [], _ => 0
  | _ :: _, 0 => 0
  | c :: rest, column + 1 => c.utf8Size + byteOffset rest (column + 1 - units c)

end WorkflowNav.Text
