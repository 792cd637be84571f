/-
Classes of characters as tables.

The classes of the Unicode standard are data. A class is kept as a table of closed ranges of code
points in ascending order, and a character belongs to it if one of the ranges holds it.
-/
import WorkflowNav.Text.Basic

set_option autoImplicit false

namespace WorkflowNav.Text

/-- Whether a character lies in one of some closed ranges of code points. -/
def inRanges (ranges : List (Nat × Nat)) (c : Char) : Bool :=
  ranges.any fun (first, last) => first ≤ c.toNat && c.toNat ≤ last

end WorkflowNav.Text
