/-
Blank characters: the Unicode property White_Space.

The readers of manifest lines skip blanks and never look at which blank they skipped, so all they
need is the class and the two ways of dropping it.
-/
import WorkflowNav.Text.Basic

set_option autoImplicit false

namespace WorkflowNav.Text

/-- The characters with the property White_Space. -/
def isBlank (c : Char) : Bool :=
  let n := c.toNat
  (0x9 ≤ n && n ≤ 0xD) || n == 0x20 || n == 0x85 || n == 0xA0 || n == 0x1680
    || (0x2000 ≤ n && n ≤ 0x200A) || n == 0x2028 || n == 0x2029 || n == 0x202F || n == 0x205F
    || n == 0x3000

/-- A text without its leading blanks. -/
def dropBlanks (text : Text) : Text := text.dropWhile isBlank

/-- A text without its leading and trailing blanks. -/
def trim (text : Text) : Text := (dropBlanks (dropBlanks text).reverse).reverse

end WorkflowNav.Text
