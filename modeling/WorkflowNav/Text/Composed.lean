/-
Composed text: the normal form in which letters and marks are joined wherever they can be.

A text is first taken apart, down to letters and marks that are no composites. Then marks are put in
the order of their classes. Last, each mark is joined with the letter before it if the two have a
composite and no mark in between keeps them apart.
-/
import WorkflowNav.Text.CombiningClass
import WorkflowNav.Text.Composite

set_option autoImplicit false

namespace WorkflowNav.Text

/-- How often a composite can be taken apart. -/
def compositeDepth : Nat := 4

/-- The characters that a character is made of, taken apart at most `depth` times. -/
def apartFrom : Nat → Char → Text
  | 0, c => [c]
  | depth + 1, c =>
    match compositeParts? c with
    | some (first, second) => apartFrom depth first ++ [second]
    | none => [c]

/-- A text taken apart. -/
def apart (text : Text) : Text := text.flatMap (apartFrom compositeDepth)

/-- Put a mark in front of marks in order, before those of its own class. -/
def placeMark (c : Char) : Text → Text
  | [] => [c]
  | d :: rest =>
    if combiningClass d ≠ 0 ∧ combiningClass d < combiningClass c then d :: placeMark c rest
    else c :: d :: rest

/-- A text with its marks in the order of their classes. -/
def orderMarks : Text → Text
  | [] => []
  | c :: rest =>
    if combiningClass c = 0 then c :: orderMarks rest else placeMark c (orderMarks rest)

/-- Join what follows a letter with it. The marks that could not be joined stand in reverse; one of
them keeps a character from the letter unless its class is lower. -/
def joinFrom (letter : Char) (marks : Text) : Text → Text
  | [] => letter :: marks.reverse
  | c :: rest =>
    let isFree := match marks with
      | [] => true
      | last :: _ => combiningClass last < combiningClass c
    match if isFree then composite? letter c else none with
    | some composite => joinFrom composite marks rest
    | none =>
      if combiningClass c = 0 then letter :: (marks.reverse ++ joinFrom c [] rest)
      else joinFrom letter (c :: marks) rest

/-- Join letters and marks. Marks before the first letter stay. -/
def join : Text → Text
  | [] => []
  | c :: rest => if combiningClass c = 0 then joinFrom c [] rest else c :: join rest

/-- The normal form of a text. -/
def composed (text : Text) : Text := join (orderMarks (apart text))

end WorkflowNav.Text
