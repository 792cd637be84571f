/-
Text as a list of characters.

Everything below this file reads text from the left, one character at a time, so text is the list
of its characters and recursion on it is recursion on the list. `String` appears only where text
enters or leaves.

The one question asked of a line over and over is whether a key such as `metadata:` stands
anywhere in it. `Text.has` answers it, and `has_iff` says it means what it should: the key is a
contiguous run of the line.

`cut` is the one way to take a text apart at a character. It loses nothing but the character itself:
there is always one piece more than there were occurrences.
-/

set_option autoImplicit false

namespace WorkflowNav

/-- Text, character by character. -/
abbrev Text := List Char

/-- Cut a list at every occurrence of an element. -/
def cut {α : Type} [BEq α] (sep : α) : List α → List (List α)
  | [] => [[]]
  | x :: rest =>
    if x == sep then [] :: cut sep rest
    else
      match cut sep rest with
      | [] => [[x]]
      | piece :: more => (x :: piece) :: more

namespace Text

/-- Whether `part` stands somewhere in a text. -/
def has (part : Text) : Text → Bool
  | [] => part.isEmpty
  | c :: rest => part.isPrefixOf (c :: rest) || has part rest

theorem has_iff (part text : Text) : has part text = true ↔ part <:+: text := by
  induction text with
  | nil => simp [has]
  | cons c rest ih => simp [has, ih, List.infix_cons_iff]

end Text

end WorkflowNav
