/-
What one line of a manifest says.

Manifests are read line by line, without a YAML parser: a line matters if one of a dozen keys stands
in it, and a value is what follows its key up to the end of the line or a comment. The readers are
deliberately narrow, and each is deterministic although it looks like a search: once the key is
placed, blanks, an optional quote, the value, an optional quote, blanks and a comment can follow in
one way only. What is left to try is the place of the key, from the left.

One reader does have to try several ways. `isEntryOf` looks for a given name after `- name:`, and a
name that itself starts with blanks may share them with the blanks before it.
-/
import WorkflowNav.Text.Blank

set_option autoImplicit false

namespace WorkflowNav.Manifest

/-! ## Markers

The fixed texts that are looked for in a line. `templateRef:` does not stand in
`workflowTemplateRef:`, whose `T` is a capital. -/

namespace Marker

/-- The kind line of a WorkflowTemplate. -/
def workflowTemplate : Text := "kind: WorkflowTemplate".toList

/-- Any kind line. -/
def kind : Text := "kind:".toList

/-- The version line that opens a document. -/
def apiVersion : Text := "apiVersion:".toList

/-- The line between two documents of one file. -/
def separator : Text := "---".toList

/-- The metadata section. -/
def metadata : Text := "metadata:".toList

/-- The spec section. -/
def spec : Text := "spec:".toList

/-- The status section. -/
def status : Text := "status:".toList

/-- The list of templates. -/
def templates : Text := "templates:".toList

/-- A reference to a template of a WorkflowTemplate. -/
def templateRef : Text := "templateRef:".toList

/-- A reference to a WorkflowTemplate as a whole. -/
def workflowTemplateRef : Text := "workflowTemplateRef:".toList

/-- A name. -/
def name : Text := "name:".toList

/-- The name of a template inside a reference. -/
def template : Text := "template:".toList

end Marker

/-! ## Values -/

/-- The two quote characters. -/
def isQuote (c : Char) : Bool := c == '\x27' || c == '\x22'

/-- Characters of a value: no quote, no `#`, no blank. -/
def isValueChar (c : Char) : Bool := !(isQuote c || c == '#' || Text.isBlank c)

/-- A text without the quote at its front, if there is one. -/
def dropQuote : Text → Text
  | [] => []
  | c :: rest => if isQuote c then rest else c :: rest

/-- Blanks and then at most a comment. A comment does not reach past its line. -/
def isTrailer (text : Text) : Bool :=
  match Text.dropBlanks text with
  | [] => true
  | c :: rest => c == '#' && !rest.contains '\n'

/-- The value written in the text after a key, if that text holds a value and nothing else. -/
def value? (text : Text) : Option Text :=
  let body := dropQuote (Text.dropBlanks text)
  let value := body.takeWhile isValueChar
  let rest := body.dropWhile isValueChar
  if !value.isEmpty && isTrailer (dropQuote rest) then some value else none

/-- The value of a key: the leftmost occurrence of the key that has a value decides. -/
def valueOf? (key : Text) : Text → Option Text
  | [] => none
  | c :: rest =>
    match (key.isPrefixOf? (c :: rest)).bind value? with
    | some value => some value
    | none => valueOf? key rest

/-- The value of `name:` in a line. -/
def name? (line : Text) : Option Text := valueOf? Marker.name line

/-- The value of `template:` in a line. -/
def template? (line : Text) : Option Text := valueOf? Marker.template line

/-! ## List items -/

/-- What follows the dash of a list item and the blanks after it. -/
def itemBody? (line : Text) : Option Text :=
  match Text.dropBlanks line with
  | '-' :: blank :: rest => if Text.isBlank blank then some (Text.dropBlanks rest) else none
  | _ => none

/-- What follows `- name:`. -/
def afterEntryKey? (line : Text) : Option Text :=
  (itemBody? line).bind Marker.name.isPrefixOf?

/-- The text of a `- name:` entry as written: the rest of the line after the blanks. It is never
empty, so where only blanks follow it is the last of them. -/
def entryText? (line : Text) : Option Text :=
  (afterEntryKey? line).bind fun rest =>
    match Text.dropBlanks rest with
    | [] => (rest.getLast?.filter (· != '\n')).map fun c => [c]
    | text => if text.contains '\n' then none else some text

/-- Whether the line is a `- name:` entry. -/
def isEntry (line : Text) : Bool := (entryText? line).isSome

/-- Whether the line starts a new step: `- name:` or `- -`. -/
def isNewItem (line : Text) : Bool :=
  match itemBody? line with
  | some body => Marker.name.isPrefixOf body || ['-'].isPrefixOf body
  | none => false

/-- Whether a name and then only a trailer stands at the front of a text. -/
def startsWithName (name text : Text) : Bool :=
  match name.isPrefixOf? text with
  | some rest => isTrailer rest
  | none => false

/-- Whether a name and then only a trailer stands in a text after any number of blanks. -/
def holdsName (name : Text) : Text → Bool
  | [] => startsWithName name []
  | c :: rest => startsWithName name (c :: rest) || (Text.isBlank c && holdsName name rest)

/-- Whether the line is the `- name:` entry of `name`, which is taken literally. A name may have any
length here: that the pattern made from it can always be compiled is taken for granted, though a
limit on the size of patterns would rule out very long names. -/
def isEntryOf (name line : Text) : Bool :=
  match afterEntryKey? line with
  | some rest => holdsName name rest
  | none => false

end WorkflowNav.Manifest
