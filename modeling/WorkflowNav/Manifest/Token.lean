/-
The tokens of a line.

A token is a quoted text with something between its quotes, or a run of word characters and
hyphens. They are taken from the left without overlap. A quote that is not closed, or is closed at
once, starts no token and the search goes on at the next character.

Offsets count UTF-8 bytes. A token touches the offsets from its first byte to the one just after
its last, so two neighbours can share an offset; the left one has it.
-/
import WorkflowNav.Manifest.Line
import WorkflowNav.Text.Column
import WorkflowNav.Text.Word

set_option autoImplicit false

namespace WorkflowNav.Manifest

/-- A token with the byte offset of its first character. Quotes are part of its text. -/
structure Token where
  start : Nat
  text : Text
  deriving DecidableEq, Repr

namespace Token

/-- The byte offset after the last character. -/
def stop (token : Token) : Nat := token.start + Text.byteSize token.text

/-- Whether an offset lies in the token or at one of its edges. -/
def touches (token : Token) (offset : Nat) : Bool := token.start ≤ offset && offset ≤ token.stop

/-- The text without any quotes. -/
def bare (token : Token) : Text := token.text.filter fun c => !isQuote c

/-- Characters of an unquoted token. -/
def isPlain (c : Char) : Bool := Text.isWord c || c == '-'

/-- The token at the front of a text, empty if there is none. -/
def atFront : Text → Text
  | [] => []
  | c :: rest =>
    if isQuote c then
      let body := rest.takeWhile (· != c)
      if !body.isEmpty && rest.contains c then c :: (body ++ [c]) else []
    else (c :: rest).takeWhile isPlain

/-- The tokens of a text that starts at a byte offset, where the first `skip` characters belong to
a token already taken. -/
def allFrom (offset skip : Nat) : Text → List Token
  | [] => []
  | c :: rest =>
    match skip with
    | skip + 1 => allFrom (offset + c.utf8Size) skip rest
    | 0 =>
      match atFront (c :: rest) with
      | [] => allFrom (offset + c.utf8Size) 0 rest
      | first :: more => ⟨offset, first :: more⟩ :: allFrom (offset + c.utf8Size) more.length rest

/-- The tokens of a line, from the left. -/
def all (line : Text) : List Token := allFrom 0 0 line

/-- The bare text of the first token that touches an offset. -/
def at? (line : Text) (offset : Nat) : Option Text :=
  ((all line).find? fun token => token.touches offset).map bare

end Token

end WorkflowNav.Manifest
