/-
Percent encoding.

A byte that may not stand in a part of a URI is written as a percent sign and two digits. Which
characters may stand in a part is its own business; control characters and everything beyond ASCII
never do.
-/
import WorkflowNav.Text.Number
import WorkflowNav.Text.Utf8

set_option autoImplicit false

namespace WorkflowNav.Uri

open Text (Bytes)

/-! ## Writing and reading -/

/-- A byte as an escape. -/
def escapeByte (b : UInt8) : Text :=
  ['%', Text.hexDigit 'A' (b.toNat / 16), Text.hexDigit 'A' (b.toNat % 16)]

/-- Write bytes with escapes for the ASCII characters that `reserved` names, for control characters
and for everything beyond ASCII. -/
def escapeBytes (reserved : Char → Bool) (bytes : Bytes) : Text :=
  bytes.flatMap fun b =>
    let c := Char.ofNat b.toNat
    if b < 0x20 || 0x7F ≤ b || reserved c then escapeByte b else [c]

/-- Write a text with escapes. -/
def escape (reserved : Char → Bool) (text : Text) : Text := escapeBytes reserved (Text.encode text)

/-- The bytes of a text with its escapes read, of which the first `skip` characters are done with. A
percent sign without two digits after it stands for itself. -/
def unescapeFrom (skip : Nat) : Text → Bytes
  | [] => []
  | c :: rest =>
    match skip with
    | skip + 1 => unescapeFrom skip rest
    | 0 =>
      let byte? := match c, rest with
        | '%', a :: b :: _ => do return 16 * (← Text.hexValue? a) + (← Text.hexValue? b)
        | _, _ => none
      match byte? with
      | some byte => byte.toUInt8 :: unescapeFrom 2 rest
      | none => String.utf8EncodeChar c ++ unescapeFrom 0 rest

/-- The bytes of a text with its escapes read. -/
def unescape (text : Text) : Bytes := unescapeFrom 0 text

/-! ## Reserved characters -/

/-- No characters: only what is always escaped. -/
def reservedNowhere (_ : Char) : Bool := false

/-- Characters escaped in a fragment. -/
def reservedInFragment (c : Char) : Bool :=
  c == ' ' || c == '\x22' || c == '<' || c == '>' || c == '\x60'

/-- Characters escaped in a path. -/
def reservedInPath (c : Char) : Bool :=
  reservedInFragment c || c == '#' || c == '?' || c == '\x7b' || c == '\x7d'

/-- Characters escaped in a name that becomes part of a path. -/
def reservedInName (c : Char) : Bool := reservedInPath c || c == '/' || c == '%' || c == '\\'

/-- Characters escaped in the name of a user. -/
def reservedInUser (c : Char) : Bool :=
  reservedInPath c || "/:;=@[\\]^|".toList.contains c

end WorkflowNav.Uri
