/-
Text as UTF-8 bytes.

Files and URIs hold bytes. `encode` writes text as bytes; `chars` reads bytes one character at a
time and says where that fails. A sequence that breaks off is one failure, however many of its bytes
were still right, so that reading goes on at the first byte that does not belong to it.
-/
import WorkflowNav.Text.Basic

set_option autoImplicit false

namespace WorkflowNav.Text

/-- Bytes, one after the other. -/
abbrev Bytes := List UInt8

/-- The bytes of a text. -/
def encode (text : Text) : Bytes := text.flatMap String.utf8EncodeChar

/-- Whether a byte continues a character. -/
def isTail (b : UInt8) : Bool := 0x80 ≤ b && b < 0xC0

/-- Whether a byte may follow the first byte of a character of three or four bytes. Beyond being a
continuation this excludes long forms of short characters, surrogates and code points past the
last. -/
def mayFollow (first b : UInt8) : Bool :=
  isTail b && !(first == 0xE0 && b < 0xA0) && !(first == 0xED && 0xA0 ≤ b)
    && !(first == 0xF0 && b < 0x90) && !(first == 0xF4 && 0x90 ≤ b)

/-- The low six bits of a continuation. -/
def tailBits (b : UInt8) : Nat := b.toNat % 0x40

/-- The character that starts with `first` and goes on in `rest`, and how many bytes of `rest` it
takes; none if there is no such character, with the number of bytes that fail together with
`first`. -/
def front (first : UInt8) (rest : Bytes) : Option Char × Nat :=
  if first < 0x80 then (some (Char.ofNat first.toNat), 0)
  else if first < 0xC2 || 0xF4 < first then (none, 0)
  else if first < 0xE0 then
    match rest with
    | b :: _ =>
      if isTail b then (some (Char.ofNat ((first.toNat - 0xC0) * 0x40 + tailBits b)), 1)
      else (none, 0)
    | [] => (none, 0)
  else if first < 0xF0 then
    match rest with
    | b :: rest =>
      if mayFollow first b then
        match rest with
        | c :: _ =>
          if isTail c then
            (some (Char.ofNat (((first.toNat - 0xE0) * 0x40 + tailBits b) * 0x40 + tailBits c)), 2)
          else (none, 1)
        | [] => (none, 1)
      else (none, 0)
    | [] => (none, 0)
  else
    match rest with
    | b :: rest =>
      if mayFollow first b then
        match rest with
        | c :: rest =>
          if isTail c then
            match rest with
            | d :: _ =>
              if isTail d then
                (some (Char.ofNat ((((first.toNat - 0xF0) * 0x40 + tailBits b) * 0x40
                  + tailBits c) * 0x40 + tailBits d)), 3)
              else (none, 2)
            | [] => (none, 2)
          else (none, 1)
        | [] => (none, 1)
      else (none, 0)
    | [] => (none, 0)

/-- The characters written by bytes, of which the first `skip` are done with. -/
def charsFrom (skip : Nat) : Bytes → List (Option Char)
  | [] => []
  | b :: rest =>
    match skip with
    | skip + 1 => charsFrom skip rest
    | 0 => let (char, more) := front b rest; char :: charsFrom more rest

/-- The characters written by bytes; none where bytes write no character. -/
def chars (bytes : Bytes) : List (Option Char) := charsFrom 0 bytes

/-- The text written by bytes, if they write one throughout. -/
def decode? (bytes : Bytes) : Option Text :=
  let chars := chars bytes
  if chars.all Option.isSome then some (chars.filterMap id) else none

/-- The text written by bytes, with a replacement character where they write none. -/
def decodeLossy (bytes : Bytes) : Text := (chars bytes).map fun char => char.getD '\ufffd'

end WorkflowNav.Text
