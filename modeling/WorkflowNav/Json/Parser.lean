/-
Reading JSON.

The grammar is that of the standard, read strictly: no leading zeros, no control characters in
strings, surrogate escapes only in pairs. Two limits are part of it: a number must not exceed the
range of a double, and arrays and objects nest less than 128 deep.

Values, items and fields call each other, so they share a fuel. Each step of a call chain uses up a
character or leads to one that does, and twice the length of the text is always enough.
-/
import WorkflowNav.Double
import WorkflowNav.Json.Basic
import WorkflowNav.Text.Number

set_option autoImplicit false

namespace WorkflowNav.Json

/-! ## Blanks and words -/

/-- The blanks between tokens. -/
def isSpace (c : Char) : Bool := c == ' ' || c == '\t' || c == '\n' || c == '\r'

/-- A text without the blanks at its front. -/
def skip (text : Text) : Text := text.dropWhile isSpace

/-! ## Numbers -/

/-- Gather digits onto a number as long as it fits a word: the number, and how many digits are left
over. -/
def gather (n : Nat) : Text → Nat × Nat
  | [] => (n, 0)
  | c :: rest =>
    let next := 10 * n + (c.toNat - '0'.toNat)
    if next < wordLimit then gather next rest else (n, rest.length + 1)

/-- Whether a number is in the range of a double. Its significand is a word: digits of the whole
part that do not fit only count, and digits of the fraction that do not fit are dropped. -/
def isInRange (whole places : Text) (exponent : Int) : Bool :=
  let (front, more) := gather 0 whole
  let (significand, dropped) := gather front places
  Double.isFinite significand (more - (places.length - dropped : Nat) + exponent)

/-- The digits at the front of a text, if there are any, and the rest. -/
def digits? (text : Text) : Option (Text × Text) :=
  match text.takeWhile Char.isDigit with
  | [] => none
  | digits => some (digits, text.dropWhile Char.isDigit)

/-- The fraction at the front of a text: its digits, empty without a point. -/
def fractionPart? : Text → Option (Text × Text)
  | '.' :: rest => digits? rest
  | text => some ([], text)

/-- The exponent at the front of a text: its value, and whether one is written. -/
def exponentPart? : Text → Option (Option Int × Text)
  | c :: rest =>
    if c == 'e' || c == 'E' then
      match rest with
      | '-' :: more =>
        (digits? more).map fun (ds, rest) => (some (-Text.decimalValue ds : Int), rest)
      | '+' :: more =>
        (digits? more).map fun (ds, rest) => (some (Text.decimalValue ds : Int), rest)
      | more => (digits? more).map fun (ds, rest) => (some (Text.decimalValue ds : Int), rest)
    else some (none, c :: rest)
  | [] => some (none, [])

/-- An unsigned number at the front of a text. -/
def unsigned? (negative : Bool) (text : Text) : Option (Json × Text) := do
  let (whole, rest) ← digits? text
  guard (whole.length = 1 || whole.head? != some '0')
  let (places, rest) ← fractionPart? rest
  let (exponent, rest) ← exponentPart? rest
  guard (isInRange whole places (exponent.getD 0))
  let value := Text.decimalValue whole
  let isInteger := places.isEmpty && exponent.isNone && !(negative && value == 0)
  let written := text.take (text.length - rest.length)
  if isInteger then
    return (integer (if negative then -(value : Int) else value), rest)
  else
    return (fraction (if negative then '-' :: written else written), rest)

/-- A number at the front of a text. -/
def number? : Text → Option (Json × Text)
  | '-' :: rest => unsigned? true rest
  | text => unsigned? false text

/-! ## Strings -/

/-- Four hexadecimal digits at the front of a text. -/
def unit? : Text → Option (Nat × Text)
  | a :: b :: c :: d :: rest => do
    let a ← Text.hexValue? a
    let b ← Text.hexValue? b
    let c ← Text.hexValue? c
    let d ← Text.hexValue? d
    return (((a * 16 + b) * 16 + c) * 16 + d, rest)
  | _ => none

/-- The character written by a `u` escape, after the `u`: one unit, or a surrogate pair. -/
def unicodeEscape? (text : Text) : Option (Char × Text) := do
  let (high, rest) ← unit? text
  if 0xD800 ≤ high ∧ high < 0xDC00 then
    match rest with
    | '\\' :: 'u' :: rest =>
      let (low, rest) ← unit? rest
      guard (0xDC00 ≤ low ∧ low < 0xE000)
      return (Char.ofNat (0x10000 + (high - 0xD800) * 0x400 + (low - 0xDC00)), rest)
    | _ => none
  else
    guard (high < 0xDC00 ∨ 0xE000 ≤ high)
    return (Char.ofNat high, rest)

/-- The character written by a short escape. -/
def shortEscape? (c : Char) : Option Char :=
  if c == '\x22' || c == '\\' || c == '/' then some c
  else if c == 'b' then some '\x08'
  else if c == 'f' then some '\x0c'
  else if c == 'n' then some '\n'
  else if c == 'r' then some '\r'
  else if c == 't' then some '\t'
  else none

/-- The rest of a string after its opening quote; what is read so far stands in reverse. -/
def stringBody? : Nat → Text → Text → Option (Text × Text)
  | 0, _, _ => none
  | _ + 1, _, [] => none
  | fuel + 1, done, c :: rest =>
    if c == '\x22' then some (done.reverse, rest)
    else if c.toNat < 0x20 then none
    else if c == '\\' then
      match rest with
      | 'u' :: more =>
        match unicodeEscape? more with
        | some (char, rest) => stringBody? fuel (char :: done) rest
        | none => none
      | e :: more =>
        match shortEscape? e with
        | some char => stringBody? fuel (char :: done) more
        | none => none
      | [] => none
    else stringBody? fuel (c :: done) rest

/-- A string at the front of a text. -/
def string? : Text → Option (Text × Text)
  | '\x22' :: rest => stringBody? (rest.length + 1) [] rest
  | _ => none

/-! ## Values -/

/-- How deep arrays and objects may nest. -/
def nesting : Nat := 127

mutual

/-- A value at the front of a text. -/
def value? : Nat → Nat → Text → Option (Json × Text)
  | 0, _, _ => none
  | fuel + 1, depth, text =>
    match skip text with
    | [] => none
    | 'n' :: 'u' :: 'l' :: 'l' :: rest => some (null, rest)
    | 't' :: 'r' :: 'u' :: 'e' :: rest => some (bool true, rest)
    | 'f' :: 'a' :: 'l' :: 's' :: 'e' :: rest => some (bool false, rest)
    | '[' :: rest =>
      match depth with
      | 0 => none
      | depth + 1 =>
        match skip rest with
        | ']' :: rest => some (array [], rest)
        | rest => items? fuel depth [] rest
    | '\x7b' :: rest =>
      match depth with
      | 0 => none
      | depth + 1 =>
        match skip rest with
        | '\x7d' :: rest => some (object [], rest)
        | rest => fields? fuel depth [] rest
    | '\x22' :: rest => (string? ('\x22' :: rest)).map fun (text, rest) => (string text, rest)
    | text => number? text

/-- The items of an array, after its bracket and those in `done`. -/
def items? : Nat → Nat → List Json → Text → Option (Json × Text)
  | 0, _, _, _ => none
  | fuel + 1, depth, done, text =>
    match value? fuel depth text with
    | none => none
    | some (item, rest) =>
      match skip rest with
      | ',' :: rest => items? fuel depth (item :: done) rest
      | ']' :: rest => some (array (item :: done).reverse, rest)
      | _ => none

/-- The fields of an object, after its brace and those in `done`. -/
def fields? : Nat → Nat → List (Text × Json) → Text → Option (Json × Text)
  | 0, _, _, _ => none
  | fuel + 1, depth, done, text =>
    match string? (skip text) with
    | none => none
    | some (name, rest) =>
      match skip rest with
      | ':' :: rest =>
        match value? fuel depth rest with
        | none => none
        | some (item, rest) =>
          match skip rest with
          | ',' :: rest => fields? fuel depth ((name, item) :: done) rest
          | '\x7d' :: rest => some (object ((name, item) :: done).reverse, rest)
          | _ => none
      | _ => none

end

/-- The value written by a text, if it writes one and nothing else. -/
def parse? (text : Text) : Option Json :=
  match value? (2 * text.length + 2) nesting text with
  | some (value, rest) => if (skip rest).isEmpty then some value else none
  | none => none

end WorkflowNav.Json
