/-
Addresses of eight 16-bit pieces.

The pieces are written in hexadecimal between colons. Two colons in a row, at one place only, leave
out pieces that are zero, and the last two pieces may be written as four decimal bytes between dots.

An address has one text: digits in lower case, and two colons for the first of the longest runs of
at least two zeros.
-/
import WorkflowNav.Text.Number

set_option autoImplicit false

namespace WorkflowNav.Address.V6

/-- The number of pieces. -/
def size : Nat := 8

/-! ## Reading -/

/-- A piece of one to four hexadecimal digits. -/
def piece? (digits : Text) : Option Nat :=
  if digits.isEmpty || 4 < digits.length then none
  else digits.foldlM (fun n c => (Text.hexValue? c).map (16 * n + ·)) 0

/-- A byte in decimal, without zeros at its front. -/
def byte? (digits : Text) : Option Nat :=
  if digits.isEmpty || !digits.all Char.isDigit || (digits.head? == some '0' && digits.length != 1)
  then none
  else some (Text.decimalValue digits) |>.filter (· < 256)

/-- The two pieces written by four bytes between dots. -/
def dotted? (text : Text) : Option (List Nat) := do
  match ← (cut '.' text).mapM byte? with
  | [a, b, c, d] => some [256 * a + b, 256 * c + d]
  | _ => none

/-- Pieces that were read, and where zeros are left out. Of those zeros one is among the pieces. -/
structure Reading where
  pieces : List Nat := []
  gap : Option Nat := none
  deriving DecidableEq, Repr

namespace Reading

/-- Leave out zeros here. -/
def skip? (reading : Reading) : Option Reading :=
  match reading.gap with
  | some _ => none
  | none => some { pieces := reading.pieces ++ [0], gap := some (reading.pieces.length + 1) }

/-- Read the texts between colons. An empty one leaves out zeros, and another one after it ends the
address. -/
def run (reading : Reading) : List Text → Option Reading
  | [] => some reading
  | text :: rest =>
    if reading.pieces.length = size then none
    else if text.isEmpty then
      match reading.skip?, rest with
      | none, _ => none
      | some _, [] => none
      | some reading, [[]] => some reading
      | some reading, rest => run reading rest
    else if rest.isEmpty && text.contains '.' then
      if reading.pieces.length + 2 ≤ size then
        (dotted? text).map fun more => { reading with pieces := reading.pieces ++ more }
      else none
    else
      match piece? text with
      | some piece => run { reading with pieces := reading.pieces ++ [piece] } rest
      | none => none

/-- All pieces, with the zeros that were left out. -/
def complete? (reading : Reading) : Option (List Nat) :=
  match reading.gap with
  | some gap =>
    some (reading.pieces.take gap ++ List.replicate (size - reading.pieces.length) 0
      ++ reading.pieces.drop gap)
  | none => if reading.pieces.length = size then some reading.pieces else none

end Reading

/-- The pieces of the address that a text writes. -/
def ofText? (text : Text) : Option (List Nat) :=
  let reading := match cut ':' text with
    | [[], [], []] => Reading.skip? {}
    | [] :: [] :: text :: rest => (Reading.skip? {}).bind (·.run (text :: rest))
    | [] :: _ => none
    | texts => Reading.run {} texts
  reading.bind Reading.complete?

/-! ## Writing -/

/-- The first of the longest runs of zeros from an index on: where it starts, and its length. -/
def longestRun (start : Nat) : List Nat → Nat × Nat
  | [] => (start, 0)
  | piece :: rest =>
    let here := ((piece :: rest).takeWhile (· == 0)).length
    let later := longestRun (start + 1) rest
    if later.2 ≤ here then (start, here) else later

/-- Pieces with colons between them. -/
def joined (pieces : List Nat) : Text := [':'].intercalate (pieces.map (Nat.toDigits 16))

/-- The text of an address. -/
def toText (address : List Nat) : Text :=
  let (start, count) := longestRun 0 address
  if count < 2 then joined address
  else joined (address.take start) ++ ':' :: ':' :: joined (address.drop (start + count))

end WorkflowNav.Address.V6
