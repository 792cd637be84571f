/-
Addresses of four bytes.

A name that ends in a number is an address. It is written with up to four numbers between dots, each
decimal, octal after a zero, or hexadecimal after `0x`. All but the last stand for a byte each; the
last stands for all bytes that remain, so that `127.1` is `127.0.0.1`.
-/
import WorkflowNav.Text.Number

set_option autoImplicit false

namespace WorkflowNav.Address.V4

/-- The number written by digits of a base. -/
def digits? (base : Nat) (digits : Text) : Option Nat :=
  digits.foldlM (fun n c => do
    let digit ← Text.hexValue? c
    if digit < base then some (base * n + digit) else none) 0

/-- The number that a piece of an address writes. -/
def number? : Text → Option Nat
  | [] => none
  | '0' :: 'x' :: digits => digits? 16 digits
  | '0' :: 'X' :: digits => digits? 16 digits
  | '0' :: c :: digits => digits? 8 (c :: digits)
  | digits => digits? 10 digits

/-- The pieces of a name between its dots. A dot at the end says nothing. -/
def pieces (name : Text) : List Text :=
  let pieces := cut '.' name
  if pieces.getLast? = some [] then pieces.dropLast else pieces

/-- Whether a name ends in a number, or in digits that try to be one. -/
def endsInNumber (name : Text) : Bool :=
  match (pieces name).getLast? with
  | some last => (!last.isEmpty && last.all Char.isDigit) || (number? last).isSome
  | none => false

/-- A number as bytes, the highest first. -/
def bytes (count n : Nat) : List Nat :=
  (List.range count).map fun i => n / Nat.pow 256 (count - 1 - i) % 256

/-- The four bytes of the address that a name writes. -/
def ofName? (name : Text) : Option (List Nat) := do
  let numbers ← (pieces name).mapM number?
  let last ← numbers.getLast?
  let front := numbers.dropLast
  let room := 4 - front.length
  if front.length < 4 && front.all (· < 256) && last < Nat.pow 256 room then
    some (front ++ bytes room last)
  else none

/-- The text of an address: its bytes in decimal. -/
def toText (address : List Nat) : Text := ['.'].intercalate (address.map Text.ofNat)

end WorkflowNav.Address.V4
