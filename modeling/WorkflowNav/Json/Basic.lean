/-
JSON values.

Settings are read out of JSON, and whether a number is accepted hangs on how it was written: `1` is
an integer and `1.0` is not. So a number keeps that distinction: an integer is a value, anything
written with a fraction or an exponent is kept as text, and so is `-0`.
-/
import WorkflowNav.Text.Basic

set_option autoImplicit false

namespace WorkflowNav

/-- A JSON value. -/
inductive Json where
  | null
  | bool (value : Bool)
  /-- A number written without fraction and exponent, other than `-0`. -/
  | integer (value : Int)
  /-- Any other number, as written. -/
  | fraction (written : Text)
  | string (text : Text)
  | array (items : List Json)
  | object (fields : List (Text × Json))

namespace Json

/-- The value of a field of an object. Of several fields with one name the last counts. -/
def field? (name : Text) : Json → Option Json
  | object fields => (fields.reverse.find? (·.1 == name)).map (·.2)
  | _ => none

/-- One more than the largest number of 64 bits. -/
def wordLimit : Nat := 18446744073709551616

/-- A natural number that fits 64 bits. -/
def natural? : Json → Option Nat
  | integer (.ofNat n) => if n < wordLimit then some n else none
  | _ => none

/-- A truth value. -/
def bool? : Json → Option Bool
  | bool value => some value
  | _ => none

end Json

end WorkflowNav
