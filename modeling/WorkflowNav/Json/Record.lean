/-
Reading values out of JSON.

A reader takes a JSON value and gives what it says, or none if the value does not fit. Nothing is
converted on the way: a number is not read from a string, and not from a fraction that happens to be
whole.

A record is written as an object, in which a field that is missing counts as null and fields of
other names are passed over, or as the list of all its fields in their order.
-/
import WorkflowNav.Json.Basic

set_option autoImplicit false

namespace WorkflowNav.Json

/-! ## Plain values -/

/-- A text. -/
def text? : Json → Option Text
  | string text => some text
  | _ => none

/-- A natural number that fits 32 bits. -/
def natural32? (json : Json) : Option Nat := json.natural?.filter (· < 4294967296)

/-- An integer that fits 32 bits with a sign. -/
def integer32? : Json → Option Int
  | integer value => if -2147483648 ≤ value ∧ value < 2147483648 then some value else none
  | _ => none

/-! ## Values with others inside -/

/-- A list, each item of which fits. -/
def list? {α : Type} (read : Json → Option α) : Json → Option (List α)
  | array items => items.mapM read
  | _ => none

/-- A value that may be null. -/
def orNull? {α : Type} (read : Json → Option α) : Json → Option (Option α)
  | null => some none
  | json => (read json).map some

/-- A record with fields of these names, as an object. -/
def record? (names : List String) : Json → Option Json
  | object fields => some (object fields)
  | array items =>
    if items.length = names.length then some (object ((names.map String.toList).zip items))
    else none
  | _ => none

/-- What a record has in a field: null if nothing. -/
def part (record : Json) (name : String) : Json := (record.field? name.toList).getD null

end WorkflowNav.Json
