/-
Writing JSON on one line.

Strings escape the quote, the backslash and the control characters, and nothing else.
-/
import WorkflowNav.Json.Basic
import WorkflowNav.Text.Number

set_option autoImplicit false

namespace WorkflowNav.Json

/-- One character inside a string. -/
def writeChar (c : Char) : Text :=
  if c == '\x22' then ['\\', '\x22']
  else if c == '\\' then ['\\', '\\']
  else if c.toNat < 0x20 then
    ['\\', 'u', '0', '0', Text.hexDigit 'a' (c.toNat / 16), Text.hexDigit 'a' (c.toNat % 16)]
  else [c]

/-- A string with its quotes. -/
def writeString (text : Text) : Text := '\x22' :: (text.flatMap writeChar ++ ['\x22'])

/-- An integer. -/
def writeInt : Int → Text
  | .ofNat n => Text.ofNat n
  | .negSucc n => '-' :: Text.ofNat (n + 1)

mutual

/-- A value on one line. -/
def write : Json → Text
  | null => "null".toList
  | bool true => "true".toList
  | bool false => "false".toList
  | integer value => writeInt value
  | fraction written => written
  | string text => writeString text
  | array items => '[' :: writeItems items
  | object fields => '\x7b' :: writeFields fields

/-- The items of an array and its closing bracket. -/
def writeItems : List Json → Text
  | [] => [']']
  | [item] => write item ++ [']']
  | item :: items => write item ++ ',' :: writeItems items

/-- The fields of an object and its closing brace. -/
def writeFields : List (Text × Json) → Text
  | [] => ['\x7d']
  | [(name, item)] => writeString name ++ ':' :: (write item ++ ['\x7d'])
  | (name, item) :: fields => writeString name ++ ':' :: (write item ++ ',' :: writeFields fields)

end

end WorkflowNav.Json
