/-
Domain names, written with letters, digits and hyphens.

A name may be typed with any characters, but there is one way to write it down. Characters are
replaced by what they stand for, marks are joined with their letters, and each label, the text
between two dots, that still has other than plain characters is written in Punycode behind a prefix.
A label that already has the prefix must be what would be written: it is read back and held to the
same rules.

`Domain.ascii?` is none for a name that cannot be written.
-/
import WorkflowNav.Domain.Allowed
import WorkflowNav.Domain.Direction
import WorkflowNav.Domain.Folding
import WorkflowNav.Domain.Joining
import WorkflowNav.Text.Composed
import WorkflowNav.Text.Punycode

set_option autoImplicit false

namespace WorkflowNav.Domain

/-! ## Characters -/

/-- Whether a plain character may not stand in a name: controls, the blank, and the signs with a
meaning in a URI. -/
def isForbidden (c : Char) : Bool :=
  c.toNat ≤ 0x20 || c.toNat == 0x7F || "%#/:<>?@[\\]^|".toList.contains c

/-- Whether a character is plain. -/
def isPlain (c : Char) : Bool := c.toNat < 0x80

/-- Whether a character may stand in a name as it is. -/
def isValid (c : Char) : Bool := isAllowed c && (fold? c).isNone

/-- A name with each character replaced by what it stands for; none if one of them may not be
written. -/
def folded? (name : Text) : Option Text :=
  if name.all isAllowed then some (name.flatMap fun c => (fold? c).getD [c]) else none

/-! ## Labels -/

/-- What labels in Punycode start with. -/
def encodedMark : Text := "xn--".toList

/-- The longest label that is not plain, in characters. -/
def labelLimit : Nat := 1000

/-- The longest text in Punycode that is read. -/
def encodedLimit : Nat := 2000

/-- Whether a label that is not plain may stand in a name. -/
def isLabel (label : Text) : Bool :=
  label.length ≤ labelLimit && !(label.head?.map isMark).getD false && joinersFit [] label

/-- What stands behind the prefix of a label in Punycode. It has some character that is not plain,
and is made of characters that stand for themselves. -/
def decoded? (written : Text) : Option Text :=
  if written.all isPlain && written.getLast?.all (· != '-') && !written.isEmpty
      && written.length ≤ encodedLimit then
    (Text.Punycode.decode? written).filter fun label =>
      label.all isValid && Text.composed label == label && isLabel label
  else none

/-- What a label says: itself, or what stands behind its prefix. -/
def meaning? (label : Text) : Option Text :=
  match encodedMark.isPrefixOf? label with
  | some written => decoded? written
  | none =>
    if label.all isPlain || isLabel label then some label else none

/-- How a label is written. -/
def written (label : Text) : Text :=
  if label.all isPlain then label else encodedMark ++ Text.Punycode.encode label

/-! ## Names -/

/-- How a domain name is written, if it can be. -/
def ascii? (name : Text) : Option Text := do
  let name := Text.composed (← folded? name)
  guard (!name.any isForbidden)
  let labels ← (cut '.' name).mapM meaning?
  guard (!labels.any (·.any fun c => (direction c).isLeftward) || labels.all keepsDirection)
  return ['.'].intercalate (labels.map written)

end WorkflowNav.Domain
