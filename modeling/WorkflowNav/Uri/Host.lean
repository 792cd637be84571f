/-
Hosts.

A host is a name or an address. Where a scheme is known, its names are domain names, and a name that
ends in a number must be an address. Under any other scheme a name is a text without the signs that
divide a URI.
-/
import WorkflowNav.Address.V4
import WorkflowNav.Address.V6
import WorkflowNav.Domain.Basic
import WorkflowNav.Uri.Percent

set_option autoImplicit false

namespace WorkflowNav

/-- The machine that a URI is about. -/
inductive Host where
  /-- A name; the empty one is this machine. -/
  | name (text : Text)
  /-- An address of four bytes. -/
  | v4 (bytes : List Nat)
  /-- An address of eight pieces. -/
  | v6 (pieces : List Nat)
  deriving DecidableEq, Repr

namespace Host

/-- The host that names no machine. -/
def none : Host := name []

/-- The name of this machine. -/
def localName : Host := name "localhost".toList

/-- Whether a host is this machine. -/
def isLocal (host : Host) : Bool := host = none || host = localName

/-- The text of a host. -/
def toText : Host → Text
  | name text => text
  | v4 bytes => Address.V4.toText bytes
  | v6 pieces => '[' :: Address.V6.toText pieces ++ [']']

/-! ## Reading -/

/-- The address in brackets whose first was read. -/
def ofBrackets? (text : Text) : Option Host :=
  if text.getLast? = some ']' then (Address.V6.ofText? text.dropLast).map v6 else Option.none

/-- The host of a known scheme. -/
def ofDomain? : Text → Option Host
  | '[' :: text => ofBrackets? text
  | text => do
    let domain ← Domain.ascii? (← Text.decode? (Uri.unescape text))
    if domain.isEmpty then Option.none
    else if Address.V4.endsInNumber domain then (Address.V4.ofName? domain).map v4
    else some (name domain)

/-- Whether a character may not stand in a name under a scheme that is not known. -/
def isForbidden (c : Char) : Bool := "\x00\t\n\r #/:<>?@[\\]^|".toList.contains c

/-- The host of a scheme that is not known. -/
def ofText? : Text → Option Host
  | '[' :: text => ofBrackets? text
  | text =>
    if text.any isForbidden then Option.none
    else some (name (Uri.escape Uri.reservedNowhere text))

end Host

end WorkflowNav
