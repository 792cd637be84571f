/-
URIs and the paths they stand for.

A URI is kept in its parts, each already in normal form; writing them one after the other gives its
text. Two URIs are equal if their parts are, which is how open documents are told apart.

Between a file path and its URI stands percent encoding. A path gives its components, so that
repeated slashes and inner dots vanish; a URI gives the bytes of its path, decoded.
-/
import WorkflowNav.Path
import WorkflowNav.Uri.Host

set_option autoImplicit false

namespace WorkflowNav

open Text (Bytes)

/-- What stands between the two slashes and the path of a URI. -/
structure Authority where
  /-- Name and password of a user with the sign after them, or nothing. -/
  user : Text := []
  host : Host
  /-- The number of a service at the host, unless it is the usual one. -/
  service : Option Nat := none
  deriving DecidableEq, Repr

/-- A URI in normal form. -/
structure Uri where
  /-- In lower case. -/
  scheme : Text
  authority : Option Authority
  path : Text
  query : Option Text := none
  fragment : Option Text := none
  deriving DecidableEq, Repr

/-- The text of an authority. -/
def Authority.toText (authority : Authority) : Text :=
  let service := match authority.service with
    | some number => ':' :: Text.ofNat number
    | none => []
  authority.user ++ authority.host.toText ++ service

namespace Uri

/-- The text of a URI. A path with two slashes at its front is kept apart from the colon by a dot,
since an authority would be read otherwise. -/
def toText (uri : Uri) : Text :=
  let front := match uri.authority, uri.path with
    | some authority, _ => '/' :: '/' :: authority.toText
    | none, '/' :: '/' :: _ => ['/', '.']
    | none, _ => []
  let query := match uri.query with
    | some text => '?' :: text
    | none => []
  let fragment := match uri.fragment with
    | some text => '#' :: text
    | none => []
  uri.scheme ++ ':' :: (front ++ uri.path ++ query ++ fragment)

/-- Whether a URI is about this machine. -/
def isLocal (uri : Uri) : Bool :=
  match uri.authority with
  | some authority => authority.host.isLocal
  | none => true

/-! ## File paths -/

/-- The URI of an absolute path. -/
def ofPath? (path : Path) : Option Uri :=
  if path.isAbsolute then
    let names := path.components.tail.map fun part => '/' :: escapeBytes reservedInName part.bytes
    some { scheme := "file".toList
           authority := some { host := .none }
           path := if names.isEmpty then ['/'] else names.flatten }
  else none

/-- Whether bytes end like the name of a drive: a letter, and a colon or bar. -/
def endsInDrive (bytes : Bytes) : Bool :=
  match bytes.reverse with
  | mark :: letter :: _ :: _ =>
    (mark == 0x3A || mark == 0x7C) && (Char.ofNat letter.toNat).isAlpha && letter < 0x80
  | _ => false

/-- The path that a URI stands for, if it is on this machine and has a path of segments. The name of
a drive keeps a slash after it. -/
def toPath? (uri : Uri) : Option Path :=
  if uri.isLocal && uri.path.head? == some '/' then
    let bytes := unescape uri.path
    some ⟨if endsInDrive bytes then bytes ++ [Path.slash] else bytes⟩
  else none

end Uri

end WorkflowNav
