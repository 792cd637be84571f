/-
Reading URIs.

Only absolute URIs are read: a scheme is needed. Editors do not all write a URI the same way, so
reading brings it to one form. The scheme and a host are put in lower case, dots in a path are
resolved, characters that may not stand in a part are escaped, and escapes already there are left as
they are. A file URI always gets two slashes, and the host `localhost` in it is the same as none.

A path without a slash at its front, after a scheme that does not require one, is kept as one piece.
-/
import WorkflowNav.Uri.Basic
import WorkflowNav.Uri.Segments

set_option autoImplicit false

namespace WorkflowNav.Uri

/-- Whether a character ends a path. -/
def endsPath (c : Char) : Bool := c == '?' || c == '#'

/-- What stands before the query and the fragment. -/
def untilEnd (text : Text) : Text := text.takeWhile fun c => !endsPath c

/-! ## Authorities -/

/-- Split at the last occurrence of a character: what is before it, if it occurs, and what is
after. -/
def splitLast (mark : Char) (text : Text) : Option Text × Text :=
  let back := text.reverse
  let after := (back.takeWhile (· != mark)).reverse
  match back.dropWhile (· != mark) with
  | [] => (none, text)
  | _ :: before => (some before.reverse, after)

/-- The name and password of a user in normal form, with the sign after them. -/
def userText (text : Text) : Text :=
  let name := escape reservedInUser (text.takeWhile (· != ':'))
  let password := escape reservedInUser ((text.dropWhile (· != ':')).drop 1)
  if name.isEmpty && password.isEmpty then []
  else if password.isEmpty then name ++ ['@']
  else name ++ ':' :: password ++ ['@']

/-- What stands before the first colon outside of brackets. -/
def untilColon (inBrackets : Bool) : Text → Text
  | [] => []
  | c :: rest =>
    if c == ':' && !inBrackets then []
    else c :: untilColon (c == '[' || (inBrackets && c != ']')) rest

/-- The number of a service, unless it is the usual one of the scheme. It may be left out. -/
def service? (form : Form) (digits : Text) : Option (Option Nat) :=
  let value := Text.decimalValue digits
  if digits.isEmpty then some none
  else if value < 0x10000 then some (if form = .web value then none else some value)
  else none

/-- The service after a host, and what follows it. Only a backslash may follow it directly. -/
def serviceAfter? (form : Form) : Text → Option (Option Nat × Text)
  | ':' :: text => do
    let digits := text.takeWhile Char.isDigit
    let rest := text.drop digits.length
    guard (rest.isEmpty || rest.head? == some '\\')
    return (← service? form digits, rest)
  | rest => some (none, rest)

/-- The host of a scheme. -/
def host? (form : Form) (text : Text) : Option Host :=
  if form = .other then Host.ofText? text else Host.ofDomain? text

/-- The authority at the front of a text, and what follows it. A user needs a host, and so does a
service. -/
def authority? (form : Form) (text : Text) : Option (Authority × Text) := do
  let place := text.takeWhile fun c => !(isSlash form c || endsPath c)
  let follows := text.drop place.length
  let (user, place) := splitLast '@' place
  guard (user != some [] || !place.isEmpty || follows.isEmpty)
  let name := untilColon false place
  let host ← host? form name
  let (service, rest) ← serviceAfter? form (place.drop name.length)
  let user := userText (user.getD [])
  guard (host != .none || (user.isEmpty && place.length == name.length))
  return ({ user := user, host := host, service := service }, rest ++ follows)

/-! ## Whole URIs -/

/-- Add query and fragment, from the mark of the first. -/
def withEnd (uri : Uri) (form : Form) (text : Text) : Uri :=
  let reserved (c : Char) :=
    c == ' ' || c == '\x22' || c == '<' || c == '>' || (c == '\x27' && form != .other)
  let query := match text with
    | '?' :: rest => some (escape reserved (rest.takeWhile (· != '#')))
    | _ => none
  let fragment := match text.dropWhile (· != '#') with
    | _ :: rest => some (escape reservedInFragment rest)
    | [] => none
  { uri with query := query, fragment := fragment }

/-- What follows a slash at the front of a text, whatever is dropped before it. -/
def afterSlash? (form : Form) (text : Text) : Option Text :=
  match text.dropWhile isDropped with
  | [] => none
  | c :: rest => if isSlash form c then some rest else none

/-- Host and path of a file URI, from what stands between its colon and its query. After one slash
comes the path. After two comes a host, unless what stands there is a drive; if it is no other
machine then the slash after it belongs to the path. -/
def filePlace? (text : Text) : Option (Host × Text) :=
  match afterSlash? .file text with
  | none => some (.none, text)
  | some text =>
    match afterSlash? .file text with
    | none => some (.none, text)
    | some text =>
      let name := text.takeWhile fun c => !isSlash .file c
      let rest := text.drop name.length
      let name := clean name
      if isDrive name then some (.none, text)
      else if name.isEmpty then some (.none, rest)
      else
        (Host.ofDomain? name).map fun host =>
          if host = .localName then (.none, rest) else (host, rest.drop 1)

/-- The rest of a file URI after its colon. A host before a drive is dropped. -/
def ofFileRest? (scheme text : Text) : Option Uri :=
  let body := untilEnd text
  (filePlace? body).map fun (host, path) =>
    let path := segments .file path
    let host := if path.hasDrive then .none else host
    let uri : Uri :=
      { scheme := scheme, authority := some { host := host }, path := path.toText .file }
    uri.withEnd .file (clean (text.drop body.length))

/-- The rest of a URI of a known scheme after its colon. Any number of slashes may stand there. -/
def ofWebRest? (scheme : Text) (form : Form) (text : Text) : Option Uri := do
  let (authority, rest) ← authority? form (text.dropWhile (isSlash form))
  let body := untilEnd rest
  let uri : Uri :=
    { scheme := scheme, authority := some authority, path := normalPath form (body.drop 1) }
  return uri.withEnd form (rest.drop body.length)

/-- The path after an authority under a scheme that is not known. -/
def pathAfterAuthority (body : Text) : Text :=
  match body with
  | [] => []
  | '/' :: rest => normalPath .other rest
  | body => normalPath .other body

/-- The path under a scheme that is not known, without an authority. -/
def pathAlone (body : Text) : Text :=
  match body with
  | '/' :: rest => normalPath .other rest
  | body => escape reservedNowhere body

/-- The rest of a URI of any other scheme after its colon. -/
def ofOtherRest? (scheme text : Text) : Option Uri := do
  match text with
  | '/' :: '/' :: text =>
    let (authority, rest) ← authority? .other text
    let body := untilEnd rest
    let uri : Uri :=
      { scheme := scheme, authority := some authority, path := pathAfterAuthority body }
    return uri.withEnd .other (rest.drop body.length)
  | text =>
    let body := untilEnd text
    let uri : Uri := { scheme := scheme, authority := none, path := pathAlone body }
    return uri.withEnd .other (text.drop body.length)

/-- Characters of a scheme after its first letter. -/
def isSchemeChar (c : Char) : Bool := c.isAlphanum || c == '+' || c == '-' || c == '.'

/-- Whether a text is a scheme. -/
def isScheme (text : Text) : Bool :=
  (text.head?.map Char.isAlpha).getD false && text.all isSchemeChar

/-- Control characters and spaces are dropped at both ends. -/
def isPadding (c : Char) : Bool := c.toNat ≤ 0x20

/-- A text without padding. -/
def trimmed (text : Text) : Text :=
  ((text.dropWhile isPadding).reverse.dropWhile isPadding).reverse

/-- The URI written by a text, if it is absolute. -/
def parse? (text : Text) : Option Uri :=
  let text := trimmed text
  let scheme := clean (text.takeWhile (· != ':'))
  match text.dropWhile (· != ':') with
  | [] => none
  | _ :: rest =>
    if isScheme scheme then
      let scheme := scheme.map Char.toLower
      match formOf scheme with
      | .file => ofFileRest? scheme rest
      | .web service => ofWebRest? scheme (.web service) (clean rest)
      | .other => ofOtherRest? scheme (clean rest)
    else none

end WorkflowNav.Uri
