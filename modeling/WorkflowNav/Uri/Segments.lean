/-
Paths of segments.

A path is read segment by segment, and dots are resolved on the way, so what was read before a
segment decides what the segment means. Escapes of a dot count as dots. In a file URI a first
segment such as `C:` or `C|` is a drive: it is written with a colon, and it belongs to no host. No
`..` leads out of a drive.
-/
import WorkflowNav.Uri.Percent

set_option autoImplicit false

namespace WorkflowNav.Uri

/-! ## Schemes -/

/-- What a scheme says about the rest of a URI. -/
inductive Form where
  /-- Files: no service number, and drives as in `C:`. -/
  | file
  /-- A scheme with a host and its usual service number. -/
  | web (service : Nat)
  /-- Any other scheme. -/
  | other
  deriving DecidableEq, Repr

/-- The form of a scheme. -/
def formOf (scheme : Text) : Form :=
  if scheme = "file".toList then .file
  else if scheme = "http".toList ∨ scheme = "ws".toList then .web 80
  else if scheme = "https".toList ∨ scheme = "wss".toList then .web 443
  else if scheme = "ftp".toList then .web 21
  else .other

/-- Whether a character divides a path. The known schemes take a backslash for a slash. -/
def isSlash (form : Form) (c : Char) : Bool := c == '/' || (c == '\\' && form != .other)

/-- Line breaks and tabs are dropped wherever they stand. -/
def isDropped (c : Char) : Bool := c == '\t' || c == '\n' || c == '\r'

/-- A text without what is dropped. -/
def clean (text : Text) : Text := text.filter fun c => !isDropped c

/-! ## Drives -/

/-- Whether a segment is the name of a drive: a letter, and a colon or bar. -/
def isDrive : Text → Bool
  | [letter, mark] => letter.isAlpha && (mark == ':' || mark == '|')
  | _ => false

/-- Whether `..` does not lead out of a segment: it is a drive, or one up to its first backslash. -/
def isHeld (segment : Text) : Bool := isDrive (segment.takeWhile (· != '\\'))

/-- The drive and the rest of a segment in which a dropped character stands right after the colon of
a drive. It divides the two as a slash would. -/
def brokenDrive? (segment : Text) : Option (Text × Text) :=
  match segment.dropWhile isDropped with
  | [] => none
  | letter :: rest =>
    match rest.dropWhile isDropped with
    | ':' :: c :: rest =>
      let rest := clean rest
      if letter.isAlpha && isDropped c && !rest.isEmpty then some ([letter, ':'], rest) else none
    | _ => none

/-! ## Resolving dots -/

/-- A segment with escaped dots read. -/
def readDots : Text → Text
  | '%' :: '2' :: e :: rest =>
    if e == 'e' || e == 'E' then '.' :: readDots rest else '%' :: '2' :: readDots (e :: rest)
  | c :: rest => c :: readDots rest
  | [] => []

/-- A path in the course of being read. -/
structure Segments where
  /-- The segments so far, the last one first. -/
  done : List Text := []
  /-- Whether the first one is a drive that belongs to no host. -/
  hasDrive : Bool := false
  deriving DecidableEq, Repr

namespace Segments

/-- Add a segment. -/
def push (path : Segments) (segment : Text) : Segments :=
  { path with done := segment :: path.done }

/-- Leave the last segment. -/
def up (path : Segments) : Segments :=
  match path.done with
  | [] => path
  | last :: rest => if isHeld last then path else { path with done := rest }

/-- Read a segment that starts the path of a file. -/
def start (path : Segments) (segment : Text) : Segments :=
  match brokenDrive? segment with
  | some (drive, rest) => (path.push drive).push (escape reservedInPath rest)
  | none =>
    let segment := escape reservedInPath (clean segment)
    match segment with
    | [letter, _] =>
      if isDrive segment then { done := [[letter, ':']], hasDrive := true } else path.push segment
    | _ => path.push segment

/-- Read segments. A dot at the end leaves an empty segment, so that the path still ends in a
slash. -/
def run (form : Form) (path : Segments) : List Text → Segments
  | [] => path
  | segment :: rest =>
    let finish (path : Segments) := if rest.isEmpty then path.push [] else path
    let dots := readDots (clean segment)
    let path :=
      if dots = ['.', '.'] then finish path.up
      else if dots = ['.'] then finish path
      else if form = .file && path.done.isEmpty then path.start segment
      else path.push (escape reservedInPath (clean segment))
    run form path rest

/-- The text of a path. That of a file has only one slash at its front. -/
def toText (form : Form) (path : Segments) : Text :=
  let segments := path.done.reverse
  let segments := if form = .file then
      match segments.dropWhile List.isEmpty with
      | [] => [[]]
      | segments => segments
    else segments
  segments.flatMap ('/' :: ·)

end Segments

/-- Read a path of segments, given without the slash at its front. -/
def segments (form : Form) (text : Text) : Segments :=
  Segments.run form {} (cut '/' (text.map fun c => if isSlash form c then '/' else c))

/-- The normal form of a path of segments, given without the slash at its front. -/
def normalPath (form : Form) (text : Text) : Text := (segments form text).toText form

end WorkflowNav.Uri
