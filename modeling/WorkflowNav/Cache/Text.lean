/-
The texts of files, kept for a short time.

A text is served without reading the file while it is younger than the timeout. Nothing else removes
it, so stale texts would pile up: once there are more texts than a threshold, every insertion sweeps
out the expired ones. There is no bound on the number of texts that are still fresh.

The two comparisons differ by design: a text exactly as old as the timeout is no longer served, but
not yet swept.

Fetching is three steps, and other tasks may come between them: look for a fresh text, read the
file, insert what was read.
-/
import WorkflowNav.Moment

set_option autoImplicit false

namespace WorkflowNav

/-- A text and when it was read. -/
structure CachedText where
  text : Text
  readAt : Nat
  deriving DecidableEq, Repr

/-- Texts by the components of their paths. -/
structure TextCache where
  /-- In milliseconds. -/
  timeout : Nat
  threshold : Nat
  entries : List (List Component × CachedText) := []
  deriving DecidableEq, Repr

/-- Why the text of a file cannot be had. -/
inductive ReadError where
  | unreadable (path : Path) (cause : DiskError)
  | notText (path : Path)
  deriving DecidableEq, Repr

/-- The words for a read error. -/
def ReadError.message : ReadError → Text
  | unreadable path cause =>
    "failed to read ".toList ++ path.toText ++ ": ".toList ++ cause.message.toList
  | notText path => path.toText ++ " is not valid UTF-8".toList

/-- The text of a file on disk. -/
def Disk.readText (disk : Disk) (path : Path) : Except ReadError Text :=
  match disk.read path with
  | .error cause => .error (.unreadable path cause)
  | .ok bytes =>
    match Text.decode? bytes with
    | some text => .ok text
    | none => .error (.notText path)

namespace TextCache

/-- Number of texts. -/
def size (cache : TextCache) : Nat := cache.entries.length

/-- Whether there is a text for a path, fresh or not. -/
def contains (cache : TextCache) (path : Path) : Bool :=
  (Keyed.get? path.components cache.entries).isSome

/-- The text for a path, if it is younger than the timeout. -/
def fresh? (cache : TextCache) (now : Nat) (path : Path) : Option Text :=
  match Keyed.get? path.components cache.entries with
  | some entry => if now - entry.readAt < cache.timeout then some entry.text else none
  | none => none

/-- Drop the texts that are older than the timeout. -/
def sweep (cache : TextCache) (now : Nat) : TextCache :=
  { cache with entries := cache.entries.filter fun pair => now - pair.2.readAt ≤ cache.timeout }

/-- Keep a text that was read just now, and sweep if there are too many. -/
def insert (cache : TextCache) (now : Nat) (path : Path) (text : Text) : TextCache :=
  let cache := { cache with
    entries := Keyed.put path.components { text := text, readAt := now } cache.entries }
  if cache.threshold < cache.size then cache.sweep now else cache

/-- Drop the text for a path. -/
def erase (cache : TextCache) (path : Path) : TextCache :=
  { cache with entries := Keyed.erase path.components cache.entries }

/-- Drop all texts. -/
def clear (cache : TextCache) : TextCache := { cache with entries := [] }

/-- The text of a file: one that was fresh among the `known` texts, or else the one on disk, which
is kept. -/
def fetchBeyond (known cache : TextCache) (moment : Moment) (path : Path) :
    Except ReadError Text × TextCache :=
  match known.fresh? moment.now path with
  | some text => (.ok text, cache)
  | none =>
    match moment.disk.readText path with
    | .ok text => (.ok text, cache.insert moment.now path text)
    | .error error => (.error error, cache)

/-- The text of a file: a fresh one, or else the one on disk, which is kept. -/
def fetch (cache : TextCache) (moment : Moment) (path : Path) : Except ReadError Text × TextCache :=
  cache.fetchBeyond cache moment path

end TextCache

end WorkflowNav
