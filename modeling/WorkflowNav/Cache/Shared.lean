/-
Fetches that share a text cache.

The files of a batch are fetched at once, each by a task of its own. A task may be held up before
any of its steps, so a batch is told by the order in which its fetches take their turns. What a
fetch has inserted is there for those that look later, and only for those.

Any list of turns is an order. It may leave fetches unfinished, and these then go on in rounds: all
take one step, in the order of the files, and so on until all have returned.
-/
import WorkflowNav.Cache.Text

set_option autoImplicit false

namespace WorkflowNav

/-- Where a fetch stands. -/
inductive Fetch where
  | idle
  /-- There was no fresh text. -/
  | missed (path : Path)
  /-- The file was read, and its text was not inserted yet. -/
  | holding (path : Path) (text : Text)
  | returned (path : Path) (outcome : Except ReadError Text)

/-- The text that a fetch has returned. -/
def Fetch.text? : Fetch → Option Text
  | .returned _ (.ok text) => some text
  | _ => none

/-- A text cache that is shared by fetches. -/
structure SharedTexts where
  cache : TextCache
  moment : Moment
  fetches : Nat → Fetch := fun _ => .idle

namespace SharedTexts

/-! ## The steps of a fetch -/

/-- Take a fetch to its next state. -/
def move (shared : SharedTexts) (id : Nat) (fetch : Fetch) : SharedTexts :=
  { shared with fetches := fun other => if other = id then fetch else shared.fetches other }

/-- Start a fetch by looking for a fresh text. -/
def lookUp (shared : SharedTexts) (id : Nat) (path : Path) : SharedTexts :=
  shared.move id <|
    match shared.cache.fresh? shared.moment.now path with
    | some text => .returned path (.ok text)
    | none => .missed path

/-- Read the file. -/
def read (shared : SharedTexts) (id : Nat) (path : Path) : SharedTexts :=
  shared.move id <|
    match shared.moment.disk.readText path with
    | .ok text => .holding path text
    | .error error => .returned path (.error error)

/-- Insert the text that was read. -/
def insert (shared : SharedTexts) (id : Nat) (path : Path) (text : Text) : SharedTexts :=
  { shared.move id (.returned path (.ok text)) with
    cache := shared.cache.insert shared.moment.now path text }

/-! ## Turns -/

/-- A fetch takes its next step. Those that are not on the list, or have returned, have none. -/
def turn (paths : List Path) (shared : SharedTexts) (id : Nat) : SharedTexts :=
  match paths[id]? with
  | none => shared
  | some path =>
    match shared.fetches id with
    | .idle => shared.lookUp id path
    | .missed path => shared.read id path
    | .holding path text => shared.insert id path text
    | .returned _ _ => shared

/-- Three rounds, after which every fetch has returned. -/
def rounds (count : Nat) : List Nat := List.range count ++ List.range count ++ List.range count

/-- Fetch some paths at once: they take the given turns, and then go on in rounds. -/
def fetchAll (cache : TextCache) (moment : Moment) (paths : List Path) (turns : List Nat) :
    SharedTexts :=
  (turns ++ rounds paths.length).foldl (turn paths) { cache := cache, moment := moment }

end SharedTexts

end WorkflowNav
