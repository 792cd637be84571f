/-
Definitions that were found, kept until something changes.

Answers are collected in one snapshot. It lives until it is older than the timeout, counted from its
first answer, or until any manifest changes, and then goes as a whole: the set of files may have
changed, and no answer tells which files it rests on.

A search takes time, and a change may fall into it. So a search notes the generation before it
starts and hands it in with its answer; every invalidation opens a new generation, and an answer
from an old one is not kept. Generations are counted with 64 bits and start over after the last.
-/
import WorkflowNav.Location
import WorkflowNav.Moment

set_option autoImplicit false

namespace WorkflowNav

/-- The definitions found since an instant, by name. -/
structure DefinitionSnapshot where
  startedAt : Nat
  answers : List (Text × List Location) := []
  deriving DecidableEq, Repr

/-- The snapshot, if there is one, and the generation. -/
structure DefinitionCache where
  /-- In milliseconds. -/
  timeout : Nat
  generation : Nat := 0
  snapshot : Option DefinitionSnapshot := none
  deriving DecidableEq, Repr

namespace DefinitionCache

/-- The snapshot, if it is no older than the timeout. -/
def live? (cache : DefinitionCache) (now : Nat) : Option DefinitionSnapshot :=
  cache.snapshot.filter fun snapshot => now - snapshot.startedAt ≤ cache.timeout

/-- The answer for a name in a live snapshot. -/
def lookup? (cache : DefinitionCache) (now : Nat) (name : Text) : Option (List Location) :=
  (cache.live? now).bind fun snapshot => Keyed.get? name snapshot.answers

/-- Keep an answer. It joins a live snapshot or starts a new one. -/
def keep (cache : DefinitionCache) (now : Nat) (name : Text) (locations : List Location) :
    DefinitionCache :=
  let snapshot := (cache.live? now).getD { startedAt := now }
  { cache with
    snapshot := some { snapshot with answers := Keyed.put name locations snapshot.answers } }

/-- Keep an answer from a search that started in a generation, unless that has ended. -/
def record (cache : DefinitionCache) (now generation : Nat) (name : Text)
    (locations : List Location) : DefinitionCache :=
  if cache.generation ≠ generation then cache else cache.keep now name locations

/-- The number of generations that can be told apart. -/
def generationLimit : Nat := 18446744073709551616

/-- Open a new generation: the first step of an invalidation. -/
def advance (cache : DefinitionCache) : DefinitionCache :=
  { cache with generation := (cache.generation + 1) % generationLimit }

/-- Drop the snapshot: the second step of an invalidation. -/
def drop (cache : DefinitionCache) : DefinitionCache := { cache with snapshot := none }

/-- Forget everything, also what is still being searched for. -/
def invalidate (cache : DefinitionCache) : DefinitionCache := cache.advance.drop

/-- Number of names in a live snapshot. -/
def size (cache : DefinitionCache) (now : Nat) : Nat :=
  match cache.live? now with
  | some snapshot => snapshot.answers.length
  | none => 0

end DefinitionCache

end WorkflowNav
