/-
Settings.

The settings of an editor are one JSON value, of which one section is ours. Every field is read on
its own: a value that does not fit is passed over and the default stays. Settings fall into those
that shape the search, whose change costs the caches, and those that only say which messages are
shown.
-/
import WorkflowNav.Json.Basic

set_option autoImplicit false

namespace WorkflowNav

/-- Settings that shape the search and its caches. Times are settings in whole seconds, so a number
of seconds says all there is to say about them; only the clock is finer. -/
structure SearchSettings where
  /-- How many directories below the root are entered. -/
  maxDepth : Nat := 10
  /-- How many directories are read at once. -/
  directoryBatch : Nat := 20
  /-- How many files are scanned at once. -/
  fileBatch : Nat := 10
  /-- How many seconds the text of a file stays fresh. -/
  textSeconds : Nat := 30
  /-- How many texts are kept before stale ones are swept. -/
  sweepThreshold : Nat := 100
  /-- How many seconds definitions stay known. -/
  definitionSeconds : Nat := 300
  deriving DecidableEq, Repr

/-- Settings that say which messages are shown. -/
structure NoticeSettings where
  /-- When no definition is found. -/
  notFound : Bool := true
  /-- When there is more than one definition. -/
  multipleDefinitions : Bool := true
  /-- After a search for references. -/
  references : Bool := true
  deriving DecidableEq, Repr

/-- All settings. -/
structure Settings where
  search : SearchSettings := {}
  notices : NoticeSettings := {}
  deriving DecidableEq, Repr

namespace Settings

/-- Whether a change of settings changes the search. -/
def changesSearch (old new : Settings) : Bool := old.search != new.search

/-- The name of our section. -/
def sectionName : Text := "argonav".toList

/-- A number of a section, or its default. -/
def number (part : Json) (name : String) (default : Nat) : Nat :=
  ((part.field? name.toList).bind Json.natural?).getD default

/-- A number of a section that must not be zero, or its default. -/
def positive (part : Json) (name : String) (default : Nat) : Nat :=
  (((part.field? name.toList).bind Json.natural?).filter (0 < ·)).getD default

/-- A truth value of a section, or its default. -/
def flag (part : Json) (name : String) (default : Bool) : Bool :=
  ((part.field? name.toList).bind Json.bool?).getD default

/-- The search settings of our section. -/
def searchOf (part : Json) : SearchSettings :=
  let default : SearchSettings := {}
  { maxDepth := number part "maxDepth" default.maxDepth
    directoryBatch := positive part "maxConcurrentDirectories" default.directoryBatch
    fileBatch := positive part "maxConcurrentFiles" default.fileBatch
    textSeconds := number part "contentCacheTimeoutSecs" default.textSeconds
    sweepThreshold := number part "contentCacheSweepThreshold" default.sweepThreshold
    definitionSeconds := number part "workspaceCacheTimeoutSecs" default.definitionSeconds }

/-- The notice settings of our section. -/
def noticesOf (part : Json) : NoticeSettings :=
  let default : NoticeSettings := {}
  match part.field? "notifications".toList with
  | none => default
  | some part =>
    { notFound := flag part "notFound" default.notFound
      multipleDefinitions := flag part "multipleDefinitions" default.multipleDefinitions
      references := flag part "references" default.references }

/-- The settings of our section. -/
def ofSection (part : Json) : Settings := { search := searchOf part, notices := noticesOf part }

/-- The settings in a JSON value, if it has our section. -/
def ofJson? (json : Json) : Option Settings := (json.field? sectionName).map ofSection

end Settings

end WorkflowNav
