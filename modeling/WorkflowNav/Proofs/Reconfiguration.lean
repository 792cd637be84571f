/-
The navigator runs under the current settings.

Six settings shape the search. They are compared when new settings come in, and they are spread over
a navigator when it is made: two limits of the crawl, the size of a batch, and the timeouts and the
threshold of two caches. If the comparison left one of them out, a navigator would go on under an
old setting, and that would show only after a certain series of changes.

What a navigator runs under is its `Limits`, read off its parts. Nothing that a navigator is used
for touches them (`Navigator.limits_use`), and they tell the six settings (`limits_ofSettings_inj`),
so that a navigator made for other settings is another one. That gives the invariant for every step
of a workspace, and what a server does to its workspace is such steps (`Server.steps_receive`).
-/
import Mathlib.Logic.Relation
import WorkflowNav.Proofs.Scan
import WorkflowNav.Server.Basic

set_option autoImplicit false

namespace WorkflowNav

/-! ## What a navigator runs under -/

/-- What a navigator runs under. Times are in milliseconds. -/
structure Limits where
  depth : Nat
  directoryBatch : Nat
  fileBatch : Nat
  textTimeout : Nat
  sweepThreshold : Nat
  definitionTimeout : Nat
  deriving DecidableEq, Repr

/-- Settings of the search are others if one of the six is. -/
theorem SearchSettings.ne_iff {settings other : SearchSettings} :
    settings ≠ other
      ↔ settings.maxDepth ≠ other.maxDepth ∨ settings.directoryBatch ≠ other.directoryBatch
        ∨ settings.fileBatch ≠ other.fileBatch ∨ settings.textSeconds ≠ other.textSeconds
        ∨ settings.sweepThreshold ≠ other.sweepThreshold
        ∨ settings.definitionSeconds ≠ other.definitionSeconds := by
  obtain ⟨depth, directories, files, texts, threshold, definitions⟩ := settings
  obtain ⟨depth', directories', files', texts', threshold', definitions'⟩ := other
  simp only [ne_eq, SearchSettings.mk.injEq, not_and_or]

/-- Other tasks leave the timeout of the definitions as it is. -/
def Meanwhile.KeepsTimeout (meanwhile : Meanwhile) : Prop :=
  ∀ texts cache, (meanwhile.definitions texts cache).timeout = cache.timeout

namespace Navigator

/-- The limits of a navigator, each read where it takes effect. -/
def limits (navigator : Navigator) : Limits where
  depth := navigator.settings.maxDepth
  directoryBatch := navigator.settings.directoryBatch
  fileBatch := navigator.settings.fileBatch
  textTimeout := navigator.texts.timeout
  sweepThreshold := navigator.texts.threshold
  definitionTimeout := navigator.definitions.timeout

/-- Navigators made for different settings have different limits. -/
theorem limits_ofSettings_inj {settings other : SearchSettings} :
    (ofSettings settings).limits = (ofSettings other).limits ↔ settings = other := by
  constructor
  · intro h
    obtain ⟨depth, directories, files, texts, threshold, definitions⟩ := settings
    obtain ⟨depth', directories', files', texts', threshold', definitions'⟩ := other
    simp only [limits, ofSettings, seconds, Limits.mk.injEq] at h
    simp only [SearchSettings.mk.injEq]
    -- the timeouts are a thousand times the seconds
    omega
  · rintro rfl
    rfl

/-- What a navigator is used for, and the navigator after it. -/
inductive Use (navigator : Navigator) : Navigator → Prop
  | ask (moment : Moment) (meanwhile : Meanwhile) (root : Path) (query : Query)
      (h : meanwhile.KeepsTimeout) :
      Use navigator (navigator.run moment meanwhile root query).2
  | fetch (moment : Moment) (path : Path) :
      Use navigator { navigator with texts := (navigator.texts.fetch moment path).2 }
  | handleChange (change : FileChange) : Use navigator (navigator.handleChange change)
  | invalidateAll : Use navigator navigator.invalidateAll

section Use

variable {navigator next : Navigator} {moment : Moment} {meanwhile : Meanwhile} {root : Path}
variable {query : Query}

/-- A search leaves the limits of the text cache as they are. -/
theorem texts_search_limits (navigator : Navigator) (moment : Moment) (meanwhile : Meanwhile)
    (root : Path) (query : Query) :
    (navigator.search moment meanwhile root query).2.texts.timeout = navigator.texts.timeout
      ∧ (navigator.search moment meanwhile root query).2.texts.threshold
        = navigator.texts.threshold := by
  refine Scan.texts_run (P := fun cache => cache.timeout = navigator.texts.timeout
    ∧ cache.threshold = navigator.texts.threshold) ?_ ⟨rfl, rfl⟩ meanwhile.turns
  rintro cache ⟨htimeout, hthreshold⟩ path - text -
  exact ⟨TextCache.timeout_insert.trans htimeout, TextCache.threshold_insert.trans hthreshold⟩

/-- The definitions after a question keep their timeout. -/
theorem timeout_definitions_run (h : meanwhile.KeepsTimeout) :
    (navigator.run moment meanwhile root query).2.definitions.timeout
      = navigator.definitions.timeout := by
  cases query with
  | definition name =>
    rw [run, findDefinition]
    split
    · rfl
    · exact DefinitionCache.timeout_record.trans (h _ _)
  | _ => exact h _ _

theorem limits_run (h : meanwhile.KeepsTimeout) :
    (navigator.run moment meanwhile root query).2.limits = navigator.limits := by
  have htexts : (navigator.run moment meanwhile root query).2.texts.timeout
        = navigator.texts.timeout
      ∧ (navigator.run moment meanwhile root query).2.texts.threshold
        = navigator.texts.threshold := by
    rcases texts_run navigator moment meanwhile root query with hsame | hsearch
    · rw [hsame]
      exact ⟨rfl, rfl⟩
    · rw [hsearch]
      exact texts_search_limits navigator moment meanwhile root query
  rw [limits, settings_run, htexts.1, htexts.2, timeout_definitions_run h]
  rfl

/-- **No use of a navigator touches its limits.** -/
theorem limits_use (h : navigator.Use next) : next.limits = navigator.limits := by
  cases h with
  | ask moment meanwhile root query hkeeps => exact limits_run hkeeps
  | fetch moment path =>
    have htimeout : (navigator.texts.fetch moment path).2.timeout = navigator.texts.timeout :=
      TextCache.timeout_fetchBeyond
    have hthreshold : (navigator.texts.fetch moment path).2.threshold
        = navigator.texts.threshold := TextCache.threshold_fetchBeyond
    rw [limits, htimeout, hthreshold]
    rfl
  | handleChange change => rfl
  | invalidateAll => rfl

/-- To resolve a cursor, a navigator is asked at most once. -/
theorem resolve_cases (navigator : Navigator) (moment : Moment) (root : Path) (text : Text)
    (line column : Nat) :
    (navigator.resolve moment {} root text line column).2.2 = navigator
      ∨ navigator.Use (navigator.resolve moment {} root text line column).2.2 := by
  unfold resolve
  split
  · exact .inl rfl
  · split
    · exact .inl rfl
    · exact .inr (.ask moment {} root _ fun _ _ => rfl)

end Use

end Navigator

/-! ## Steps of a workspace -/

namespace Workspace

/-- What can happen to a workspace. Edits and new versions are updates of a document. -/
inductive Step (workspace : Workspace) : Workspace → Prop
  | configure (settings : Settings) : Step workspace (workspace.configure settings)
  | openDocument (uri : Uri) (text : Text) (version : Option Int) :
      Step workspace (workspace.openDocument uri text version)
  | closeDocument (uri : Uri) : Step workspace (workspace.closeDocument uri)
  | updateDocument (uri : Uri) (change : Document → Document) :
      Step workspace (workspace.updateDocument uri change)
  | folders (folders : List Uri) : Step workspace { workspace with folders := folders }
  | use (navigator : Navigator) (h : workspace.navigator.Use navigator) :
      Step workspace { workspace with navigator := navigator }

/-- The navigator runs under the settings. -/
def IsCurrent (workspace : Workspace) : Prop :=
  workspace.navigator.limits = (Navigator.ofSettings workspace.settings.search).limits

section Configure

variable {workspace next : Workspace} {settings : Settings}

theorem navigator_configure_of_eq (h : workspace.settings.search = settings.search) :
    (workspace.configure settings).navigator = workspace.navigator := by
  simp [configure, Settings.changesSearch, h]

theorem navigator_configure_of_ne (h : workspace.settings.search ≠ settings.search) :
    (workspace.configure settings).navigator = .ofSettings settings.search := by
  simp [configure, Settings.changesSearch, h]

theorem IsCurrent.configure (h : workspace.IsCurrent) (settings : Settings) :
    (workspace.configure settings).IsCurrent := by
  by_cases hsearch : workspace.settings.search = settings.search
  · rw [IsCurrent, navigator_configure_of_eq hsearch, h, hsearch]
    rfl
  · rw [IsCurrent, navigator_configure_of_ne hsearch]
    rfl

/-- Under the current settings, a navigator is replaced if the settings of the search change. -/
theorem IsCurrent.navigator_configure_ne_iff (h : workspace.IsCurrent) :
    (workspace.configure settings).navigator ≠ workspace.navigator
      ↔ workspace.settings.search ≠ settings.search := by
  constructor
  · intro hreplaced hsearch
    exact hreplaced (navigator_configure_of_eq hsearch)
  · intro hsearch hkept
    -- a navigator that was kept would have the limits of both settings
    have hlimits : (Navigator.ofSettings settings.search).limits = workspace.navigator.limits := by
      rw [← navigator_configure_of_ne hsearch, hkept]
    rw [h, Navigator.limits_ofSettings_inj] at hlimits
    exact hsearch hlimits.symm

/-- One step keeps the navigator under the settings. -/
theorem IsCurrent.step (h : workspace.IsCurrent) (hstep : workspace.Step next) :
    next.IsCurrent := by
  cases hstep with
  | configure settings => exact h.configure settings
  | openDocument uri text version => exact h
  | closeDocument uri => exact h
  | updateDocument uri change =>
    unfold Workspace.updateDocument
    split
    · exact h
    · exact h
  | folders folders => exact h
  | use navigator huse => exact (Navigator.limits_use huse).trans h

theorem isCurrent_ofSettings (settings : Settings) : (ofSettings settings).IsCurrent := rfl

theorem isCurrent_of_steps (hsteps : Relation.ReflTransGen Step (ofSettings settings) workspace) :
    workspace.IsCurrent := by
  induction hsteps with
  | refl => exact isCurrent_ofSettings settings
  | tail _ hstep ih => exact ih.step hstep

end Configure

/-- **The navigator always runs under the current settings.** After any steps its limits are those
of a navigator made for the settings. New settings replace it, and its caches with it, exactly if
one of the six that shape the search is another; otherwise it stays with its caches. Documents with
their versions, and folders, stay in any case. -/
theorem navigator_follows_settings (first : Settings) (workspace : Workspace)
    (hsteps : Relation.ReflTransGen Step (ofSettings first) workspace) :
    workspace.navigator.limits = (Navigator.ofSettings workspace.settings.search).limits
    ∧ ∀ settings : Settings,
      ((workspace.configure settings).navigator ≠ workspace.navigator
        ↔ workspace.settings.search.maxDepth ≠ settings.search.maxDepth
          ∨ workspace.settings.search.directoryBatch ≠ settings.search.directoryBatch
          ∨ workspace.settings.search.fileBatch ≠ settings.search.fileBatch
          ∨ workspace.settings.search.textSeconds ≠ settings.search.textSeconds
          ∨ workspace.settings.search.sweepThreshold ≠ settings.search.sweepThreshold
          ∨ workspace.settings.search.definitionSeconds ≠ settings.search.definitionSeconds)
      ∧ ((workspace.configure settings).navigator ≠ workspace.navigator →
        (workspace.configure settings).navigator = .ofSettings settings.search
          ∧ (workspace.configure settings).navigator.texts.entries = []
          ∧ (workspace.configure settings).navigator.definitions.snapshot = none)
      ∧ (workspace.configure settings).settings = settings
      ∧ (workspace.configure settings).documents = workspace.documents
      ∧ (workspace.configure settings).folders = workspace.folders := by
  have hcurrent := isCurrent_of_steps hsteps
  refine ⟨hcurrent, fun settings => ⟨?_, ?_, rfl, rfl, rfl⟩⟩
  · rw [hcurrent.navigator_configure_ne_iff, SearchSettings.ne_iff]
  · intro hreplaced
    rw [navigator_configure_of_ne (hcurrent.navigator_configure_ne_iff.1 hreplaced)]
    exact ⟨rfl, rfl, rfl⟩

/-- An open document, and a navigator that was asked where `x` is defined. -/
def exampleAsked : Workspace :=
  let opened := (ofSettings {}).openDocument
    { scheme := "file".toList, authority := none, path := "/a.yaml".toList } "a\n".toList (some 1)
  { opened with navigator := (opened.navigator.run {} {} .top (.definition ['x'])).2 }

theorem steps_exampleAsked : Relation.ReflTransGen Step (ofSettings {}) exampleAsked :=
  .head (.openDocument _ _ _) (.single (.use _ (.ask {} {} .top (.definition ['x'])
    fun _ _ => rfl)))

/-- The answer is still known after a change of notices, and no longer after one of the depth. -/
theorem navigator_follows_settings_asked :
    Relation.ReflTransGen Step (ofSettings {}) exampleAsked
      ∧ exampleAsked.navigator.limits = (Navigator.ofSettings {}).limits
      ∧ (exampleAsked.configure { notices := { notFound := false } }).navigator.definitions.lookup?
          0 ['x'] ≠ none
      ∧ (exampleAsked.configure { search := { maxDepth := 2 } }).navigator.definitions.lookup?
          0 ['x'] = none
      ∧ (exampleAsked.configure { search := { maxDepth := 2 } }).documents
          = exampleAsked.documents := by
  obtain ⟨hlimits, hconfigure⟩ :=
    navigator_follows_settings {} exampleAsked steps_exampleAsked
  have hknown : exampleAsked.navigator.definitions.lookup? 0 ['x'] ≠ none := by
    have hlookup := Navigator.lookup?_run (ofSettings {}).navigator {} .top ['x']
    intro hnone
    exact absurd (hlookup.symm.trans hnone) (by simp)
  refine ⟨steps_exampleAsked, hlimits, ?_, ?_, (hconfigure _).2.2.2.1⟩
  · have hsame := mt (hconfigure { notices := { notFound := false } }).1.1 (by decide)
    rw [not_ne_iff.1 hsame]
    exact hknown
  · obtain ⟨hiff, hlost, -⟩ := hconfigure { search := { maxDepth := 2 } }
    obtain ⟨-, -, hsnapshot⟩ := hlost (hiff.2 (by decide))
    rw [DefinitionCache.lookup?, DefinitionCache.live?, hsnapshot]
    rfl

end Workspace

/-! ## What a server does to its workspace -/

namespace Server

open Workspace (Step)

theorem steps_configure (workspace : Workspace) (json : Json) :
    Relation.ReflTransGen Step workspace (configure workspace json) := by
  unfold configure
  split
  · exact .single (.configure _)
  · exact .refl

/-- An introduction adds folders and takes over settings. -/
theorem steps_introduce (server : Server) (introduction : Introduction) :
    Relation.ReflTransGen Step server.workspace (server.introduce introduction).workspace := by
  have hfolders : ∀ (folders : List Uri) (workspace : Workspace),
      Relation.ReflTransGen Step workspace (folders.foldl Workspace.addFolder workspace) := by
    intro folders
    induction folders with
    | nil => exact fun _ => .refl
    | cons uri folders ih => exact fun workspace => .head (.folders _) (ih _)
  unfold introduce
  dsimp only
  split
  · exact (hfolders _ _).trans (steps_configure _ _)
  · exact hfolders _ _

/-- To get at a text, a server uses its navigator at most once. -/
theorem steps_textOf (workspace : Workspace) (moment : Moment) (uri : Uri) :
    Relation.ReflTransGen Step workspace (textOf workspace moment uri).2 := by
  unfold textOf
  split
  · exact .refl
  · split
    · exact .refl
    · next path _ => exact .single (.use _ (.fetch moment path))

theorem steps_resolve (workspace : Workspace) (moment : Moment) (uri : Uri) (position : Position) :
    Relation.ReflTransGen Step workspace (resolve workspace moment uri position).2.2 := by
  unfold resolve
  split
  · exact .refl
  · next root _ =>
    have htext := steps_textOf workspace moment uri
    split
    · next known heq =>
      rw [heq] at htext
      exact htext
    · next text known heq =>
      rw [heq] at htext
      refine htext.trans ?_
      -- the text came first, so the question is put to the navigator that has it
      change Relation.ReflTransGen Step known { known with
        navigator := (known.navigator.resolve moment {} root text position.row
          position.column).2.2 }
      rcases Navigator.resolve_cases known.navigator moment root text position.row
        position.column with hsame | huse
      · rw [hsame]
      · exact .single (.use _ huse)

/-- A message in a running session. -/
theorem steps_handle (server : Server) (moment : Moment) (message : Message) :
    Relation.ReflTransGen Step server.workspace
      (server.handle moment message).server.workspace := by
  cases message with
  | opened uri text version => exact .single (.openDocument uri text (some version))
  | edited uri version edits =>
    have hedits : ∀ (edits : List Edit) (workspace : Workspace),
        Relation.ReflTransGen Step workspace
          (edits.foldl (fun workspace edit => workspace.editDocument uri edit) workspace) := by
      intro edits
      induction edits with
      | nil => exact fun _ => .refl
      | cons edit edits ih => exact fun workspace => .head (.updateDocument uri _) (ih _)
    exact (hedits edits server.workspace).tail (.updateDocument uri _)
  | closed uri => exact .single (.closeDocument uri)
  | configured settings => exact steps_configure server.workspace settings
  | definition uri position =>
    have hresolve := steps_resolve server.workspace moment uri position
    unfold handle findDefinition
    dsimp only
    split <;> exact hresolve
  | references uri position withDeclaration =>
    have hresolve := steps_resolve server.workspace moment uri position
    unfold handle findReferences
    dsimp only
    split <;> exact hresolve
  -- all other messages leave the workspace alone
  | malformed intent => cases intent <;> exact .refl
  | _ => exact .refl

/-- **All that a message does to a workspace is steps.** -/
theorem steps_receive (server : Server) (moment : Moment) (message : Message) :
    Relation.ReflTransGen Step server.workspace
      (server.receive moment message).server.workspace := by
  unfold receive
  split
  · exact steps_introduce server _
  · exact .refl
  · exact .refl
  · exact steps_handle server moment _
  · exact .refl

/-- Working off the queue uses the navigator once for each change. -/
theorem steps_settle (server : Server) :
    Relation.ReflTransGen Step server.workspace server.settle.workspace := by
  have hchanges : ∀ (changes : List FileChange) (workspace : Workspace),
      Relation.ReflTransGen Step workspace { workspace with
        navigator := changes.foldl Navigator.handleChange workspace.navigator } := by
    intro changes
    induction changes with
    | nil => exact fun _ => .refl
    | cons change changes ih =>
      exact fun workspace => .head (.use _ (.handleChange change)) (ih _)
  exact hchanges server.queue.changes server.workspace

/-- A server takes a message, or works off its queue. -/
inductive Turn (server : Server) : Server → Prop
  | receive (moment : Moment) (message : Message) :
      Turn server (server.receive moment message).server
  | settle : Turn server server.settle

/-- In every session, requests are answered under the settings that were last taken over. -/
theorem isCurrent_of_turns {server : Server} (hturns : Relation.ReflTransGen Turn {} server) :
    server.workspace.IsCurrent := by
  have hsteps : Relation.ReflTransGen Step (.ofSettings {}) server.workspace := by
    induction hturns with
    | refl => exact .refl
    | tail _ hturn ih =>
      cases hturn with
      | receive moment message => exact ih.trans (steps_receive _ moment message)
      | settle => exact ih.trans (steps_settle _)
  exact Workspace.isCurrent_of_steps hsteps

end Server

end WorkflowNav
