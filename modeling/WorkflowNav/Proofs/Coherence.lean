/-
Neither cache shows.

While word of a change is on its way, a navigator may serve what was there before it. So what holds
at all times is relative to the places that are still *stale*, in the sense that the manifest there
changed and the navigator has not been told since: texts are right at every other place, and the
definitions are right if no place is stale at all (`CoherentExcept`). Every operation keeps this
with a set of stale places that only a change of the disk makes larger and only word of a change
makes smaller.

From it follows the theorem about one navigator and one root: if questions are asked only while no
place is stale, every answer is the one that a search without caches gives.
-/
import Mathlib.Logic.Relation
import Mathlib.Tactic.Push
import WorkflowNav.Proofs.Line
import WorkflowNav.Proofs.Scan

set_option autoImplicit false

namespace WorkflowNav

open Text (Bytes)

/-! ## Coherent caches -/

namespace Navigator

/-- The caches agree with the disk, but for places that are stale. -/
structure CoherentExcept (navigator : Navigator) (disk : Disk) (root : Path)
    (stale : Place → Prop) : Prop where
  texts : ∀ names, Path.LeadsToManifest names →
    stale names ∨ navigator.texts.RightAt root names (disk.fileBelow? root names)
  /-- Answers rest on all manifests, so one stale place makes all of them doubtful. -/
  definitions : (∃ names, Path.LeadsToManifest names ∧ stale names)
    ∨ navigator.definitions.Holds fun name locations =>
        locations = disk.uncached navigator.settings root (.definition name)

variable {navigator : Navigator} {disk : Disk} {root : Path} {stale : Place → Prop}

theorem coherentExcept_ofSettings (settings : SearchSettings) :
    (ofSettings settings).CoherentExcept disk root stale where
  texts _ _ := .inr fun _ hmem => absurd hmem List.not_mem_nil
  definitions := .inr (DefinitionCache.holds_of_snapshot rfl)

theorem coherentExcept_invalidateAll : navigator.invalidateAll.CoherentExcept disk root stale where
  texts _ _ := .inr fun _ hmem => absurd hmem List.not_mem_nil
  definitions := .inr (DefinitionCache.holds_of_snapshot rfl)

namespace CoherentExcept

theorem mono {other : Place → Prop} (h : navigator.CoherentExcept disk root stale)
    (hsub : ∀ names, Path.LeadsToManifest names → stale names → other names) :
    navigator.CoherentExcept disk root other where
  texts names hleads := (h.texts names hleads).imp_left (hsub names hleads)
  definitions := h.definitions.imp_left fun ⟨names, hleads, hstale⟩ =>
    ⟨names, hleads, hsub names hleads hstale⟩

/-- Word of a change makes the place it names right, and forgets all answers. -/
theorem handleChange (h : navigator.CoherentExcept disk root stale) (change : FileChange) :
    (navigator.handleChange change).CoherentExcept disk root fun names =>
      stale names ∧ (root.descend names).components ≠ change.path.components where
  texts names hleads := by
    by_cases hkey : (root.descend names).components = change.path.components
    · exact .inr fun entry hmem => absurd hkey (Keyed.mem_erase.1 hmem).2
    · refine (h.texts names hleads).imp (fun hstale => ⟨hstale, hkey⟩) fun hright entry hmem => ?_
      exact hright entry (Keyed.mem_erase.1 hmem).1
  definitions := .inr (DefinitionCache.holds_of_snapshot rfl)

/-- A change of the disk makes stale what it changes. -/
theorem change (h : navigator.CoherentExcept disk root stale) {next : Disk}
    (hdisk : disk.WellFormed) (hnext : next.WellFormed) :
    navigator.CoherentExcept next root fun names =>
      stale names ∨ disk.fileBelow? root names ≠ next.fileBelow? root names where
  texts names hleads := by
    by_cases hsame : disk.fileBelow? root names = next.fileBelow? root names
    · rw [← hsame]
      exact (h.texts names hleads).imp_left .inl
    · exact .inl (.inr hsame)
  definitions := by
    rcases h.definitions with ⟨names, hleads, hstale⟩ | hholds
    · exact .inl ⟨names, hleads, .inl hstale⟩
    · -- answers can go wrong only with a manifest, and that makes its place stale
      by_cases hsame : Disk.SameManifests root disk next
      · right
        intro snapshot hsnapshot pair hpair
        rw [← Disk.uncached_congr hdisk hnext hsame]
        exact hholds snapshot hsnapshot pair hpair
      · left
        unfold Disk.SameManifests at hsame
        push Not at hsame
        obtain ⟨names, hleads, hchanged⟩ := hsame
        exact ⟨names, hleads, .inr hchanged⟩

variable {moment : Moment} {query : Query}

theorem agreesWith (h : navigator.CoherentExcept disk root stale)
    (hstale : ∀ names, Path.LeadsToManifest names → ¬ stale names) :
    navigator.texts.AgreesWith disk root :=
  fun names hleads => (h.texts names hleads).resolve_left (hstale names hleads)

theorem holds (h : navigator.CoherentExcept disk root stale)
    (hstale : ∀ names, Path.LeadsToManifest names → ¬ stale names) :
    navigator.definitions.Holds fun name locations =>
      locations = disk.uncached navigator.settings root (.definition name) :=
  h.definitions.resolve_left fun ⟨names, hleads, h⟩ => hstale names hleads h

/-- With nothing stale, a question gets the answer that a search without caches gives. -/
theorem locations_run (h : navigator.CoherentExcept moment.disk root stale)
    (hwell : moment.disk.WellFormed)
    (hstale : ∀ names, Path.LeadsToManifest names → ¬ stale names) (meanwhile : Meanwhile) :
    (navigator.run moment meanwhile root query).1.locations
      = moment.disk.uncached navigator.settings root query := by
  have hsearch : ∀ query, (navigator.search moment meanwhile root query).1.locations
      = moment.disk.uncached navigator.settings root query := fun _ =>
    locations_search_eq_uncached hwell (h.agreesWith hstale)
  cases query with
  | definition name =>
    rw [Navigator.run, findDefinition]
    split
    · next locations hlookup => exact (h.holds hstale).of_lookup? hlookup
    · exact hsearch _
  | _ => exact hsearch _

/-- A question leaves the caches as coherent as they were. -/
theorem run (h : navigator.CoherentExcept moment.disk root stale)
    (hwell : moment.disk.WellFormed) (turns : List (List Nat)) :
    (navigator.run moment { turns := turns } root query).2.CoherentExcept moment.disk root
      stale where
  texts names hleads := by
    refine (h.texts names hleads).imp_right fun hright => ?_
    rcases texts_run navigator moment { turns := turns } root query with htexts | htexts <;>
      rw [htexts]
    · exact hright
    · exact rightAt_search hwell hleads.isName hright
  definitions := by
    by_cases hstale : ∃ names, Path.LeadsToManifest names ∧ stale names
    · exact .inl hstale
    · right
      have hfresh : ∀ names, Path.LeadsToManifest names → ¬ stale names :=
        fun names hleads h => hstale ⟨names, hleads, h⟩
      rw [settings_run]
      cases query with
      | definition name =>
        rw [Navigator.run, findDefinition]
        split
        · exact h.holds hfresh
        · exact (h.holds hfresh).record
            (locations_search_eq_uncached hwell (h.agreesWith hfresh))
      | _ => exact h.holds hfresh

end CoherentExcept

end Navigator

/-! ## One navigator in use -/

/-- A navigator in use, with the disk and the time, and the places whose manifests changed and were
not announced since. -/
structure Session where
  navigator : Navigator
  moment : Moment
  unannounced : Place → Prop := fun _ => False

namespace Session

/-- A new navigator. -/
def start (settings : SearchSettings) (moment : Moment) : Session :=
  { navigator := .ofSettings settings, moment := moment }

/-- Ask a question. The fetches of each batch may take their turns in any order. -/
def ask (root : Path) (session : Session) (turns : List (List Nat)) (query : Query) : Session :=
  { session with
    navigator := (session.navigator.run session.moment { turns := turns } root query).2 }

/-- Let time go by. -/
def wait (session : Session) (milliseconds : Nat) : Session :=
  { session with moment := { session.moment with now := session.moment.now + milliseconds } }

/-- Change the disk. -/
def change (root : Path) (session : Session) (disk : Disk) : Session :=
  { session with
    moment := { session.moment with disk := disk }
    unannounced := fun names => session.unannounced names
      ∨ session.moment.disk.fileBelow? root names ≠ disk.fileBelow? root names }

/-- Tell of a change. -/
def announce (root : Path) (session : Session) (change : FileChange) : Session :=
  { session with
    navigator := session.navigator.handleChange change
    unannounced := fun names => session.unannounced names
      ∧ (root.descend names).components ≠ change.path.components }

/-- Tell that anything may have changed. -/
def announceAny (session : Session) : Session :=
  { session with
    navigator := session.navigator.invalidateAll
    unannounced := fun _ => False }

/-- Every manifest that changed was announced. -/
def Announced (session : Session) : Prop :=
  ∀ names, Path.LeadsToManifest names → ¬ session.unannounced names

/-- What can happen next. Questions are asked only when every change was announced; all else can
happen at any time. Word may also come of a change that there was not. A disk has no permissions:
whatever stands on it can be read, and a change of permissions alone is none of these steps. Only
the crawl is also told for directories that are closed (`Volume`). -/
inductive Step (root : Path) (session : Session) : Session → Prop
  | ask (turns : List (List Nat)) (query : Query) (h : session.Announced) :
      Step root session (session.ask root turns query)
  | wait (milliseconds : Nat) : Step root session (session.wait milliseconds)
  | change (disk : Disk) (h : disk.WellFormed) : Step root session (session.change root disk)
  | announce (change : FileChange) : Step root session (session.announce root change)
  | announceAny : Step root session session.announceAny

/-- What holds at all times. -/
structure Inv (root : Path) (settings : SearchSettings) (session : Session) : Prop where
  settings_eq : session.navigator.settings = settings
  wellFormed : session.moment.disk.WellFormed
  coherent : session.navigator.CoherentExcept session.moment.disk root session.unannounced

variable {root : Path} {settings : SearchSettings} {moment : Moment} {session next : Session}

theorem Inv.step (h : session.Inv root settings) (hstep : session.Step root next) :
    next.Inv root settings := by
  cases hstep with
  | ask turns query hannounced =>
    exact ⟨by rw [← h.settings_eq]; exact Navigator.settings_run, h.wellFormed,
      h.coherent.run h.wellFormed turns⟩
  | wait milliseconds => exact ⟨h.settings_eq, h.wellFormed, h.coherent⟩
  | change disk hwell => exact ⟨h.settings_eq, hwell, h.coherent.change h.wellFormed hwell⟩
  | announce change => exact ⟨h.settings_eq, h.wellFormed, h.coherent.handleChange change⟩
  | announceAny => exact ⟨h.settings_eq, h.wellFormed, Navigator.coherentExcept_invalidateAll⟩

theorem inv_of_steps (hwell : moment.disk.WellFormed)
    (hsteps : Relation.ReflTransGen (Step root) (start settings moment) session) :
    session.Inv root settings := by
  induction hsteps with
  | refl => exact ⟨rfl, hwell, Navigator.coherentExcept_ofSettings settings⟩
  | tail _ hstep ih => exact ih.step hstep

/-- **Neither cache shows.** Whatever was asked and changed before, and however much time went by,
if every change was announced then any question gets the answer that a search without caches gives,
in whatever order its fetches take their turns. -/
theorem answer_eq_uncached (hwell : moment.disk.WellFormed)
    (hsteps : Relation.ReflTransGen (Step root) (start settings moment) session)
    (hannounced : session.Announced) (turns : List (List Nat)) (query : Query) :
    (session.navigator.run session.moment { turns := turns } root query).1.name = query.name
      ∧ (session.navigator.run session.moment { turns := turns } root query).1.locations
        = session.moment.disk.uncached settings root query := by
  have hinv := inv_of_steps hwell hsteps
  refine ⟨Navigator.name_run, ?_⟩
  rw [hinv.coherent.locations_run hinv.wellFormed hannounced, hinv.settings_eq]

/-! An edit that moves a definition down by a line. -/

/-- The name of a manifest. -/
def exampleName : Bytes := Text.encode "a.yaml".toList

/-- The text of a manifest in which a WorkflowTemplate is defined below some lines. -/
def exampleText (above : String) : Text :=
  (above ++ "kind: WorkflowTemplate\nmetadata:\n  name: x\n").toList

/-- A disk with that manifest. -/
def exampleDisk (above : String) : Disk := .single exampleName (Text.encode (exampleText above))

theorem wellFormed_exampleDisk (above : String) : (exampleDisk above).WellFormed :=
  Disk.wellFormed_single (by decide) (by decide) _

theorem manifests_exampleDisk (above : String) (depth size : Nat) :
    Crawl.manifests (exampleDisk above).list? depth size .top
      = [Path.top.descend [exampleName]] :=
  Crawl.manifests_single (by decide) (by decide) (by decide) (by decide) _ _ _

theorem readText_exampleDisk {above : String}
    (h : (exampleText above).all (fun c => c.toNat < 0x80) = true) :
    (exampleDisk above).readText (Path.top.descend [exampleName]) = .ok (exampleText above) :=
  Disk.readText_single (by decide) (by decide) (by decide) (Text.decode?_encode_of_all h)

theorem uncached_exampleDisk :
    (exampleDisk "# moved\n").uncached {} .top (.definition ['x'])
      = [{ path := Path.top.descend [exampleName], line := 3 }] := by
  have hrule : Query.rule (.definition ['x']) (exampleText "# moved\n") = [3] := by
    decide
  rw [Disk.uncached, manifests_exampleDisk, List.flatMap_singleton, Disk.linesAt,
    readText_exampleDisk (by decide), Rule.linesOf, Rule.locations, hrule]
  rfl

/-- The answer after an edit was announced is the new one, although the old one was kept. -/
theorem answer_eq_uncached_after_edit :
    ∃ session, Relation.ReflTransGen (Step .top) (start {} { disk := exampleDisk "" }) session
      ∧ session.Announced
      ∧ (session.navigator.run session.moment {} .top (.definition ['x'])).1.locations
        = [{ path := Path.top.descend [exampleName], line := 3 }] := by
  let opened := start {} { disk := exampleDisk "" }
  let edited := (opened.ask .top [] (.definition ['x'])).change .top (exampleDisk "# moved\n")
  let told := edited.announce .top ⟨Path.top.descend [exampleName], .changed⟩
  have hsteps : Relation.ReflTransGen (Step .top) opened told :=
    ((Relation.ReflTransGen.single (.ask [] _ fun _ _ h => h)).tail
      (.change _ (wellFormed_exampleDisk _))).tail (.announce _)
  have hannounced : told.Announced := by
    rintro names - ⟨h | h, hne⟩
    · exact h
    · rcases Decidable.em (names = [exampleName]) with rfl | hnames
      · exact hne rfl
      · simp [opened, start, ask, exampleDisk, Disk.fileBelow?_single, hnames] at h
  refine ⟨told, hsteps, hannounced, ?_⟩
  rw [(answer_eq_uncached (wellFormed_exampleDisk _) hsteps hannounced [] _).2]
  exact uncached_exampleDisk

end Session

end WorkflowNav
