/-
Answers and the roots they are for.

A search looks only at manifests below the root it is given, so whatever it finds lies under that
root. An answer that is kept was found by a search too, but perhaps by one for another root: where a
WorkflowTemplate is defined is kept under its name alone. So the question where something is defined
may be answered with locations under a root that somebody else asked about, as long as that answer
is known. The other three questions are always searched for.

This module follows one navigator through questions about any number of roots. The invariant is that
every answer kept lies under some root for which its name was asked since definitions were last
forgotten. From it follows where the locations of an answer can lie, and when they lie under the
root they were asked for.
-/
import Mathlib.Logic.Relation
import WorkflowNav.Proofs.Coherence

set_option autoImplicit false

namespace WorkflowNav

open Text (Bytes)

/-! ## Under a root -/

namespace Path

variable {path root other : Path}

/-- A path lies under a root: its components are those of the root and then names, at least one. -/
def IsUnder (path root : Path) : Prop :=
  ∃ names : List Bytes, names ≠ [] ∧ path.components = root.components ++ names.map .name

theorem IsUnder.isPrefix (h : path.IsUnder root) : root.components <+: path.components := by
  obtain ⟨names, -, hpath⟩ := h
  rw [hpath]
  exact List.prefix_append _ _

theorem IsUnder.trans (h : path.IsUnder other) (hother : other.IsUnder root) :
    path.IsUnder root := by
  obtain ⟨names, hnames, hpath⟩ := h
  obtain ⟨more, -, hmore⟩ := hother
  refine ⟨more ++ names, List.append_ne_nil_of_right_ne_nil _ hnames, ?_⟩
  rw [hpath, hmore, List.map_append, List.append_assoc]

/-- What names lead to from a root lies under it. -/
theorem LeadsToManifest.isUnder {names : List Bytes} (h : LeadsToManifest names) (root : Path) :
    (root.descend names).IsUnder root := by
  obtain ⟨front, name, hnames, -⟩ := h.isManifest
  refine ⟨names, ?_, components_descend root h.isName⟩
  rw [hnames]
  exact List.concat_ne_nil name front

end Path

/-- All locations lie under a root. -/
def Inside (root : Path) (locations : List Location) : Prop :=
  ∀ location ∈ locations, location.path.IsUnder root

/-- What lies under a root lies under another spelling of it and under what that lies under. -/
theorem Inside.of_root {root other : Path} {locations : List Location}
    (h : Inside other locations)
    (hroot : other.components = root.components ∨ other.IsUnder root) : Inside root locations := by
  intro location hlocation
  have hunder := h location hlocation
  rcases hroot with hsame | hother
  · unfold Path.IsUnder at hunder ⊢
    rwa [← hsame]
  · exact hunder.trans hother

/-! ## What a search finds -/

namespace Scan

variable {moment : Moment} {rule : Rule} {limit : Option Nat} {scan : Scan} {location : Location}

theorem path_of_mem_batch {turns : List Nat} {paths : List Path}
    (h : location ∈ (scan.batch moment rule turns paths).found) :
    location ∈ scan.found ∨ location.path ∈ paths := by
  rw [found_batch_eq, List.mem_append, List.mem_flatMap] at h
  refine h.imp_right ?_
  rintro ⟨⟨path, id⟩, hpath, hlines⟩
  obtain ⟨text, -, hlocation⟩ := List.mem_flatMap.1 hlines
  obtain ⟨line, -, rfl⟩ := List.mem_map.1 hlocation
  exact List.mem_of_getElem? (List.mem_zipIdx_iff_getElem?.1 hpath)

/-- A location that a scan adds is in one of its files, whatever texts were served for them. -/
theorem path_of_mem_run {turns : List (List Nat)} {files : List (List Path)}
    (h : location ∈ (run moment rule limit turns scan files).found) :
    location ∈ scan.found ∨ location.path ∈ files.flatten := by
  induction files generalizing scan turns with
  | nil => exact .inl h
  | cons paths files ih =>
    rw [List.flatten_cons, List.mem_append]
    rw [run] at h
    split at h
    · exact (path_of_mem_batch h).imp_right .inl
    · rcases ih h with hfound | hfiles
      · exact (path_of_mem_batch hfound).imp_right .inl
      · exact .inr (.inr hfiles)

end Scan

namespace Navigator

variable {navigator : Navigator} {moment : Moment} {meanwhile : Meanwhile} {root : Path}
variable {query : Query} {name : Text}

/-- A search finds nothing outside its root. -/
theorem inside_search (hwell : moment.disk.WellFormed) :
    Inside root (navigator.search moment meanwhile root query).1.locations := by
  intro location hmem
  have hfound : location ∈ (Scan.run moment query.rule query.limit? meanwhile.turns
      { texts := navigator.texts }
      (batches navigator.settings.fileBatch (navigator.manifests moment root))).found := by
    have hclip : location ∈ query.clip _ := hmem
    unfold Query.clip at hclip
    split at hclip
    · exact List.mem_of_mem_take hclip
    · exact hclip
  rcases Scan.path_of_mem_run hfound with hnone | hfile
  · exact absurd hnone List.not_mem_nil
  · rw [flatten_batches] at hfile
    obtain ⟨names, bytes, hleads, hpath, -⟩ := Disk.manifest_of_mem hwell hfile
    rw [hpath]
    exact hleads.isUnder root

/-- Where something is defined is the answer that is known, or what a search finds. -/
theorem locations_findDefinition (navigator : Navigator) (moment : Moment) (meanwhile : Meanwhile)
    (root : Path) (name : Text) :
    (navigator.findDefinition moment meanwhile root name).1.locations
      = (navigator.definitions.lookup? moment.now name).getD
        (navigator.search moment meanwhile root (.definition name)).1.locations := by
  rw [findDefinition]
  split
  · next locations hlookup => rw [hlookup, Option.getD_some]
  · next hlookup => rw [hlookup, Option.getD_none]

/-- The other questions are always searched for. -/
theorem inside_run_of_ne (hwell : moment.disk.WellFormed) (h : ∀ name, query ≠ .definition name) :
    Inside root (navigator.run moment meanwhile root query).1.locations := by
  cases query with
  | definition name => exact absurd rfl (h name)
  | _ => exact inside_search hwell

/-- An answer where something is defined lies under its root exactly if the answer that is known
does. -/
theorem inside_findDefinition_iff (hwell : moment.disk.WellFormed) :
    Inside root (navigator.findDefinition moment meanwhile root name).1.locations
      ↔ ∀ locations, navigator.definitions.lookup? moment.now name = some locations →
        Inside root locations := by
  rw [locations_findDefinition]
  cases navigator.definitions.lookup? moment.now name with
  | some locations => simp
  | none => simp [inside_search hwell]

end Navigator

/-! ## One navigator for many roots -/

/-- While a search is under way, others take answers away but put none in. -/
def Meanwhile.OnlyForgets (meanwhile : Meanwhile) : Prop :=
  ∀ texts cache snapshot, (meanwhile.definitions texts cache).snapshot = some snapshot →
    cache.snapshot = some snapshot

theorem DefinitionCache.Holds.forget {cache : DefinitionCache}
    {right : Text → List Location → Prop} (h : cache.Holds right) {meanwhile : Meanwhile}
    (hforgets : meanwhile.OnlyForgets) (texts : Nat) :
    (meanwhile.definitions texts cache).Holds right := by
  intro snapshot hsnapshot
  exact h snapshot (hforgets texts cache snapshot hsnapshot)

/-- A navigator in use for any number of roots, with the disk and the time. Noted are the roots and
names of the questions where something is defined, since definitions were last forgotten. -/
structure ManyRoots where
  navigator : Navigator
  moment : Moment
  asked : List (Path × Text) := []

namespace ManyRoots

/-- A new navigator. -/
def start (settings : SearchSettings) (moment : Moment) : ManyRoots :=
  { navigator := .ofSettings settings, moment := moment }

/-- Ask a question about a root. -/
def ask (state : ManyRoots) (meanwhile : Meanwhile) (root : Path) (query : Query) : ManyRoots :=
  { state with
    navigator := (state.navigator.run state.moment meanwhile root query).2
    asked := match query with
      | .definition name => (root, name) :: state.asked
      | _ => state.asked }

/-- Let time go by. -/
def wait (state : ManyRoots) (milliseconds : Nat) : ManyRoots :=
  { state with moment := { state.moment with now := state.moment.now + milliseconds } }

/-- Change the disk. -/
def change (state : ManyRoots) (disk : Disk) : ManyRoots :=
  { state with moment := { state.moment with disk := disk } }

/-- Tell of a change. -/
def announce (state : ManyRoots) (change : FileChange) : ManyRoots :=
  { state with navigator := state.navigator.handleChange change, asked := [] }

/-- Tell that anything may have changed. -/
def announceAny (state : ManyRoots) : ManyRoots :=
  { state with navigator := state.navigator.invalidateAll, asked := [] }

/-- What can happen next. -/
inductive Step (state : ManyRoots) : ManyRoots → Prop
  | ask (meanwhile : Meanwhile) (root : Path) (query : Query) (h : meanwhile.OnlyForgets) :
      Step state (state.ask meanwhile root query)
  | wait (milliseconds : Nat) : Step state (state.wait milliseconds)
  | change (disk : Disk) (h : disk.WellFormed) : Step state (state.change disk)
  | announce (change : FileChange) : Step state (state.announce change)
  | announceAny : Step state state.announceAny

/-- Locations found for a name lie under one of the roots for which it was asked. -/
def FoundFor (asked : List (Path × Text)) (name : Text) (locations : List Location) : Prop :=
  ∃ root, (root, name) ∈ asked ∧ Inside root locations

/-- What holds at all times. -/
structure Inv (state : ManyRoots) : Prop where
  wellFormed : state.moment.disk.WellFormed
  kept : state.navigator.definitions.Holds (FoundFor state.asked)

variable {state next : ManyRoots} {settings : SearchSettings} {moment : Moment}

/-- An answer where something is defined lies under the root it is for or under one for which the
name was asked before. -/
theorem Inv.foundFor (h : state.Inv) (meanwhile : Meanwhile) (root : Path) (name : Text) :
    FoundFor ((root, name) :: state.asked) name
      (state.navigator.findDefinition state.moment meanwhile root name).1.locations := by
  rw [Navigator.locations_findDefinition]
  cases hlookup : state.navigator.definitions.lookup? state.moment.now name with
  | some locations =>
    obtain ⟨other, hother, hinside⟩ := h.kept.of_lookup? hlookup
    exact ⟨other, List.mem_cons_of_mem _ hother, hinside⟩
  | none => exact ⟨root, List.mem_cons_self, Navigator.inside_search h.wellFormed⟩

theorem Inv.ask (h : state.Inv) {meanwhile : Meanwhile} (hforgets : meanwhile.OnlyForgets)
    (root : Path) (query : Query) : (state.ask meanwhile root query).Inv where
  wellFormed := h.wellFormed
  kept := by
    cases query with
    | definition name =>
      have hmore : state.navigator.definitions.Holds (FoundFor ((root, name) :: state.asked)) :=
        h.kept.mono fun _ _ ⟨other, hother, hinside⟩ =>
          ⟨other, List.mem_cons_of_mem _ hother, hinside⟩
      rw [ManyRoots.ask, Navigator.run, Navigator.findDefinition]
      split
      · exact hmore
      · -- the answer of a search is recorded in what others have left of the cache
        refine (hmore.forget hforgets _).record ?_
        exact ⟨root, List.mem_cons_self, Navigator.inside_search h.wellFormed⟩
    | _ => exact h.kept.forget hforgets _

theorem Inv.step (h : state.Inv) (hstep : state.Step next) : next.Inv := by
  cases hstep with
  | ask meanwhile root query hforgets => exact h.ask hforgets root query
  | wait milliseconds => exact ⟨h.wellFormed, h.kept⟩
  | change disk hwell => exact ⟨hwell, h.kept⟩
  | announce change => exact ⟨h.wellFormed, DefinitionCache.holds_of_snapshot rfl⟩
  | announceAny => exact ⟨h.wellFormed, DefinitionCache.holds_of_snapshot rfl⟩

theorem inv_of_steps (hwell : moment.disk.WellFormed)
    (hsteps : Relation.ReflTransGen Step (start settings moment) state) : state.Inv := by
  induction hsteps with
  | refl => exact ⟨hwell, DefinitionCache.holds_of_snapshot rfl⟩
  | tail _ hstep ih => exact ih.step hstep

/-- **Where the locations of an answer lie.** Whatever was asked before and about whichever roots,
an answer lies under the root it is for, unless it tells where something is defined. Then it lies
under one root as a whole, which is its own or one for which the same name was asked since
definitions were last forgotten. So it lies under its own if all of these are that root or lie under
it, and exactly if the answer that is known, if any, does. -/
theorem inside_run (hwell : moment.disk.WellFormed)
    (hsteps : Relation.ReflTransGen Step (start settings moment) state) (meanwhile : Meanwhile)
    (root : Path) :
    let answer := fun query => (state.navigator.run state.moment meanwhile root query).1.locations
    (∀ query, (∀ name, query ≠ .definition name) → Inside root (answer query))
      ∧ ∀ name,
        (∃ other, (other = root ∨ (other, name) ∈ state.asked)
          ∧ Inside other (answer (.definition name)))
        ∧ ((∀ other, (other, name) ∈ state.asked →
            other.components = root.components ∨ other.IsUnder root) →
          Inside root (answer (.definition name)))
        ∧ (Inside root (answer (.definition name))
          ↔ ∀ locations,
            state.navigator.definitions.lookup? state.moment.now name = some locations →
            Inside root locations) := by
  have hinv := inv_of_steps hwell hsteps
  intro answer
  refine ⟨fun query hquery => Navigator.inside_run_of_ne hinv.wellFormed hquery, fun name => ?_⟩
  obtain ⟨other, hother, hinside⟩ := hinv.foundFor meanwhile root name
  have hcases : other = root ∨ (other, name) ∈ state.asked := by
    rcases List.mem_cons.1 hother with heq | hasked
    · exact .inl (Prod.mk.inj heq).1
    · exact .inr hasked
  refine ⟨⟨other, hcases, hinside⟩, fun hroots => ?_,
    Navigator.inside_findDefinition_iff hinv.wellFormed⟩
  have hroot : other.components = root.components ∨ other.IsUnder root := by
    rcases hcases with heq | hasked
    · exact .inl (congrArg _ heq)
    · exact hroots other hasked
  exact hinside.of_root hroot

/-! Two directories in which one WorkflowTemplate is defined each, by the same name. -/

open Session (exampleText)

/-- The bytes of a name. -/
private def named (name : String) : Bytes := Text.encode name.toList

/-- A directory by its name. -/
def exampleRoot (name : String) : Path := Path.top.descend [named name]

/-- The manifest in the first. -/
def exampleManifest : Path := Path.top.descend [named "a", named "x.yaml"]

/-- The manifests, which are alike. -/
private def manifest : Entry := .file (Text.encode (exampleText ""))

/-- The disk. -/
def exampleMoment : Moment where
  disk.entries :=
    [([named "a"], .directory), ([named "a", named "x.yaml"], manifest),
      ([named "b"], .directory), ([named "b", named "y.yaml"], manifest)]

theorem wellFormed_exampleMoment : exampleMoment.disk.WellFormed where
  nodup := by decide
  isName := by decide
  length_le := by decide

/-- Its manifest is the only file below the first root. -/
private theorem fileBelow?_exampleMoment :
    exampleMoment.disk.fileBelow? (exampleRoot "a") [named "x.yaml"]
        = some (Text.encode (exampleText ""))
      ∧ ∀ others found, exampleMoment.disk.fileBelow? (exampleRoot "a") others = some found →
        others = [named "x.yaml"] := by
  have hlocate : exampleMoment.disk.locate true (exampleRoot "a") = .ok [named "a"] :=
    Disk.locate_join (Disk.locate_top _) rfl (by decide) (by decide) rfl (by simp) (by decide)
  refine ⟨Disk.fileBelow?_eq_some.2 ⟨_, hlocate,
    Disk.fileFrom?_cons.2 ⟨rfl, Disk.fileFrom?_nil.2 rfl⟩⟩, fun others found hfound => ?_⟩
  obtain ⟨place, hplace, hfile⟩ := Disk.fileBelow?_eq_some.1 hfound
  obtain rfl : [named "a"] = place := Except.ok.inj (hlocate.symm.trans hplace)
  have hdiffer : named "a" ≠ named "b" := by decide
  have hmem := Keyed.mem_of_get? (Disk.get?_of_fileFrom? hfile)
  have hothers : others = [named "x.yaml"] ∧ Entry.file found = manifest := by
    simpa [exampleMoment, hdiffer] using hmem
  exact hothers.1

/-- What is found below the first root. -/
theorem uncached_exampleMoment :
    exampleMoment.disk.uncached {} (exampleRoot "a") (.definition ['x'])
      = [{ path := exampleManifest, line := 2 }] := by
  have hmanifests : Crawl.manifests exampleMoment.disk.list? 10 20 (exampleRoot "a")
      = [exampleManifest] :=
    Crawl.manifests_eq_singleton wellFormed_exampleMoment
      ⟨[], named "x.yaml", rfl, by decide, by decide, by decide⟩ fileBelow?_exampleMoment.1
      (by decide) fileBelow?_exampleMoment.2 20
  have hread : exampleMoment.disk.readText exampleManifest = .ok (exampleText "") := by
    refine (Disk.readText_descend wellFormed_exampleMoment fileBelow?_exampleMoment.1).2 ?_
    rw [fileBelow?_exampleMoment.1, Path.textBelow?, if_pos (by decide), Option.bind_some,
      Text.decode?_encode_of_all (by decide)]
  have hrule : Query.rule (.definition ['x']) (exampleText "") = [2] := by decide
  rw [Disk.uncached, hmanifests, List.flatMap_singleton, Disk.linesAt, hread, Rule.linesOf,
    Rule.locations, hrule]
  rfl

/-- A new navigator that was asked about the first root. -/
def exampleAsked : ManyRoots :=
  (start {} exampleMoment).ask {} (exampleRoot "a") (.definition ['x'])

theorem steps_exampleAsked :
    Relation.ReflTransGen Step (start {} exampleMoment) exampleAsked :=
  .single (.ask {} _ _ fun _ _ _ h => h)

/-- Its answer is known, whichever root is asked about next. -/
theorem lookup?_exampleAsked :
    exampleAsked.navigator.definitions.lookup? exampleAsked.moment.now ['x']
      = some [{ path := exampleManifest, line := 2 }] := by
  have hright : (Navigator.ofSettings {}).texts.AgreesWith exampleMoment.disk (exampleRoot "a") :=
    fun _ _ _ hmem => absurd hmem List.not_mem_nil
  have hknown := Navigator.lookup?_run (.ofSettings {}) exampleMoment (exampleRoot "a") ['x']
  rw [Navigator.run, Navigator.locations_findDefinition,
    show (Navigator.ofSettings {}).definitions.lookup? exampleMoment.now ['x'] = none from rfl,
    Option.getD_none, Navigator.locations_search_eq_uncached wellFormed_exampleMoment hright]
    at hknown
  exact hknown.trans (congrArg some uncached_exampleMoment)

/-- Asked about the top next, under which the first root lies, all is well. -/
theorem inside_run_top :
    exampleMoment.disk.WellFormed
      ∧ Relation.ReflTransGen Step (start {} exampleMoment) exampleAsked
      ∧ (∀ other, (other, ['x']) ∈ exampleAsked.asked →
        other.components = Path.top.components ∨ other.IsUnder .top)
      ∧ Inside .top (exampleAsked.navigator.run exampleAsked.moment {} .top
        (.definition ['x'])).1.locations := by
  have hroots : ∀ other, (other, ['x']) ∈ exampleAsked.asked →
      other.components = Path.top.components ∨ other.IsUnder .top := by
    intro other hother
    have hasked : exampleAsked.asked = [(exampleRoot "a", ['x'])] := rfl
    rw [hasked, List.mem_singleton] at hother
    rw [(Prod.mk.inj hother).1]
    exact .inr ⟨[named "a"], by decide, by decide⟩
  exact ⟨wellFormed_exampleMoment, steps_exampleAsked, hroots,
    ((inside_run wellFormed_exampleMoment steps_exampleAsked {} .top).2 ['x']).2.1 hroots⟩

/-- Asked about the second root next, it answers with a manifest below the first. -/
theorem not_inside_run_sibling :
    Relation.ReflTransGen Step (start {} exampleMoment) exampleAsked
      ∧ (exampleAsked.navigator.run exampleAsked.moment {} (exampleRoot "b")
        (.definition ['x'])).1.locations = [{ path := exampleManifest, line := 2 }]
      ∧ ¬ exampleManifest.IsUnder (exampleRoot "b") := by
  refine ⟨steps_exampleAsked, ?_, fun hunder => ?_⟩
  · rw [Navigator.run, Navigator.locations_findDefinition, lookup?_exampleAsked, Option.getD_some]
  · have hapart : ¬ (exampleRoot "b").components <+: exampleManifest.components := by decide
    exact hapart hunder.isPrefix

end ManyRoots

end WorkflowNav
