/-
Searches that run while word of a change is acted on.

Searching for a definition is several steps, and so is acting on a change: first the definitions are
forgotten and a new generation is opened, then the text of the changed manifest is dropped. A search
of an old generation does no harm, since its answer is not kept. But one may take the new generation
between the two steps. It is served the old text, which is still there, and its answer is kept as
one of the new generation; from then on the old lines are the answer, although word of the change
was acted on.

Here are the steps and what holds after any of them (`Inv`): whatever is wrong, in an answer that is
kept or in the lines a search has read, comes from a search that was misled, that is, served another
text than the one on the disk, between the two steps of the handling.
-/
import Mathlib.Logic.Function.Basic
import WorkflowNav.Proofs.Coherence

set_option autoImplicit false

namespace WorkflowNav

/-! ## Searches and what they race with -/

/-- A file to read, and the lines found in it once it was read. -/
abbrev Page := Path × Option (List Location)

/-- Where a search for a definition stands. -/
inductive Search where
  | idle
  /-- The name was looked up, and the answer is not known. -/
  | missed (name : Text)
  /-- The generation was noted. -/
  | noted (name : Text) (generation : Nat)
  /-- The files are known, and some were read. -/
  | reading (name : Text) (generation : Nat) (pages : List Page)
  | finished (name : Text) (locations : List Location)

/-- Where the handling of the change stands. -/
inductive Handling where
  | waiting
  /-- The definitions were forgotten, but the text is still there. -/
  | halfway
  | returned

/-- A navigator, searches under way, and one change. -/
structure Race where
  navigator : Navigator
  moment : Moment
  searches : Nat → Search := fun _ => .idle
  handling : Handling := .waiting
  /-- While the change was handled, a search of the new generation was served a text that is not the
  one on the disk. -/
  misled : Prop := False

namespace Race

/-- The lines of all pages. -/
def answer (pages : List Page) : List Location := pages.flatMap fun page => page.2.getD []

/-- Let time go by. -/
def wait (race : Race) (milliseconds : Nat) : Race :=
  { race with moment := { race.moment with now := race.moment.now + milliseconds } }

/-- Change the disk. -/
def edit (race : Race) (disk : Disk) : Race :=
  { race with moment := { race.moment with disk := disk } }

/-- Take a search to its next state. -/
def move (race : Race) (id : Nat) (search : Search) : Race :=
  { race with searches := Function.update race.searches id search }

/-- Start a search with a lookup. -/
def lookUp (race : Race) (id : Nat) (name : Text) : Race :=
  race.move id <|
    match race.navigator.definitions.lookup? race.moment.now name with
    | some locations => .finished name locations
    | none => .missed name

/-- Note the generation. -/
def note (race : Race) (id : Nat) (name : Text) : Race :=
  race.move id (.noted name race.navigator.definitions.generation)

/-- Find the files to read. -/
def discover (root : Path) (race : Race) (id : Nat) (name : Text) (generation : Nat) : Race :=
  race.move id (.reading name generation
    ((race.navigator.manifests race.moment root).map fun path => (path, none)))

/-- What a search is served for a file. -/
def served (race : Race) (path : Path) : Except ReadError Text :=
  (race.navigator.texts.fetch race.moment path).1

/-- Serve a file to a search of some generation. -/
def serve (race : Race) (generation : Nat) (path : Path) : Race :=
  { race with
    navigator := { race.navigator with
      texts := (race.navigator.texts.fetch race.moment path).2 }
    misled := race.misled
      ∨ (race.handling = .halfway ∧ generation = race.navigator.definitions.generation
        ∧ race.served path ≠ race.moment.disk.readText path) }

/-- Read one of the files. -/
def read (race : Race) (id : Nat) (name : Text) (generation : Nat) (front : List Page)
    (path : Path) (back : List Page) : Race :=
  (race.serve generation path).move id (.reading name generation
    (front ++ (path, some ((Query.definition name).rule.linesOf path (race.served path))) :: back))

/-- Hand in the answer. -/
def finish (race : Race) (id : Nat) (name : Text) (generation : Nat) (pages : List Page) : Race :=
  { race.move id (.finished name (answer pages)) with
    navigator := { race.navigator with
      definitions :=
        race.navigator.definitions.record race.moment.now generation name (answer pages) } }

/-- The first step of handling the change. -/
def forget (race : Race) : Race :=
  { race with
    handling := .halfway
    navigator := { race.navigator with definitions := race.navigator.definitions.invalidate } }

/-- The second step of handling the change. -/
def drop (race : Race) (change : FileChange) : Race :=
  { race with
    handling := .returned
    navigator := { race.navigator with texts := race.navigator.texts.erase change.path } }

/-- Both steps together are what a navigator does with a change. -/
theorem navigator_drop_forget (race : Race) (change : FileChange) :
    (race.forget.drop change).navigator = race.navigator.handleChange change := rfl

/-- What can happen next. The changed manifest alone changes on the disk, and that before the change
is handled. -/
inductive Step (root : Path) (change : FileChange) (race : Race) : Race → Prop
  | wait (milliseconds : Nat) : Step root change race (race.wait milliseconds)
  | edit (disk : Disk) (hwell : disk.WellFormed) (hwaiting : race.handling = .waiting)
      (honly : ∀ names, Path.LeadsToManifest names →
        (root.descend names).components ≠ change.path.components →
        race.moment.disk.fileBelow? root names = disk.fileBelow? root names) :
      Step root change race (race.edit disk)
  | lookUp (id : Nat) (name : Text) (h : race.searches id = .idle) :
      Step root change race (race.lookUp id name)
  | note (id : Nat) (name : Text) (h : race.searches id = .missed name) :
      Step root change race (race.note id name)
  | discover (id : Nat) (name : Text) (generation : Nat)
      (h : race.searches id = .noted name generation) :
      Step root change race (race.discover root id name generation)
  | read (id : Nat) (name : Text) (generation : Nat) (front : List Page) (path : Path)
      (back : List Page)
      (h : race.searches id = .reading name generation (front ++ (path, none) :: back)) :
      Step root change race (race.read id name generation front path back)
  | finish (id : Nat) (name : Text) (generation : Nat) (pages : List Page)
      (h : race.searches id = .reading name generation pages)
      (hread : ∀ page ∈ pages, page.2.isSome) :
      Step root change race (race.finish id name generation pages)
  | forget (h : race.handling = .waiting) : Step root change race race.forget
  | drop (h : race.handling = .halfway) : Step root change race (race.drop change)

/-! ## What holds at all times -/

/-- The lines that a search for a name should find in a file. -/
def lines (race : Race) (name : Text) (path : Path) : List Location :=
  race.moment.disk.linesAt (Query.definition name).rule path

/-- What a search for a name should find. -/
def uncached (root : Path) (race : Race) (name : Text) : List Location :=
  race.moment.disk.uncached race.navigator.settings root (.definition name)

/-- The pages of a search are the files below the root, and those that were read have the right
lines, unless somebody was misled about the changed one. -/
structure PagesRight (root : Path) (change : FileChange) (race : Race) (name : Text)
    (pages : List Page) : Prop where
  files : pages.map Prod.fst = race.navigator.manifests race.moment root
  lines : ∀ page ∈ pages, ∀ found, page.2 = some found → found = race.lines name page.1
    ∨ race.misled ∧ page.1.components = change.path.components

/-- What holds of a search at all times. -/
def SearchRight (root : Path) (change : FileChange) (race : Race) : Search → Prop
  | .noted _ generation =>
    race.handling = .waiting → generation = race.navigator.definitions.generation
  | .reading name generation pages =>
    (race.handling = .waiting → generation = race.navigator.definitions.generation)
      ∧ (∀ page ∈ pages, ∃ names, Path.LeadsToManifest names ∧ page.1 = root.descend names)
      ∧ (race.handling ≠ .waiting → generation = race.navigator.definitions.generation →
        race.PagesRight root change name pages)
  | _ => True

/-- What holds at all times. -/
structure Inv (root : Path) (change : FileChange) (race : Race) : Prop where
  wellFormed : race.moment.disk.WellFormed
  /-- Only the text of the changed manifest may be wrong, and that only until it is dropped. -/
  texts : ∀ names bytes, Path.LeadsToManifest names →
    race.moment.disk.fileBelow? root names = some bytes →
    race.handling = .returned ∨ (root.descend names).components ≠ change.path.components →
    race.navigator.texts.RightAt root names (race.moment.disk.fileBelow? root names)
  /-- There is always a search that has not started. -/
  idle : ∃ bound, ∀ id, bound ≤ id → race.searches id = .idle
  searches : ∀ id, race.SearchRight root change (race.searches id)
  answers : race.handling ≠ .waiting → race.misled
    ∨ race.navigator.definitions.Holds fun name locations => locations = race.uncached root name

variable {root : Path} {change : FileChange} {race next : Race} {name : Text}

/-- Pages that were all read right give the right answer. -/
theorem answer_eq_of_lines {pages : List Page}
    (hfiles : pages.map Prod.fst = race.navigator.manifests race.moment root)
    (hlines : ∀ page ∈ pages, page.2 = some (race.lines name page.1)) :
    answer pages = race.uncached root name := by
  have hanswer : answer pages = (pages.map Prod.fst).flatMap (race.lines name) := by
    rw [answer, List.flatMap_map]
    refine List.flatMap_congr fun page hpage => ?_
    rw [hlines page hpage]
    rfl
  rw [hanswer, hfiles]
  rfl

theorem PagesRight.answer_eq {pages : List Page} (h : race.PagesRight root change name pages)
    (hmisled : ¬ race.misled) (hread : ∀ page ∈ pages, page.2.isSome) :
    answer pages = race.uncached root name := by
  refine answer_eq_of_lines h.files fun page hpage => ?_
  obtain ⟨found, hfound⟩ := Option.isSome_iff_exists.1 (hread page hpage)
  rcases h.lines page hpage found hfound with hright | ⟨h, -⟩
  · rw [hfound, hright]
  · exact absurd h hmisled

theorem searches_move_self (race : Race) (id : Nat) (search : Search) :
    (race.move id search).searches id = search := Function.update_self _ _ _

theorem searches_move_of_ne (race : Race) {id other : Nat} (h : other ≠ id) (search : Search) :
    (race.move id search).searches other = race.searches other := Function.update_of_ne h _ _

/-- What holds of a search is said without the other searches and the texts. -/
theorem SearchRight.of_eq {search : Search} (h : race.SearchRight root change search)
    (hdefinitions : next.navigator.definitions.generation = race.navigator.definitions.generation)
    (hsettings : next.navigator.settings = race.navigator.settings)
    (hdisk : next.moment.disk = race.moment.disk)
    (hhandling : next.handling = .waiting ↔ race.handling = .waiting)
    (hmisled : race.misled → next.misled) : next.SearchRight root change search := by
  have hpages : ∀ name pages, race.PagesRight root change name pages →
      next.PagesRight root change name pages := by
    intro name pages hpages
    refine ⟨?_, fun page hpage found hfound => ?_⟩
    · rw [hpages.files, Navigator.manifests, Navigator.manifests, hsettings, hdisk]
    · rw [lines, hdisk]
      exact (hpages.lines page hpage found hfound).imp_right (And.imp_left hmisled)
  cases search with
  | noted name generation =>
    rw [SearchRight, hdefinitions, hhandling]
    exact h
  | reading name generation pages =>
    rw [SearchRight, hdefinitions, Ne, hhandling]
    exact ⟨h.1, h.2.1, fun hnext hgeneration => hpages _ _ (h.2.2 hnext hgeneration)⟩
  | _ => trivial

theorem Inv.move (h : race.Inv root change) (id : Nat) {search : Search}
    (hsearch : race.SearchRight root change search) : (race.move id search).Inv root change where
  wellFormed := h.wellFormed
  texts := h.texts
  idle := by
    obtain ⟨bound, hbound⟩ := h.idle
    refine ⟨max bound (id + 1), fun other hother => ?_⟩
    rw [searches_move_of_ne race (by omega) search]
    exact hbound other (by omega)
  searches other := by
    have hother : race.SearchRight root change ((race.move id search).searches other) := by
      rcases eq_or_ne other id with rfl | hne
      · rw [searches_move_self]
        exact hsearch
      · rw [searches_move_of_ne race hne]
        exact h.searches other
    exact hother.of_eq rfl rfl rfl .rfl fun h => h
  answers := h.answers

/-- A file that is below the root is served as it is on the disk, unless it is the changed one. -/
theorem Inv.served_eq (h : race.Inv root change) {path : Path}
    (hpath : path ∈ race.navigator.manifests race.moment root)
    (hdropped : race.handling = .returned ∨ path.components ≠ change.path.components) :
    race.served path = race.moment.disk.readText path := by
  obtain ⟨names, bytes, hleads, rfl, hfile⟩ := Disk.manifest_of_mem h.wellFormed hpath
  exact (h.texts names bytes hleads hfile hdropped).fetchBeyond_eq h.wellFormed

/-- Serving a file may mislead, but leaves the texts as right as they were. -/
theorem Inv.serve (h : race.Inv root change) (generation : Nat) {others : Place}
    (hothers : Path.LeadsToManifest others) :
    (race.serve generation (root.descend others)).Inv root change where
  wellFormed := h.wellFormed
  texts names bytes hleads hfile hdropped :=
    (h.texts names bytes hleads hfile hdropped).fetchBeyond h.wellFormed hleads.isName
      hothers.isName fun _ => ⟨bytes, hfile⟩
  idle := h.idle
  searches id := (h.searches id).of_eq rfl rfl rfl .rfl Or.inl
  answers hhandling := (h.answers hhandling).imp_left Or.inl

/-- The lines of a page that is read are wrong only if the search is misled by that. -/
theorem Inv.lines_served (h : race.Inv root change) {generation : Nat} {path : Path}
    (hhandling : race.handling ≠ .waiting)
    (hcurrent : generation = race.navigator.definitions.generation)
    (hpath : path ∈ race.navigator.manifests race.moment root) (name : Text) :
    (Query.definition name).rule.linesOf path (race.served path) = race.lines name path
      ∨ (race.serve generation path).misled ∧ path.components = change.path.components := by
  by_cases hsame : race.served path = race.moment.disk.readText path
  · left
    rw [hsame]
    rfl
  · right
    have hdropped : ¬ (race.handling = .returned ∨ path.components ≠ change.path.components) :=
      fun hdropped => hsame (h.served_eq hpath hdropped)
    rw [not_or, not_not] at hdropped
    cases hrace : race.handling with
    | waiting => exact absurd hrace hhandling
    | halfway => exact ⟨.inr ⟨hrace, hcurrent, hsame⟩, hdropped.2⟩
    | returned => exact absurd hrace hdropped.1

theorem Inv.read (h : race.Inv root change) {id generation : Nat} {front back : List Page}
    {path : Path}
    (hsearch : race.searches id = .reading name generation (front ++ (path, none) :: back)) :
    (race.read id name generation front path back).Inv root change := by
  have hright := h.searches id
  rw [hsearch] at hright
  obtain ⟨hgeneration, hfiles, hpages⟩ := hright
  have hpage : ∀ lines : List Location, ∀ page ∈ front ++ (path, some lines) :: back,
      page = (path, some lines) ∨ page ∈ front ++ (path, none) :: back := by
    intro lines page hpage
    rw [List.mem_append, List.mem_cons] at hpage ⊢
    rcases hpage with hpage | hpage | hpage
    · exact .inr (.inl hpage)
    · exact .inl hpage
    · exact .inr (.inr (.inr hpage))
  obtain ⟨names, hleads, hpath⟩ := hfiles (path, none) (by simp)
  have hserve : (race.serve generation path).Inv root change := by
    rw [show path = root.descend names from hpath]
    exact h.serve generation hleads
  -- serving may only add that somebody was misled, so what was right of other pages stays right
  refine hserve.move id ⟨hgeneration, fun page hmem => ?_, fun hhandling hcurrent => ?_⟩
  · rcases hpage _ page hmem with rfl | hmem
    · exact ⟨names, hleads, hpath⟩
    · exact hfiles page hmem
  · have hold := hpages hhandling hcurrent
    have hsame := hold.files
    rw [List.map_append, List.map_cons] at hsame
    refine ⟨?_, fun page hmem found hfound => ?_⟩
    · rw [List.map_append, List.map_cons]
      exact hsame
    · rcases hpage _ page hmem with rfl | hmem
      · rw [← Option.some.inj hfound]
        refine h.lines_served hhandling hcurrent ?_ name
        rw [← hsame]
        exact List.mem_append_right _ List.mem_cons_self
      · exact (hold.lines page hmem found hfound).imp_right (And.imp_left Or.inl)

theorem Inv.finish (h : race.Inv root change) {id generation : Nat} {pages : List Page}
    (hsearch : race.searches id = .reading name generation pages)
    (hread : ∀ page ∈ pages, page.2.isSome) :
    (race.finish id name generation pages).Inv root change := by
  have hright := h.searches id
  rw [hsearch] at hright
  have hmoved : (race.move id (.finished name (answer pages))).Inv root change := h.move id trivial
  refine ⟨h.wellFormed, h.texts, hmoved.idle, fun other => ?_, fun hhandling => ?_⟩
  · exact (hmoved.searches other).of_eq DefinitionCache.generation_record rfl rfl .rfl
      fun h => h
  · by_cases hmisled : race.misled
    · exact .inl hmisled
    · right
      have hholds := (h.answers hhandling).resolve_left hmisled
      by_cases hcurrent : race.navigator.definitions.generation = generation
      · exact hholds.record ((hright.2.2 hhandling hcurrent.symm).answer_eq hmisled hread)
      · rw [Race.finish, DefinitionCache.record, if_pos hcurrent]
        exact hholds

theorem Inv.edit (h : race.Inv root change) {disk : Disk} (hwell : disk.WellFormed)
    (hwaiting : race.handling = .waiting)
    (honly : ∀ names, Path.LeadsToManifest names →
      (root.descend names).components ≠ change.path.components →
      race.moment.disk.fileBelow? root names = disk.fileBelow? root names) :
    (race.edit disk).Inv root change where
  wellFormed := hwell
  texts names bytes hleads hfile hdropped := by
    have hother : (root.descend names).components ≠ change.path.components := by
      refine hdropped.resolve_left fun hreturned => ?_
      rw [Race.edit, hwaiting] at hreturned
      exact absurd hreturned (by simp)
    have hsame := honly names hleads hother
    have hright := h.texts names bytes hleads (hsame.trans hfile) (.inr hother)
    rw [hsame] at hright
    exact hright
  idle := h.idle
  searches id := by
    have hkeep : ∀ search, race.SearchRight root change search →
        (race.edit disk).SearchRight root change search := by
      intro search hright
      cases search with
      | noted name generation => exact hright
      | reading name generation pages =>
        exact ⟨hright.1, hright.2.1, fun hhandling => absurd hwaiting hhandling⟩
      | _ => trivial
    exact hkeep _ (h.searches id)
  answers hhandling := absurd hwaiting hhandling

theorem Inv.forget (h : race.Inv root change) (hwaiting : race.handling = .waiting) :
    race.forget.Inv root change where
  wellFormed := h.wellFormed
  texts names bytes hleads hfile hdropped :=
    h.texts names bytes hleads hfile (.inr (hdropped.resolve_left (by simp [Race.forget])))
  idle := h.idle
  searches id := by
    have hkeep : ∀ search, race.SearchRight root change search →
        race.forget.SearchRight root change search := by
      intro search hright
      cases search with
      | noted name generation => exact fun h => absurd h (by simp [Race.forget])
      | reading name generation pages =>
        refine ⟨fun h => absurd h (by simp [Race.forget]), hright.2.1, fun _ hcurrent => ?_⟩
        -- nobody has the generation that is opened here
        rw [hright.1 hwaiting] at hcurrent
        exact absurd hcurrent.symm (DefinitionCache.generation_advance_ne _)
      | _ => trivial
    exact hkeep _ (h.searches id)
  answers _ := .inr (DefinitionCache.holds_of_snapshot rfl)

theorem Inv.drop (h : race.Inv root change) (hhalfway : race.handling = .halfway) :
    (race.drop change).Inv root change where
  wellFormed := h.wellFormed
  texts names bytes hleads hfile _ := by
    intro entry hmem
    obtain ⟨hmem, hne⟩ := Keyed.mem_erase.1 hmem
    exact h.texts names bytes hleads hfile (.inr hne) entry hmem
  idle := h.idle
  searches id := (h.searches id).of_eq rfl rfl rfl (by simp [Race.drop, hhalfway]) fun h => h
  answers _ := h.answers (by simp [hhalfway])

theorem Inv.step (h : race.Inv root change) (hstep : race.Step root change next) :
    next.Inv root change := by
  cases hstep with
  | wait milliseconds =>
    exact ⟨h.wellFormed, h.texts, h.idle,
      fun id => (h.searches id).of_eq rfl rfl rfl .rfl fun h => h, h.answers⟩
  | edit disk hwell hwaiting honly => exact h.edit hwell hwaiting honly
  | lookUp id name hidle =>
    refine h.move id ?_
    split <;> trivial
  | note id name hmissed => exact h.move id fun _ => rfl
  | discover id name generation hnoted =>
    have hright := h.searches id
    rw [hnoted] at hright
    refine h.move id ⟨hright, fun page hpage => ?_,
      fun _ _ => ⟨?_, fun page hpage found hfound => ?_⟩⟩
    · obtain ⟨path, hpath, rfl⟩ := List.mem_map.1 hpage
      obtain ⟨names, bytes, hleads, heq, -⟩ := Disk.manifest_of_mem h.wellFormed hpath
      exact ⟨names, hleads, heq⟩
    · rw [List.map_map]
      exact List.map_id _
    · obtain ⟨path, -, rfl⟩ := List.mem_map.1 hpage
      exact absurd hfound (by simp)
  | read id name generation front path back hreading => exact h.read hreading
  | finish id name generation pages hreading hread => exact h.finish hreading hread
  | forget hwaiting => exact h.forget hwaiting
  | drop hhalfway => exact h.drop hhalfway

end Race

end WorkflowNav
