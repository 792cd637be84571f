/-
When word of a change takes effect.

Once the change was handled, every search that starts from then on should find what is on the disk.
Whether it does is decided by what is left over from before: an answer that is kept and wrong will
be served, and a search of the current generation that has read wrong lines will hand them in. If
there is neither, all is well for good (`Settled.step`); if there is either, some search can be made
to find the wrong lines. Leftovers of both kinds come from searches that were misled between the two
steps of the handling, and only from these.
-/
import WorkflowNav.Proofs.Race

set_option autoImplicit false

namespace WorkflowNav.Race

variable {root : Path} {change : FileChange} {race next : Race} {name : Text}

/-! ## Nothing wrong is left over -/

/-- What a search of the current generation has read is what is on the disk. -/
def ReadRight (race : Race) : Search → Prop
  | .reading name generation pages =>
    generation = race.navigator.definitions.generation →
    ∀ page ∈ pages, ∀ found, page.2 = some found → found = race.lines name page.1
  | _ => True

/-- Nothing wrong is known, and nothing wrong was read by a search of the current generation. -/
structure Sound (root : Path) (race : Race) : Prop where
  answers : ∀ name locations,
    race.navigator.definitions.lookup? race.moment.now name = some locations →
    locations = race.uncached root name
  searches : ∀ id, race.ReadRight (race.searches id)

/-- What holds of a search that started after the change was handled. -/
def LaterRight (root : Path) (race : Race) : Search → Prop
  | .noted _ generation | .reading _ generation _ =>
    generation = race.navigator.definitions.generation
  | .finished name locations => locations = race.uncached root name
  | _ => True

/-- The change was handled, nothing wrong is left over, and the late searches are right. -/
structure Settled (root : Path) (late : Nat → Prop) (race : Race) : Prop
    extends race.Sound root where
  returned : race.handling = .returned
  later : ∀ id, late id → race.LaterRight root (race.searches id)

/-- Every search that starts from now on finds what is on the disk. -/
def FreshFrom (root : Path) (change : FileChange) (race : Race) : Prop :=
  ∀ next, Relation.ReflTransGen (Step root change) race next →
    ∀ id name locations, race.searches id = .idle → next.searches id = .finished name locations →
      locations = next.uncached root name

/-- Nobody misled, nothing wrong. -/
theorem Inv.sound (h : race.Inv root change) (hreturned : race.handling = .returned)
    (hmisled : ¬ race.misled) : race.Sound root where
  answers name locations hlookup :=
    ((h.answers (by simp [hreturned])).resolve_left hmisled).of_lookup? hlookup
  searches id := by
    have hkeep : ∀ search, race.SearchRight root change search → race.ReadRight search := by
      intro search hright
      cases search with
      | reading name generation pages =>
        intro hcurrent page hpage found hfound
        have hpages := hright.2.2 (by simp [hreturned]) hcurrent
        exact (hpages.lines page hpage found hfound).resolve_right fun h => hmisled h.1
      | _ => trivial
    exact hkeep _ (h.searches id)

/-! ## It stays that way -/

theorem ReadRight.of_eq {search : Search} (h : race.ReadRight search)
    (hgeneration : next.navigator.definitions.generation = race.navigator.definitions.generation)
    (hdisk : next.moment.disk = race.moment.disk) : next.ReadRight search := by
  cases search with
  | reading name generation pages =>
    rw [ReadRight, hgeneration]
    intro hcurrent page hpage found hfound
    rw [lines, hdisk]
    exact h hcurrent page hpage found hfound
  | _ => trivial

theorem LaterRight.of_eq {search : Search} (h : race.LaterRight root search)
    (hgeneration : next.navigator.definitions.generation = race.navigator.definitions.generation)
    (hdisk : next.moment.disk = race.moment.disk)
    (hsettings : next.navigator.settings = race.navigator.settings) :
    next.LaterRight root search := by
  cases search with
  | noted name generation => exact h.trans hgeneration.symm
  | reading name generation pages => exact h.trans hgeneration.symm
  | finished name locations =>
    rw [LaterRight, uncached, hdisk, hsettings]
    exact h
  | _ => trivial

variable {late : Nat → Prop}

/-- What is known may grow by right answers, and searches may move on, as long as all else stays. -/
theorem Settled.of_eq (h : race.Settled root late)
    (hgeneration : next.navigator.definitions.generation = race.navigator.definitions.generation)
    (hdisk : next.moment.disk = race.moment.disk)
    (hsettings : next.navigator.settings = race.navigator.settings)
    (hhandling : next.handling = race.handling) (hsearches : next.searches = race.searches)
    (hanswers : ∀ name locations,
      next.navigator.definitions.lookup? next.moment.now name = some locations →
      locations = race.uncached root name
        ∨ race.navigator.definitions.lookup? race.moment.now name = some locations) :
    next.Settled root late where
  answers name locations hlookup := by
    rw [uncached, hdisk, hsettings]
    exact (hanswers name locations hlookup).elim id (h.answers name locations)
  searches id := by
    rw [hsearches]
    exact (h.searches id).of_eq hgeneration hdisk
  returned := hhandling.trans h.returned
  later id hid := by
    rw [hsearches]
    exact (h.later id hid).of_eq hgeneration hdisk hsettings

theorem Settled.move (h : race.Settled root late) (id : Nat) {search : Search}
    (hread : race.ReadRight search) (hlater : late id → race.LaterRight root search) :
    (race.move id search).Settled root late where
  answers := h.answers
  searches other := by
    rcases eq_or_ne other id with rfl | hne
    · rw [searches_move_self]
      exact hread.of_eq rfl rfl
    · rw [searches_move_of_ne race hne]
      exact (h.searches other).of_eq rfl rfl
  returned := h.returned
  later other hother := by
    rcases eq_or_ne other id with rfl | hne
    · rw [searches_move_self]
      exact (hlater hother).of_eq rfl rfl rfl
    · rw [searches_move_of_ne race hne]
      exact (h.later other hother).of_eq rfl rfl rfl

private theorem Settled.read (h : race.Settled root late) (hinv : race.Inv root change)
    {id generation : Nat} {front back : List Page} {path : Path}
    (hsearch : race.searches id = .reading name generation (front ++ (path, none) :: back)) :
    (race.read id name generation front path back).Settled root late := by
  have hright := hinv.searches id
  have hread := h.searches id
  have hlater := h.later id
  rw [hsearch] at hright hread hlater
  have hserve : (race.serve generation path).Settled root late :=
    h.of_eq rfl rfl rfl rfl rfl fun _ _ hlookup => .inr hlookup
  refine hserve.move id (fun hcurrent page hpage found hfound => ?_) hlater
  rw [List.mem_append, List.mem_cons] at hpage
  rcases hpage with hpage | rfl | hpage
  · exact hread hcurrent page (List.mem_append_left _ hpage) found hfound
  · -- texts are right by now, also that of the changed manifest
    have hmem : path ∈ race.navigator.manifests race.moment root := by
      rw [← (hright.2.2 (by simp [h.returned]) hcurrent).files, List.map_append]
      exact List.mem_append_right _ List.mem_cons_self
    rw [← Option.some.inj hfound, hinv.served_eq hmem (.inl h.returned)]
    rfl
  · exact hread hcurrent page (List.mem_append_right _ (List.mem_cons_of_mem _ hpage)) found hfound

private theorem Settled.finish (h : race.Settled root late) (hinv : race.Inv root change)
    {id generation : Nat} {pages : List Page}
    (hsearch : race.searches id = .reading name generation pages)
    (hpages : ∀ page ∈ pages, page.2.isSome) :
    (race.finish id name generation pages).Settled root late := by
  have hright := hinv.searches id
  have hread := h.searches id
  have hlater := h.later id
  rw [hsearch] at hright hread hlater
  have hanswer : generation = race.navigator.definitions.generation →
      answer pages = race.uncached root name := by
    intro hcurrent
    have hfiles := (hright.2.2 (by simp [h.returned]) hcurrent).files
    refine answer_eq_of_lines hfiles fun page hpage => ?_
    obtain ⟨found, hfound⟩ := Option.isSome_iff_exists.1 (hpages page hpage)
    rw [hfound, hread hcurrent page hpage found hfound]
  have hrecorded : Settled root late { race with
      navigator := { race.navigator with
        definitions := race.navigator.definitions.record race.moment.now generation name
          (answer pages) } } := by
    refine h.of_eq DefinitionCache.generation_record rfl rfl rfl rfl fun other found hlookup => ?_
    rcases DefinitionCache.lookup?_of_record hlookup with ⟨hcurrent, rfl, rfl⟩ | hknown
    · exact .inl (hanswer hcurrent)
    · exact .inr hknown
  exact hrecorded.move id trivial fun hid => hanswer (hlater hid)

theorem Settled.step (h : race.Settled root late) (hinv : race.Inv root change)
    (hstep : race.Step root change next) : next.Settled root late := by
  cases hstep with
  | wait milliseconds =>
    refine h.of_eq rfl rfl rfl rfl rfl fun name locations hlookup => .inr ?_
    exact DefinitionCache.lookup?_of_le (Nat.le_add_right _ _) hlookup
  | edit disk hwell hwaiting honly => exact absurd (hwaiting.symm.trans h.returned) (by simp)
  | lookUp id name hidle =>
    unfold lookUp
    split
    · next locations hlookup => exact h.move id trivial fun _ => h.answers name locations hlookup
    · exact h.move id trivial fun _ => trivial
  | note id name hmissed => exact h.move id trivial fun _ => rfl
  | discover id name generation hnoted =>
    have hlater := h.later id
    rw [hnoted] at hlater
    refine h.move id (fun _ page hpage found hfound => ?_) hlater
    obtain ⟨path, -, rfl⟩ := List.mem_map.1 hpage
    exact absurd hfound (by simp)
  | read id name generation front path back hreading => exact h.read hinv hreading
  | finish id name generation pages hreading hpages => exact h.finish hinv hreading hpages
  | forget hwaiting => exact absurd (hwaiting.symm.trans h.returned) (by simp)
  | drop hhalfway => exact absurd (hhalfway.symm.trans h.returned) (by simp)

theorem Inv.steps (h : race.Inv root change)
    (hsteps : Relation.ReflTransGen (Step root change) race next) : next.Inv root change := by
  induction hsteps with
  | refl => exact h
  | tail _ hstep ih => exact ih.step hstep

theorem Settled.steps (h : race.Settled root late) (hinv : race.Inv root change)
    (hsteps : Relation.ReflTransGen (Step root change) race next) : next.Settled root late := by
  induction hsteps with
  | refl => exact h
  | tail hsteps hstep ih => exact ih.step (hinv.steps hsteps) hstep

/-- Nothing wrong left over, nothing wrong found. -/
theorem Sound.freshFrom (h : race.Sound root) (hinv : race.Inv root change)
    (hreturned : race.handling = .returned) : race.FreshFrom root change := by
  intro next hsteps id name locations hidle hfinished
  have hstart : race.Settled root fun id => race.searches id = .idle := by
    refine ⟨h, hreturned, fun id hid => ?_⟩
    rw [hid]
    trivial
  have hright := (hstart.steps hinv hsteps).later id hidle
  rw [hfinished] at hright
  exact hright

/-! ## What is wrong will be found -/

/-- A page with its lines, those that were read or else those on the disk. -/
private def filled (race : Race) (name : Text) (page : Page) : Page :=
  (page.1, some (page.2.getD (race.lines name page.1)))

/-- Once the change was handled, a search of the current generation reads what is on the disk. -/
private theorem searches_read (hinv : race.Inv root change) (hreturned : race.handling = .returned)
    {id : Nat} {front back : List Page} {path : Path}
    (hsearch : race.searches id
      = .reading name race.navigator.definitions.generation (front ++ (path, none) :: back)) :
    (race.read id name race.navigator.definitions.generation front path back).searches id
      = .reading name race.navigator.definitions.generation
        ((front ++ [race.filled name (path, none)]) ++ back) := by
  have hright := hinv.searches id
  rw [hsearch] at hright
  have hmem : path ∈ race.navigator.manifests race.moment root := by
    rw [← (hright.2.2 (by simp [hreturned]) rfl).files, List.map_append]
    exact List.mem_append_right _ List.mem_cons_self
  rw [read, searches_move_self, hinv.served_eq hmem (.inl hreturned), ← List.append_cons]
  rfl

/-- Once the change was handled, a search of the current generation can read all its pages while
nothing else happens. -/
private theorem exists_read_all (hinv : race.Inv root change)
    (hreturned : race.handling = .returned) {id : Nat} (front : List Page) {back : List Page}
    (hsearch : race.searches id
      = .reading name race.navigator.definitions.generation (front ++ back)) :
    ∃ next, Relation.ReflTransGen (Step root change) race next
      ∧ next.navigator.definitions = race.navigator.definitions
      ∧ next.navigator.settings = race.navigator.settings ∧ next.moment = race.moment
      ∧ (∀ other, other ≠ id → next.searches other = race.searches other)
      ∧ next.searches id = .reading name race.navigator.definitions.generation
          (front ++ back.map (race.filled name)) := by
  induction back generalizing race front with
  | nil => exact ⟨race, .refl, rfl, rfl, rfl, fun _ _ => rfl, hsearch⟩
  | cons page back ih =>
    obtain ⟨path, found⟩ := page
    cases found with
    | some found =>
      -- a page that was read stays as it is
      rw [List.append_cons] at hsearch
      obtain ⟨next, hsteps, hdefinitions, hsettings, hmoment, hothers, hread⟩ :=
        ih hinv hreturned _ hsearch
      refine ⟨next, hsteps, hdefinitions, hsettings, hmoment, hothers, ?_⟩
      rw [hread, List.append_assoc]
      rfl
    | none =>
      have hstep : race.Step root change
          (race.read id name race.navigator.definitions.generation front path back) :=
        .read id name _ front path back hsearch
      obtain ⟨next, hsteps, hdefinitions, hsettings, hmoment, hothers, hread⟩ :=
        ih (hinv.step hstep) hreturned _ (searches_read hinv hreturned hsearch)
      refine ⟨next, .head hstep hsteps, hdefinitions, hsettings, hmoment, fun other hne => ?_, ?_⟩
      · rw [hothers other hne]
        exact searches_move_of_ne _ hne _
      · rw [hread, List.append_assoc]
        rfl

/-- What is known will be found. -/
private theorem FreshFrom.lookup?_eq (h : race.FreshFrom root change) (hinv : race.Inv root change)
    (hsteps : Relation.ReflTransGen (Step root change) race next) (busy : Nat)
    (hbusy : ∀ id, id ≠ busy → next.searches id = race.searches id) {locations : List Location}
    (hlookup : next.navigator.definitions.lookup? next.moment.now name = some locations) :
    locations = next.uncached root name := by
  -- a search that has not started yet, and is not the one that the steps were taken by
  obtain ⟨bound, hbound⟩ := hinv.idle
  have hidle : race.searches (max bound (busy + 1)) = .idle := hbound _ (Nat.le_max_left _ _)
  have hnext : next.searches (max bound (busy + 1)) = .idle := by
    rw [hbusy _ (by omega), hidle]
  refine h _ (hsteps.tail (.lookUp _ name hnext)) _ name locations hidle ?_
  rw [lookUp, searches_move_self, hlookup]

/-- A search of the current generation will hand in what it has read. -/
private theorem FreshFrom.answer_filled (h : race.FreshFrom root change)
    (hinv : race.Inv root change) (hreturned : race.handling = .returned) {id : Nat}
    {pages : List Page}
    (hsearch : race.searches id = .reading name race.navigator.definitions.generation pages) :
    answer (pages.map (race.filled name)) = race.uncached root name := by
  obtain ⟨next, hsteps, hdefinitions, hsettings, hmoment, hothers, hread⟩ :=
    exists_read_all hinv hreturned [] hsearch
  rw [List.nil_append] at hread
  have hall : ∀ page ∈ pages.map (race.filled name), page.2.isSome := by
    intro page hpage
    obtain ⟨_, -, rfl⟩ := List.mem_map.1 hpage
    rfl
  have hknown : (next.finish id name race.navigator.definitions.generation
      (pages.map (race.filled name))).navigator.definitions.lookup? next.moment.now name
        = some (answer (pages.map (race.filled name))) := by
    rw [finish, ← hdefinitions]
    exact DefinitionCache.lookup?_record _ _ _ _
  rw [h.lookup?_eq hinv (hsteps.tail (.finish id name _ _ hread hall)) id
    (fun other hne => (searches_move_of_ne _ hne _).trans (hothers other hne)) hknown]
  rw [finish, move, uncached, uncached, hsettings, hmoment]

/-- Where two functions give the same lines in all but one place, they give the same there if they
give the same in all. -/
private theorem eq_of_flatMap_eq {f g : Page → List Location} {front back : List Page} {page : Page}
    (hfront : ∀ other ∈ front, f other = g other) (hback : ∀ other ∈ back, f other = g other)
    (h : (front ++ page :: back).flatMap f = (front ++ page :: back).flatMap g) :
    f page = g page := by
  rw [List.flatMap_append, List.flatMap_append, List.flatMap_cons, List.flatMap_cons,
    List.flatMap_congr hfront, List.flatMap_congr hback] at h
  exact List.append_cancel_right (List.append_cancel_left h)

/-- Only one page can be of the changed manifest. -/
private theorem PagesRight.eq_of_components {pages : List Page}
    (h : race.PagesRight root change name pages) (hwell : race.moment.disk.WellFormed)
    {page other : Page} (hpage : page ∈ pages) (hother : other ∈ pages)
    (hcomponents : page.1.components = other.1.components) : page.1 = other.1 := by
  have hmem : ∀ page ∈ pages, page.1 ∈ race.navigator.manifests race.moment root := by
    intro page hpage
    rw [← h.files]
    exact List.mem_map_of_mem hpage
  obtain ⟨names, bytes, hleads, hpath, -⟩ := Disk.manifest_of_mem hwell (hmem page hpage)
  obtain ⟨others, bytes', hleads', hpath', -⟩ := Disk.manifest_of_mem hwell (hmem other hother)
  rw [hpath, hpath'] at hcomponents ⊢
  rw [Path.descend_injective root hleads.isName hleads'.isName hcomponents]

/-- The page of the changed manifest is right if the whole is: all other pages are right anyway. -/
private theorem PagesRight.lines_of_filled {pages : List Page}
    (h : race.PagesRight root change name pages) (hwell : race.moment.disk.WellFormed)
    (hanswer : answer (pages.map (race.filled name)) = race.uncached root name) {page : Page}
    (hpage : page ∈ pages) (hchanged : page.1.components = change.path.components) :
    page.2.getD (race.lines name page.1) = race.lines name page.1 := by
  have hwhole : pages.flatMap (fun page => page.2.getD (race.lines name page.1))
      = pages.flatMap fun page => race.lines name page.1 := by
    rw [answer, List.flatMap_map] at hanswer
    rw [← List.flatMap_map, h.files]
    exact hanswer
  have hothers : ∀ other ∈ pages, other.1 ≠ page.1 →
      other.2.getD (race.lines name other.1) = race.lines name other.1 := by
    intro other hother hne
    cases hread : other.2 with
    | none => rfl
    | some lines =>
      refine (h.lines other hother lines hread).resolve_right fun hmisled => ?_
      exact hne (h.eq_of_components hwell hother hpage (hmisled.2.trans hchanged.symm))
  have hnodup : (pages.map Prod.fst).Nodup := by
    rw [h.files]
    exact Crawl.nodup_manifests hwell _ _ root
  obtain ⟨front, back, rfl⟩ := List.append_of_mem hpage
  rw [List.map_append, List.map_cons, List.nodup_middle, List.nodup_cons, List.mem_append,
    not_or] at hnodup
  refine eq_of_flatMap_eq (fun other hother => ?_) (fun other hother => ?_) hwhole
  · refine hothers other (List.mem_append_left _ hother) fun heq => hnodup.1.1 ?_
    rw [← heq]
    exact List.mem_map_of_mem hother
  · refine hothers other (List.mem_append_right _ (List.mem_cons_of_mem _ hother)) fun heq =>
      hnodup.1.2 ?_
    rw [← heq]
    exact List.mem_map_of_mem hother

/-- What is left over and wrong will be found. -/
theorem FreshFrom.sound (h : race.FreshFrom root change) (hinv : race.Inv root change)
    (hreturned : race.handling = .returned) : race.Sound root where
  answers name locations hlookup := h.lookup?_eq hinv .refl 0 (fun _ _ => rfl) hlookup
  searches id := by
    cases hsearch : race.searches id with
    | reading name generation pages =>
      rintro rfl page hpage found hfound
      have hright := hinv.searches id
      rw [hsearch] at hright
      have hpages := hright.2.2 (by simp [hreturned]) rfl
      rcases hpages.lines page hpage found hfound with hlines | ⟨-, hchanged⟩
      · exact hlines
      · -- let it read the rest and hand in: its answer is then right as a whole
        have hanswer := h.answer_filled hinv hreturned hsearch
        have hlines := hpages.lines_of_filled hinv.wellFormed hanswer hpage hchanged
        rw [hfound] at hlines
        exact hlines
    | _ => trivial

/-! ## The condition -/

theorem inv_of_steps {navigator : Navigator} {moment : Moment} (hwell : moment.disk.WellFormed)
    (htexts : navigator.texts.AgreesWith moment.disk root)
    (hsteps : Relation.ReflTransGen (Step root change) { navigator := navigator, moment := moment }
      race) : race.Inv root change := by
  refine Inv.steps ?_ hsteps
  exact ⟨hwell, fun names _ hleads _ _ => htexts names hleads, ⟨0, fun _ _ => rfl⟩,
    fun _ => trivial, fun h => absurd rfl h⟩

/-- **When word of a change takes effect.** Once a change was handled, every search that starts from
then on finds what is on the disk if and only if nothing wrong is left over; and nothing is, if no
search was misled between the two steps. -/
theorem freshFrom_iff_sound {navigator : Navigator} {moment : Moment}
    (hwell : moment.disk.WellFormed) (htexts : navigator.texts.AgreesWith moment.disk root)
    (hsteps : Relation.ReflTransGen (Step root change) { navigator := navigator, moment := moment }
      race) (hreturned : race.handling = .returned) :
    (race.FreshFrom root change ↔ race.Sound root)
      ∧ (¬ race.misled → race.FreshFrom root change) := by
  have hinv := inv_of_steps hwell htexts hsteps
  refine ⟨⟨fun h => h.sound hinv hreturned, fun h => h.freshFrom hinv hreturned⟩, fun hmisled => ?_⟩
  exact (hinv.sound hreturned hmisled).freshFrom hinv hreturned

/-! A manifest changes after its text was read. -/

open Session (exampleName exampleText exampleDisk wellFormed_exampleDisk manifests_exampleDisk
  uncached_exampleDisk)

/-- The path of the manifest. -/
def examplePath : Path := Path.top.descend [exampleName]

/-- Word of its change. -/
def exampleChange : FileChange := ⟨examplePath, .changed⟩

/-- A navigator that has read the manifest. -/
def exampleNavigator : Navigator :=
  { Navigator.ofSettings {} with
    texts :=
      { timeout := 30000
        threshold := 100
        entries := [(examplePath.components, { text := exampleText "", readAt := 0 })] } }

private theorem agreesWith_exampleNavigator :
    exampleNavigator.texts.AgreesWith (exampleDisk "") .top := by
  intro names hleads entry hmem
  obtain ⟨hkey, rfl⟩ := Prod.mk.inj (List.mem_singleton.1 hmem)
  obtain rfl : names = [exampleName] := by
    refine Path.descend_injective .top hleads.isName (fun name hname => ?_) hkey
    rw [List.mem_singleton.1 hname]
    decide
  rw [exampleDisk, Disk.fileBelow?_single, if_pos rfl, Path.textBelow?, if_pos (by decide),
    Option.bind_some, Text.decode?_encode_of_all (by decide)]

/-- The race after the manifest has changed. -/
def exampleEdited : Race :=
  Race.edit { navigator := exampleNavigator, moment := { disk := exampleDisk "" } }
    (exampleDisk "# moved\n")

private theorem steps_exampleEdited :
    Relation.ReflTransGen (Step .top exampleChange)
      { navigator := exampleNavigator, moment := { disk := exampleDisk "" } } exampleEdited := by
  refine .single (.edit _ (wellFormed_exampleDisk _) rfl fun names hleads hne => ?_)
  rcases Decidable.em (names = [exampleName]) with rfl | hnames
  · exact absurd rfl hne
  · simp [exampleDisk, Disk.fileBelow?_single, hnames]

/-- With no search in between, the change takes effect. -/
theorem freshFrom_iff_sound_undisturbed :
    (exampleEdited.forget.drop exampleChange).handling = .returned
      ∧ (exampleEdited.forget.drop exampleChange).FreshFrom .top exampleChange := by
  refine ⟨rfl, ?_⟩
  have hsteps := (steps_exampleEdited.tail (.forget rfl)).tail (.drop rfl)
  exact (freshFrom_iff_sound (wellFormed_exampleDisk _) agreesWith_exampleNavigator hsteps rfl).2
    fun hmisled => hmisled

/-- Between the two steps a search takes the new generation. -/
def exampleSearched : Race :=
  ((exampleEdited.forget.lookUp 0 ['x']).note 0 ['x']).discover .top 0 ['x'] 1

/-- It reads the manifest, is served the old text, and hands in the old line. -/
def exampleMisled : Race :=
  (exampleSearched.read 0 ['x'] 1 [] examplePath []).finish 0 ['x'] 1
    [(examplePath, some [{ path := examplePath, line := 2 }])]

private theorem steps_exampleMisled :
    Relation.ReflTransGen (Step .top exampleChange)
      { navigator := exampleNavigator, moment := { disk := exampleDisk "" } } exampleMisled := by
  have hsearched : exampleSearched.searches 0 = .reading ['x'] 1 [(examplePath, none)] := by
    rw [exampleSearched, discover, searches_move_self]
    exact congrArg (fun paths : List Path => Search.reading ['x'] 1 (paths.map fun path =>
      (path, none))) (manifests_exampleDisk _ _ _)
  have hserved : exampleSearched.served examplePath = .ok (exampleText "") := rfl
  have hrule : Query.rule (.definition ['x']) (exampleText "") = [2] := by decide
  have hread : (exampleSearched.read 0 ['x'] 1 [] examplePath []).searches 0
      = .reading ['x'] 1 [(examplePath, some [{ path := examplePath, line := 2 }])] := by
    rw [read, searches_move_self, hserved, Rule.linesOf, Rule.locations, hrule]
    rfl
  have hsteps : Relation.ReflTransGen (Step .top exampleChange)
      { navigator := exampleNavigator, moment := { disk := exampleDisk "" } } exampleSearched :=
    (((steps_exampleEdited.tail (.forget rfl)).tail (.lookUp 0 ['x'] rfl)).tail
      (.note 0 ['x'] rfl)).tail (.discover 0 ['x'] 1 rfl)
  exact (hsteps.tail (.read 0 ['x'] 1 [] examplePath [] hsearched)).tail
    (.finish 0 ['x'] 1 _ hread (by simp))

/-- With one search in between, the change does not take effect: a search that starts after both
steps is given the old line. -/
theorem not_freshFrom_misled :
    (exampleDisk "").WellFormed ∧ exampleNavigator.texts.AgreesWith (exampleDisk "") .top
      ∧ Relation.ReflTransGen (Step .top exampleChange)
        { navigator := exampleNavigator, moment := { disk := exampleDisk "" } }
        (exampleMisled.drop exampleChange)
      ∧ (exampleMisled.drop exampleChange).handling = .returned
      ∧ ¬ (exampleMisled.drop exampleChange).FreshFrom .top exampleChange := by
  refine ⟨wellFormed_exampleDisk _, agreesWith_exampleNavigator,
    steps_exampleMisled.tail (.drop rfl), rfl, fun hfresh => ?_⟩
  have hstep : (exampleMisled.drop exampleChange).Step .top exampleChange
      ((exampleMisled.drop exampleChange).lookUp 1 ['x']) := .lookUp 1 ['x'] rfl
  have hold := hfresh _ (.single hstep) 1 ['x'] [{ path := examplePath, line := 2 }] rfl rfl
  exact absurd (hold.trans uncached_exampleDisk) (by decide)

end WorkflowNav.Race
