/-
A search that nothing disturbs.

A navigator searches in one go, and without other turns the fetches of a batch all look before any
of them inserts. The steps of a search that races with others read one file after the other, each
with the texts that there are by then. Left alone, both come to the same: what is kept for one file
leaves the texts of all others as fresh as they were, so that it does not matter when they are
looked up (`foldl_fetchBeyond_eq`). So the steps, taken in a row, are the search of the navigator.
-/
import WorkflowNav.Proofs.Batching
import WorkflowNav.Proofs.Race

set_option autoImplicit false

namespace WorkflowNav

/-! ## One file after the other -/

namespace TextCache

variable {known cache : TextCache} {moment : Moment} {rule : Rule} {path : Path}
variable {files : List Path}

/-- The texts after some files were fetched, one after the other. -/
def fetchInRow (cache : TextCache) (moment : Moment) (files : List Path) : TextCache :=
  files.foldl (fun texts path => (texts.fetch moment path).2) cache

theorem isFunctional_fetchInRow (h : cache.IsFunctional) (files : List Path) :
    (cache.fetchInRow moment files).IsFunctional := by
  induction files generalizing cache with
  | nil => exact h
  | cons path files ih => exact ih (h.fetchBeyond _ _ _)

/-- Fetching one file leaves the others as fresh as they were. -/
theorem fresh?_fetch_of_mem (hfunctional : cache.IsFunctional)
    (hdistinct : ((path :: files).map Path.components).Nodup) {other : Path}
    (hother : other ∈ files) :
    (cache.fetch moment path).2.fresh? moment.now other = cache.fresh? moment.now other := by
  rw [List.map_cons, List.nodup_cons] at hdistinct
  exact fresh?_fetchBeyond_of_ne hfunctional fun heq =>
    hdistinct.1 (heq ▸ List.mem_map_of_mem hother)

theorem fetchBeyond_snd_congr
    (h : known.fresh? moment.now path = cache.fresh? moment.now path) :
    (known.fetchBeyond cache moment path).2 = (cache.fetch moment path).2 := by
  unfold fetch fetchBeyond
  rw [h]

/-- It does not matter when texts are looked up. -/
theorem foldl_fetchBeyond_eq (hfunctional : cache.IsFunctional)
    (hdistinct : (files.map Path.components).Nodup)
    (hknown : ∀ path ∈ files, known.fresh? moment.now path = cache.fresh? moment.now path) :
    files.foldl (fun texts path => (known.fetchBeyond texts moment path).2) cache
      = cache.fetchInRow moment files := by
  induction files generalizing cache with
  | nil => rfl
  | cons path files ih =>
    rw [List.foldl_cons, fetchBeyond_snd_congr (hknown path List.mem_cons_self)]
    refine ih (hfunctional.fetchBeyond _ _ _) (List.nodup_cons.1 hdistinct).2 fun other hother => ?_
    -- the induction needs the files to come still to be as fresh as when the batch began
    rw [fresh?_fetch_of_mem hfunctional hdistinct hother]
    exact hknown other (List.mem_cons_of_mem _ hother)

/-- Nor does it show in what is found. -/
theorem plainScan_fetch (hfunctional : cache.IsFunctional)
    (hdistinct : ((path :: files).map Path.components).Nodup) :
    (cache.fetch moment path).2.plainScan moment rule files
      = cache.plainScan moment rule files := by
  refine List.flatMap_congr fun other hother => congrArg (rule.linesOf other) ?_
  exact fetchBeyond_fst_congr (fresh?_fetch_of_mem hfunctional hdistinct hother)

end TextCache

/-- A scan for all there is reads one file after the other, whatever the batches. -/
theorem Scan.texts_run_nil {moment : Moment} {rule : Rule} {scan : Scan}
    (hfunctional : scan.texts.IsFunctional) {files : List (List Path)}
    (hdistinct : (files.flatten.map Path.components).Nodup) :
    (run moment rule none [] scan files).texts
      = scan.texts.fetchInRow moment files.flatten := by
  induction files generalizing scan with
  | nil => rfl
  | cons paths files ih =>
    rw [List.flatten_cons, List.map_append, List.nodup_append] at hdistinct
    have hbatch : (scan.batch moment rule [] paths).texts = scan.texts.fetchInRow moment paths := by
      rw [texts_batch_nil]
      exact TextCache.foldl_fetchBeyond_eq hfunctional hdistinct.1 fun _ _ => rfl
    have hnext : (scan.batch moment rule [] paths).texts.IsFunctional := by
      rw [hbatch]
      exact TextCache.isFunctional_fetchInRow hfunctional paths
    rw [run, if_neg (by simp [isEnough]), List.headD_nil, List.tail_nil, ih hnext hdistinct.2.1,
      hbatch, List.flatten_cons, TextCache.fetchInRow, TextCache.fetchInRow, ← List.foldl_append]
    rfl

/-- A search for a definition that is not known reads one file after the other. -/
theorem Navigator.findDefinition_of_missed {navigator : Navigator} {moment : Moment} {root : Path}
    {name : Text} (hwell : moment.disk.WellFormed) (hfunctional : navigator.texts.IsFunctional)
    (h : navigator.definitions.lookup? moment.now name = none) :
    (navigator.findDefinition moment {} root name).2
      = { navigator with
          texts := navigator.texts.fetchInRow moment (navigator.manifests moment root)
          definitions := navigator.definitions.record moment.now navigator.definitions.generation
            name (navigator.findDefinition moment {} root name).1.locations } := by
  have hfiles := flatten_batches navigator.settings.fileBatch (navigator.manifests moment root)
  have hrow : (Scan.run moment (Query.definition name).rule none [] { texts := navigator.texts }
      (batches navigator.settings.fileBatch (navigator.manifests moment root))).texts
      = navigator.texts.fetchInRow moment (navigator.manifests moment root) := by
    rw [Scan.texts_run_nil hfunctional (hfiles.symm ▸ nodup_components hwell), hfiles]
  rw [← hrow, findDefinition, h]
  rfl

/-! ## The steps in a row -/

namespace Race

variable {root : Path} {change : FileChange} {race : Race} {name : Text}

private theorem answer_concat (pages : List Page) (path : Path) (lines : List Location) :
    answer (pages ++ [(path, some lines)]) = answer pages ++ lines := by
  rw [answer, answer, List.flatMap_append, List.flatMap_singleton]
  rfl

/-- The files of a search, read in a row. -/
private theorem exists_read_in_row (root : Path) (change : FileChange) {id generation : Nat}
    (front : List Page) {files : List Path}
    (hsearch : race.searches id
      = .reading name generation (front ++ files.map fun path => (path, none)))
    (hfront : ∀ page ∈ front, page.2.isSome) (hfunctional : race.navigator.texts.IsFunctional)
    (hdistinct : (files.map Path.components).Nodup) :
    ∃ next pages, Relation.ReflTransGen (Step root change) race next
      ∧ next.moment = race.moment
      ∧ next.navigator = { race.navigator with
          texts := race.navigator.texts.fetchInRow race.moment files }
      ∧ next.searches id = .reading name generation pages ∧ (∀ page ∈ pages, page.2.isSome)
      ∧ answer pages = answer front
        ++ race.navigator.texts.plainScan race.moment (Query.definition name).rule files := by
  induction files generalizing race front with
  | nil =>
    rw [List.map_nil, List.append_nil] at hsearch
    exact ⟨race, front, .refl, rfl, rfl, hsearch, hfront, (List.append_nil _).symm⟩
  | cons path files ih =>
    let lines := (Query.definition name).rule.linesOf path (race.served path)
    let back : List Page := files.map fun path => (path, none)
    have hstep : race.Step root change (race.read id name generation front path back) :=
      .read id name generation front path back hsearch
    have hsearch' : (race.read id name generation front path back).searches id
        = .reading name generation ((front ++ [(path, some lines)]) ++ back) := by
      rw [read, searches_move_self, ← List.append_cons]
    have hfront' : ∀ page ∈ front ++ [(path, some lines)], page.2.isSome := by
      intro page hpage
      rcases List.mem_append.1 hpage with hpage | hpage
      · exact hfront page hpage
      · rw [List.mem_singleton.1 hpage]
        rfl
    obtain ⟨next, pages, hsteps, hmoment, hnavigator, hread, hpages, hanswer⟩ :=
      ih _ hsearch' hfront'
        (hfunctional.fetchBeyond _ _ _) (List.nodup_cons.1 hdistinct).2
    refine ⟨next, pages, .head hstep hsteps, hmoment, hnavigator, hread, hpages, ?_⟩
    rw [hanswer, answer_concat, List.append_assoc]
    congr 1
    have hrest : (race.navigator.texts.fetch race.moment path).2.plainScan race.moment
        (Query.definition name).rule files = _ := TextCache.plainScan_fetch hfunctional hdistinct
    exact congrArg (lines ++ ·) hrest

/-- **Left alone, the steps of a search are the search of the navigator.** -/
theorem exists_steps_findDefinition (hwell : race.moment.disk.WellFormed)
    (hfunctional : race.navigator.texts.IsFunctional) {id : Nat} (hidle : race.searches id = .idle)
    (name : Text) :
    ∃ next, Relation.ReflTransGen (Step root change) race next ∧ next.moment = race.moment
      ∧ next.navigator = (race.navigator.findDefinition race.moment {} root name).2
      ∧ next.searches id = .finished name
          (race.navigator.findDefinition race.moment {} root name).1.locations := by
  have hlookUp : race.Step root change (race.lookUp id name) := .lookUp id name hidle
  cases hlookup : race.navigator.definitions.lookup? race.moment.now name with
  | some locations =>
    refine ⟨_, .single hlookUp, rfl, ?_, ?_⟩
    · rw [Navigator.findDefinition, hlookup]
      rfl
    · rw [Navigator.findDefinition, hlookup, lookUp, searches_move_self, hlookup]
  | none =>
    let generation := race.navigator.definitions.generation
    let files := race.navigator.manifests race.moment root
    let noted := (race.lookUp id name).note id name
    have hmissed : (race.lookUp id name).searches id = .missed name := by
      rw [lookUp, searches_move_self, hlookup]
    have hnote : (race.lookUp id name).Step root change noted := .note id name hmissed
    have hdiscover : noted.Step root change (noted.discover root id name generation) :=
      .discover id name generation (searches_move_self _ _ _)
    have hreading : (noted.discover root id name generation).searches id
        = .reading name generation ([] ++ files.map fun path => (path, none)) :=
      searches_move_self _ _ _
    obtain ⟨next, pages, hsteps, hmoment, hnavigator, hread, hpages, hanswer⟩ :=
      exists_read_in_row root change [] hreading (by simp) hfunctional
        (Navigator.nodup_components hwell)
    have hfinish : next.Step root change (next.finish id name generation pages) :=
      .finish id name generation pages hread hpages
    have hfound : answer pages
        = (race.navigator.findDefinition race.moment {} root name).1.locations := by
      rw [Navigator.locations_of_missed hwell hfunctional hlookup]
      exact hanswer
    refine ⟨_, .head hlookUp (.head hnote (.head hdiscover (hsteps.tail hfinish))), hmoment, ?_, ?_⟩
    · have hnow : next.moment = race.moment := hmoment
      have htexts : next.navigator = { race.navigator with
          texts := race.navigator.texts.fetchInRow race.moment files } := hnavigator
      rw [Navigator.findDefinition_of_missed hwell hfunctional hlookup, finish, htexts, hnow,
        hfound]
    · rw [← hfound]
      exact searches_move_self _ _ _

end Race

end WorkflowNav
