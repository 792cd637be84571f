/-
Fetches that run together.

The texts of a batch are fetched together. Each fetch looks for a fresh text, reads the file and
inserts what was read, and the steps of different fetches may come in any order. All orders end with
the same texts in the cache: inserted are in the end the texts of the files that were not fresh and
can be read, and that tells the cache.

What a fetch returns is another matter. It may be served a text that another one has inserted under
a different spelling of its path, one by which the file can be read. `SpelledAlike` rules that out,
and nothing less does.
-/
import WorkflowNav.Proofs.Straggler
import WorkflowNav.Proofs.Sweep

set_option autoImplicit false

namespace WorkflowNav

/-! ## What will be inserted -/

namespace TextCache

variable {cache : TextCache} {moment : Moment} {key : List Component}

/-- The keys under which some fetches will insert a text: those of paths that are not fresh and can
be read. -/
def Wanted (cache : TextCache) (moment : Moment) (paths : List Path) (key : List Component) :
    Prop :=
  ∃ path ∈ paths, path.components = key ∧ cache.fresh? moment.now path = none
    ∧ ∃ text, moment.disk.readText path = .ok text

/-- A fetch that fails wants nothing. -/
theorem wanted_filter_iff {paths : List Path} :
    cache.Wanted moment (paths.filter fun path => (cache.fetch moment path).1.toOption.isSome) key
      ↔ cache.Wanted moment paths key := by
  constructor
  · rintro ⟨path, hpath, hwanted⟩
    exact ⟨path, (List.mem_filter.1 hpath).1, hwanted⟩
  · rintro ⟨path, hpath, hkey, hstale, text, hread⟩
    refine ⟨path, List.mem_filter.2 ⟨hpath, ?_⟩, hkey, hstale, text, hread⟩
    rw [fetch_fst_of_stale hstale, hread]
    rfl

end TextCache

/-! ## The turns of fetches -/

namespace SharedTexts

open TextCache (Refreshed SpelledAlike Wanted SameTexts)

/-- What can happen next while the paths of a list are fetched, all at one instant. -/
inductive Turn (paths : List Path) (shared : SharedTexts) : SharedTexts → Prop
  | lookUp (id : Nat) (path : Path) (hpath : paths[id]? = some path)
      (h : shared.fetches id = .idle) : Turn paths shared (shared.lookUp id path)
  | read (id : Nat) (path : Path) (h : shared.fetches id = .missed path) :
      Turn paths shared (shared.read id path)
  | insert (id : Nat) (path : Path) (text : Text) (h : shared.fetches id = .holding path text) :
      Turn paths shared (shared.insert id path text)

/-- Any number of turns. -/
abbrev Turns (paths : List Path) : SharedTexts → SharedTexts → Prop :=
  Relation.ReflTransGen (Turn paths)

/-- All fetches have returned. -/
def Complete (paths : List Path) (shared : SharedTexts) : Prop :=
  ∀ id path, paths[id]? = some path → ∃ outcome, shared.fetches id = .returned path outcome

/-- The fetches of some paths can end like this. -/
def EndsIn (cache : TextCache) (moment : Moment) (paths : List Path) (last : SharedTexts) : Prop :=
  Turns paths { cache := cache, moment := moment } last ∧ last.Complete paths

variable {start : TextCache} {moment : Moment} {paths : List Path} {shared next : SharedTexts}
variable {done more : Finset (List Component)} {id : Nat} {path : Path} {text : Text}

/-- What a fetch has returned: what it would have returned at the start, or a text that another
fetch has inserted. Either way a text that was to be inserted for it is inserted. -/
structure Served (start : TextCache) (moment : Moment) (done : Finset (List Component))
    (path : Path) (outcome : Except ReadError Text) : Prop where
  mem_done : start.fresh? moment.now path = none →
    ∀ text, moment.disk.readText path = .ok text → path.components ∈ done
  outcome_eq : outcome = (start.fetch moment path).1
    ∨ 0 < start.timeout ∧ path.components ∈ done
      ∧ ∃ text, outcome = .ok text ∧ moment.disk.IsTextOf path.components text

/-- Where a fetch can stand. -/
def FetchRight (start : TextCache) (moment : Moment) (paths : List Path)
    (done : Finset (List Component)) (id : Nat) : Fetch → Prop
  | .idle => True
  | .missed path => paths[id]? = some path ∧ start.fresh? moment.now path = none
  | .holding path text => paths[id]? = some path ∧ start.fresh? moment.now path = none
    ∧ moment.disk.readText path = .ok text
  | .returned path outcome => paths[id]? = some path ∧ Served start moment done path outcome

/-- What holds after any number of turns. -/
structure Together (start : TextCache) (moment : Moment) (paths : List Path)
    (done : Finset (List Component)) (shared : SharedTexts) : Prop where
  moment_eq : shared.moment = moment
  refreshed : Refreshed start moment done shared.cache
  wanted : ∀ key ∈ done, start.Wanted moment paths key
  fetches : ∀ id, FetchRight start moment paths done id (shared.fetches id)

theorem FetchRight.mono {fetch : Fetch} (h : FetchRight start moment paths done id fetch)
    (hsub : done ⊆ more) : FetchRight start moment paths more id fetch := by
  cases fetch with
  | returned path outcome =>
    obtain ⟨hpath, hserved⟩ := h
    refine ⟨hpath, fun hstale text hread => hsub (hserved.mem_done hstale text hread), ?_⟩
    exact hserved.outcome_eq.imp_right fun ⟨htimeout, hdone, htext⟩ =>
      ⟨htimeout, hsub hdone, htext⟩
  | _ => exact h

theorem Together.move (h : shared.Together start moment paths done) (id : Nat) {fetch : Fetch}
    (hfetch : FetchRight start moment paths done id fetch) :
    (shared.move id fetch).Together start moment paths done where
  moment_eq := h.moment_eq
  refreshed := h.refreshed
  wanted := h.wanted
  fetches other := by
    rcases eq_or_ne other id with rfl | hne
    · rw [fetches_move_self]
      exact hfetch
    · rw [fetches_move_of_ne shared hne]
      exact h.fetches other

theorem Together.of_fetch (h : shared.Together start moment paths done) {fetch : Fetch}
    (hfetch : shared.fetches id = fetch) : FetchRight start moment paths done id fetch := by
  rw [← hfetch]
  exact h.fetches id

/-- What was inserted was not fresh at the start. -/
theorem Together.stale (h : shared.Together start moment paths done)
    (hdone : path.components ∈ done) : start.fresh? moment.now path = none := by
  obtain ⟨other, -, hkey, hstale, -⟩ := h.wanted _ hdone
  rw [← TextCache.fresh?_congr hkey]
  exact hstale

theorem Together.lookUp (h : shared.Together start moment paths done) (hstart : start.IsFunctional)
    (hpath : paths[id]? = some path) :
    (shared.lookUp id path).Together start moment paths done := by
  refine h.move id ?_
  rw [h.moment_eq]
  by_cases hdone : path.components ∈ done
  · have hstale := h.stale hdone
    cases hfresh : shared.cache.fresh? moment.now path with
    | none => exact ⟨hpath, hstale⟩
    | some text =>
      -- served with what another fetch has inserted
      obtain ⟨htimeout, htext⟩ := h.refreshed.of_fresh? hdone hfresh
      exact ⟨hpath, fun _ _ _ => hdone, .inr ⟨htimeout, hdone, text, rfl, htext⟩⟩
  · rw [h.refreshed.fresh?_of_notMem hstart hdone]
    cases hfresh : start.fresh? moment.now path with
    | none => exact ⟨hpath, hfresh⟩
    | some text =>
      refine ⟨hpath, fun hstale => absurd (hfresh.symm.trans hstale) (by simp), .inl ?_⟩
      rw [TextCache.fetch_of_fresh? hfresh]

theorem Together.read (h : shared.Together start moment paths done)
    (hmissed : shared.fetches id = .missed path) :
    (shared.read id path).Together start moment paths done := by
  obtain ⟨hpath, hstale⟩ := h.of_fetch hmissed
  refine h.move id ?_
  rw [h.moment_eq]
  cases hread : moment.disk.readText path with
  | ok text => exact ⟨hpath, hstale, hread⟩
  | error error =>
    refine ⟨hpath, fun _ text htext => absurd (hread.symm.trans htext) (by simp), .inl ?_⟩
    rw [TextCache.fetch_fst_of_stale hstale, hread]

theorem Together.insert (h : shared.Together start moment paths done)
    (hholding : shared.fetches id = .holding path text) :
    (shared.insert id path text).Together start moment paths
      (Insert.insert path.components done) := by
  obtain ⟨hpath, hstale, hread⟩ := h.of_fetch hholding
  have hserved : Served start moment (Insert.insert path.components done) path (.ok text) := by
    refine ⟨fun _ _ _ => Finset.mem_insert_self _ _, .inl ?_⟩
    rw [TextCache.fetch_fst_of_stale hstale, hread]
  refine ⟨h.moment_eq, ?_, fun key hkey => ?_, fun other => ?_⟩
  · rw [SharedTexts.insert, h.moment_eq]
    exact h.refreshed.insert hread
  · rcases Finset.mem_insert.1 hkey with rfl | hdone
    · exact ⟨path, List.mem_of_getElem? hpath, rfl, hstale, text, hread⟩
    · exact h.wanted key hdone
  · have hmoved : (shared.insert id path text).fetches other
        = (shared.move id (.returned path (.ok text))).fetches other := rfl
    rw [hmoved]
    rcases eq_or_ne other id with rfl | hne
    · rw [fetches_move_self]
      exact ⟨hpath, hserved⟩
    · rw [fetches_move_of_ne shared hne]
      exact (h.fetches other).mono (Finset.subset_insert _ _)

theorem Together.turn (h : shared.Together start moment paths done) (hstart : start.IsFunctional)
    (hturn : shared.Turn paths next) : ∃ more, next.Together start moment paths more := by
  cases hturn with
  | lookUp id path hpath hidle => exact ⟨done, h.lookUp hstart hpath⟩
  | read id path hmissed => exact ⟨done, h.read hmissed⟩
  | insert id path text hholding => exact ⟨_, h.insert hholding⟩

theorem exists_together (hstart : start.IsFunctional)
    (hturns : Turns paths { cache := start, moment := moment } shared) :
    ∃ done, shared.Together start moment paths done := by
  induction hturns with
  | refl =>
    exact ⟨∅, rfl, Refreshed.refl hstart, fun key hkey => absurd hkey (Finset.notMem_empty _),
      fun _ => trivial⟩
  | tail _ hturn ih =>
    obtain ⟨done, h⟩ := ih
    exact h.turn hstart hturn

/-! ## The end -/

/-- In the end everything that was wanted is inserted. -/
theorem Together.mem_done_iff (h : shared.Together start moment paths done)
    (hcomplete : shared.Complete paths) {key : List Component} :
    key ∈ done ↔ start.Wanted moment paths key := by
  refine ⟨h.wanted key, ?_⟩
  rintro ⟨path, hmem, rfl, hstale, text, hread⟩
  obtain ⟨id, hpath⟩ := List.mem_iff_getElem?.1 hmem
  obtain ⟨outcome, hreturned⟩ := hcomplete id path hpath
  exact (h.of_fetch hreturned).2.mem_done hstale text hread

/-- What is wanted tells the cache in the end. -/
theorem EndsIn.sameTexts {others : List Path} {one two : SharedTexts} (hstart : start.IsFunctional)
    (hone : EndsIn start moment paths one) (htwo : EndsIn start moment others two)
    (hwanted : ∀ key, start.Wanted moment paths key ↔ start.Wanted moment others key) :
    SameTexts one.cache two.cache := by
  obtain ⟨done, htogether⟩ := exists_together hstart hone.1
  obtain ⟨more, htogether'⟩ := exists_together hstart htwo.1
  obtain rfl : done = more := by
    ext key
    rw [htogether.mem_done_iff hone.2, hwanted, htogether'.mem_done_iff htwo.2]
  exact htogether.refreshed.sameTexts htogether'.refreshed

/-- If spellings are served alike, it does not show which of them has inserted a text. -/
theorem Together.outcome_eq (h : shared.Together start moment paths done)
    (halike : start.SpelledAlike moment paths) {outcome : Except ReadError Text}
    (hreturned : shared.fetches id = .returned path outcome) :
    outcome = (start.fetch moment path).1 := by
  obtain ⟨hpath, hserved⟩ := h.of_fetch hreturned
  rcases hserved.outcome_eq with hsame | ⟨htimeout, hdone, text, rfl, htext⟩
  · exact hsame
  · obtain ⟨other, hother, hkey, hstale, found, hread⟩ := h.wanted _ hdone
    have hfetch : (start.fetch moment other).1 = .ok found := by
      rw [TextCache.fetch_fst_of_stale hstale, hread]
    rw [halike htimeout other hother path (List.mem_of_getElem? hpath) hkey found hfetch,
      htext.unique ⟨other, hkey, hread⟩]

/-- If spellings are served alike, each fetch returns in the end what it would return by itself. -/
theorem EndsIn.fetches_eq (hstart : start.IsFunctional) (h : EndsIn start moment paths shared)
    (halike : start.SpelledAlike moment paths) (id : Nat) :
    shared.fetches id = match paths[id]? with
      | some path => .returned path (start.fetch moment path).1
      | none => .idle := by
  obtain ⟨done, htogether⟩ := exists_together hstart h.1
  cases hpath : paths[id]? with
  | some path =>
    obtain ⟨outcome, hreturned⟩ := h.2 id path hpath
    rw [hreturned, htogether.outcome_eq halike hreturned]
  | none =>
    -- only a fetch of a path of the list can have started
    cases hfetch : shared.fetches id with
    | idle => rfl
    | _ => exact absurd (hpath.symm.trans (htogether.of_fetch hfetch).1) (by simp)

/-! ## Every run comes to an end -/

/-- A fetch that is given a turn does what can happen next, or has nothing to do. -/
theorem turns_turn (paths : List Path) (shared : SharedTexts) (id : Nat) :
    Turns paths shared (turn paths shared id) := by
  unfold SharedTexts.turn
  split
  · exact .refl
  · next path hpath =>
    split
    · next hidle => exact .single (.lookUp id path hpath hidle)
    · next missed hmissed => exact .single (.read id missed hmissed)
    · next held text hheld => exact .single (.insert id held text hheld)
    · exact .refl

theorem turns_foldl (paths : List Path) (shared : SharedTexts) (turns : List Nat) :
    Turns paths shared (turns.foldl (turn paths) shared) := by
  induction turns generalizing shared with
  | nil => exact .refl
  | cons id turns ih => exact (turns_turn paths shared id).trans (ih _)

/-- However far the fetches have come, in three rounds all return. -/
theorem complete_rounds (hstart : start.IsFunctional)
    (hturns : Turns paths { cache := start, moment := moment } shared) :
    ((rounds paths.length).foldl (turn paths) shared).Complete paths := by
  intro id path hpath
  have hstage := stage_foldl_turn shared hpath (rounds paths.length)
  rw [count_rounds (List.getElem?_eq_some_iff.1 hpath).1] at hstage
  obtain ⟨other, outcome, hreturned⟩ :=
    Fetch.exists_of_stage (Nat.le_trans (by omega) hstage)
  obtain ⟨done, htogether⟩ := exists_together hstart (hturns.trans (turns_foldl paths shared _))
  obtain rfl : path = other :=
    Option.some.inj (hpath.symm.trans (htogether.of_fetch hreturned).1)
  exact ⟨outcome, hreturned⟩

theorem exists_complete (hstart : start.IsFunctional)
    (hturns : Turns paths { cache := start, moment := moment } shared) :
    ∃ last, Turns paths shared last ∧ last.Complete paths :=
  ⟨_, turns_foldl paths shared _, complete_rounds hstart hturns⟩

theorem endsIn_fetchAll (hstart : start.IsFunctional) (moment : Moment) (paths : List Path)
    (turns : List Nat) : EndsIn start moment paths (fetchAll start moment paths turns) := by
  refine ⟨turns_foldl paths _ _, ?_⟩
  rw [fetchAll, List.foldl_append]
  exact complete_rounds hstart (turns_foldl paths _ _)

/-- What can happen next happens when some fetch is given a turn. -/
theorem Together.exists_turn (h : shared.Together start moment paths done)
    (hturn : shared.Turn paths next) : ∃ id, next = SharedTexts.turn paths shared id := by
  cases hturn with
  | lookUp id path hpath hidle =>
    refine ⟨id, ?_⟩
    rw [SharedTexts.turn, hpath]
    simp only [hidle]
  | read id path hmissed =>
    refine ⟨id, ?_⟩
    rw [SharedTexts.turn, (h.of_fetch hmissed).1]
    simp only [hmissed]
  | insert id path text hholding =>
    refine ⟨id, ?_⟩
    rw [SharedTexts.turn, (h.of_fetch hholding).1]
    simp only [hholding]

/-- When all have returned, turns change nothing. -/
theorem Complete.foldl_turn (h : shared.Complete paths) (turns : List Nat) :
    turns.foldl (turn paths) shared = shared := by
  induction turns with
  | nil => rfl
  | cons id turns ih =>
    have hturn : turn paths shared id = shared := by
      unfold SharedTexts.turn
      split
      · rfl
      · next path hpath =>
        obtain ⟨outcome, hreturned⟩ := h id path hpath
        rw [hreturned]
    rw [List.foldl_cons, hturn, ih]

/-- **The ways in which fetches can end are those in which they are given turns**: a scan of a batch
goes through all of them. -/
theorem endsIn_iff_exists_turns (hstart : start.IsFunctional) {last : SharedTexts} :
    EndsIn start moment paths last ↔ ∃ turns, last = fetchAll start moment paths turns := by
  constructor
  · rintro ⟨hturns, hcomplete⟩
    obtain ⟨turns, hlast⟩ : ∃ turns : List Nat,
        last = turns.foldl (turn paths) { cache := start, moment := moment } := by
      clear hcomplete
      induction hturns with
      | refl => exact ⟨[], rfl⟩
      | @tail middle last hturns hturn ih =>
        obtain ⟨turns, rfl⟩ := ih
        obtain ⟨done, htogether⟩ := exists_together hstart hturns
        obtain ⟨id, rfl⟩ := htogether.exists_turn hturn
        exact ⟨turns ++ [id], by rw [List.foldl_append, List.foldl_cons, List.foldl_nil]⟩
    refine ⟨turns, ?_⟩
    rw [fetchAll, List.foldl_append, ← hlast, hcomplete.foldl_turn]
  · rintro ⟨turns, rfl⟩
    exact endsIn_fetchAll hstart moment paths turns

/-! ## Spellings that are not served alike -/

/-- A fetch that comes first, and one that comes after another spelling of its path, return what the
cache gives in either case. -/
theorem exists_endsIn_either {other : Path} {i j : Nat} (hstart : start.IsFunctional)
    (htimeout : 0 < start.timeout) (hpath : paths[i]? = some path) (hother : paths[j]? = some other)
    (hkey : path.components = other.components) (hserved : (start.fetch moment path).1 = .ok text)
    (hne : (start.fetch moment other).1 ≠ .ok text) :
    ∃ one two, EndsIn start moment paths one ∧ EndsIn start moment paths two
      ∧ one.fetches j = .returned other (start.fetch moment other).1
      ∧ two.fetches j = .returned other (.ok text) := by
  have hij : j ≠ i := by
    rintro rfl
    obtain rfl : path = other := Option.some.inj (hpath.symm.trans hother)
    exact hne hserved
  exact ⟨_, _, endsIn_fetchAll hstart moment paths ([j, j, j] ++ []),
    endsIn_fetchAll hstart moment paths [i, i, i, j],
    fetches_fetchAll_of_first start moment hother [],
    fetches_fetchAll_of_later htimeout hij hpath hother hkey hserved⟩

/-- **Fetches commute.** The fetches of a list can always all return. However their steps come, the
texts in the cache are the same in the end, and the same as without the fetches that fail. What each
fetch returns is the same in every order if and only if the spellings of a path are served alike,
and then it is what the fetch would return by itself. A fetch that fails changes nothing, and no
sweep takes a text that would be served. -/
theorem fetches_commute (cache : TextCache) (hfunctional : cache.IsFunctional) (moment : Moment)
    (paths : List Path) :
    (∀ shared, Turns paths { cache := cache, moment := moment } shared →
        ∃ last, Turns paths shared last ∧ last.Complete paths)
      ∧ (∀ one two, EndsIn cache moment paths one → EndsIn cache moment paths two →
        SameTexts one.cache two.cache)
      ∧ (∀ one two, EndsIn cache moment paths one →
        EndsIn cache moment
          (paths.filter fun path => (cache.fetch moment path).1.toOption.isSome) two →
        SameTexts one.cache two.cache)
      ∧ ((∀ one two, EndsIn cache moment paths one → EndsIn cache moment paths two →
          one.fetches = two.fetches)
        ↔ cache.SpelledAlike moment paths)
      ∧ (cache.SpelledAlike moment paths → ∀ last, EndsIn cache moment paths last →
        ∀ id path, paths[id]? = some path →
          last.fetches id = .returned path (cache.fetch moment path).1)
      ∧ (∀ path error, (cache.fetch moment path).1 = .error error →
        (cache.fetch moment path).2 = cache)
      ∧ ∀ path, (cache.sweep moment.now).fresh? moment.now path
        = cache.fresh? moment.now path := by
  refine ⟨fun shared hturns => exists_complete hfunctional hturns, fun one two hone htwo => ?_,
    fun one two hone htwo => ?_, ⟨fun hsame => ?_, fun halike one two hone htwo => ?_⟩,
    fun halike last hlast id path hpath => ?_, fun path error => TextCache.fetch_snd_of_error,
    TextCache.fresh?_sweep hfunctional moment.now⟩
  · exact hone.sameTexts hfunctional htwo fun key => Iff.rfl
  · exact hone.sameTexts hfunctional htwo fun key => TextCache.wanted_filter_iff.symm
  · intro htimeout path hpath other hother hkey text hserved
    by_contra hne
    obtain ⟨i, hi⟩ := List.mem_iff_getElem?.1 hpath
    obtain ⟨j, hj⟩ := List.mem_iff_getElem?.1 hother
    obtain ⟨one, two, hone, htwo, hfirst, hsecond⟩ :=
      exists_endsIn_either hfunctional htimeout hi hj hkey hserved hne
    rw [hsame one two hone htwo, hsecond] at hfirst
    exact hne (Fetch.returned.inj hfirst).2.symm
  · funext id
    rw [hone.fetches_eq hfunctional halike, htwo.fetches_eq hfunctional halike]
  · rw [hlast.fetches_eq hfunctional halike, hpath]

/-! A manifest that is fetched by two spellings, or twice by one. -/

open Navigator (exampleFile exampleRespelled exampleText)

/-- An old text of the manifest and one of something else, more than are kept without a sweep. -/
def exampleStale : TextCache where
  timeout := 30000
  threshold := 1
  entries := [(exampleFile.components, ⟨[], 0⟩), ([.root], ⟨[], 0⟩)]

/-- The disk with the manifest, when both texts are too old. -/
def exampleLater : Moment := { Navigator.exampleMoment with now := 30001 }

/-- Twice by one spelling, it does not matter which fetch comes first, nor where the old texts are
swept out. -/
theorem fetches_commute_repeated :
    exampleStale.IsFunctional
      ∧ (∃ last, EndsIn exampleStale exampleLater [exampleFile, exampleFile] last)
      ∧ ∀ one two, EndsIn exampleStale exampleLater [exampleFile, exampleFile] one →
        EndsIn exampleStale exampleLater [exampleFile, exampleFile] two →
        SameTexts one.cache two.cache ∧ one.fetches = two.fetches := by
  have hfunctional : exampleStale.IsFunctional := by
    unfold TextCache.IsFunctional
    decide
  have halike : exampleStale.SpelledAlike exampleLater [exampleFile, exampleFile] := by
    intro _ path hpath other hother _ text hserved
    have hsame : other = path := by
      simp only [List.mem_cons, List.not_mem_nil, or_false, or_self] at hpath hother
      rw [hpath, hother]
    rw [hsame, hserved]
  obtain ⟨hend, hcaches, -, halike_iff, -⟩ :=
    fetches_commute exampleStale hfunctional exampleLater [exampleFile, exampleFile]
  obtain ⟨last, hlast⟩ := hend _ .refl
  exact ⟨hfunctional, ⟨last, hlast⟩, fun one two hone htwo =>
    ⟨hcaches one two hone htwo, halike_iff.2 halike one two hone htwo⟩⟩

/-- By two spellings, of which one cannot be read, that one fails if it comes first, and else is
served the text of the other. -/
theorem fetches_differ_respelled :
    ∃ one two,
      EndsIn (Navigator.exampleNavigator 1).texts Navigator.exampleMoment
          [exampleFile, exampleRespelled] one
        ∧ EndsIn (Navigator.exampleNavigator 1).texts Navigator.exampleMoment
          [exampleFile, exampleRespelled] two
        ∧ one.fetches 1
          = .returned exampleRespelled (.error (.unreadable exampleRespelled .notDirectory))
        ∧ two.fetches 1 = .returned exampleRespelled (.ok exampleText) := by
  have hfetch : ∀ path, ((Navigator.exampleNavigator 1).texts.fetch Navigator.exampleMoment path).1
      = Navigator.exampleMoment.disk.readText path :=
    Navigator.fetch_exampleNavigator 1
  have hfile := (hfetch exampleFile).trans Navigator.readText_exampleFile
  have hrespelled := (hfetch exampleRespelled).trans Navigator.readText_exampleRespelled
  have hkey : exampleFile.components = exampleRespelled.components := by decide
  have hfunctional : (Navigator.exampleNavigator 1).texts.IsFunctional := List.nodup_nil
  have htimeout : 0 < (Navigator.exampleNavigator 1).texts.timeout := by decide
  have hzero : [exampleFile, exampleRespelled][0]? = some exampleFile := rfl
  have hone : [exampleFile, exampleRespelled][1]? = some exampleRespelled := rfl
  obtain ⟨one, two, hends, hends', hfirst, hsecond⟩ :=
    exists_endsIn_either hfunctional htimeout hzero hone hkey hfile (by rw [hrespelled]; simp)
  rw [hrespelled] at hfirst
  exact ⟨one, two, hends, hends', hfirst, hsecond⟩

end SharedTexts

end WorkflowNav
