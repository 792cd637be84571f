/-
How old an answer can be when nobody tells of changes.

Without word of changes both caches go by time alone, and one rests on the other: an answer that is
kept may be served later, and it was made from texts that may have been kept before. So an answer at
some instant `t` is told by a single earlier instant `u`, at which the files were searched, and for
each file by one more instant, at which its text was read. The first is at most as long before `t`
as definitions stay known, because a snapshot is dated by its first answer and later answers do not
extend its life. The second is at most as long before `u` as texts stay fresh.

Instants are sessions of a run here, since the disk may change any number of times while the clock
stands still. A run keeps all of them, the latest first, so that what was before a session is what
follows it in the list.
-/
import WorkflowNav.Proofs.Batching
import WorkflowNav.Proofs.Coherence

set_option autoImplicit false

namespace WorkflowNav

/-! ## Runs -/

namespace Session

/-- What can happen next when nobody has to tell of changes: questions are asked at any time. -/
inductive FreeStep (root : Path) (session : Session) : Session → Prop
  | ask (turns : List (List Nat)) (query : Query) :
      FreeStep root session (session.ask root turns query)
  | wait (milliseconds : Nat) : FreeStep root session (session.wait milliseconds)
  | change (disk : Disk) (h : disk.WellFormed) : FreeStep root session (session.change root disk)
  | announce (change : FileChange) : FreeStep root session (session.announce root change)
  | announceAny : FreeStep root session session.announceAny

/-- The sessions that a run went through, the latest first. -/
inductive Run (root : Path) (first : Session) : List Session → Prop
  | start : Run root first [first]
  | step {session next : Session} {past : List Session} (hrun : Run root first (session :: past))
      (hstep : session.FreeStep root next) : Run root first (next :: session :: past)

/-- Nothing is kept. -/
structure Empty (session : Session) : Prop where
  texts : session.navigator.texts.entries = []
  definitions : session.navigator.definitions.snapshot = none

/-! ## Where an answer comes from -/

/-- The text of a file that a search at a session went by, if it had one: the file's text at an
instant that is at most `age` before; none only if no text was fresh and the file cannot be read. -/
def Sighted (age : Nat) (seen : Session) (before : List Session) (path : Path) :
    Option Text → Prop
  | some text => ∃ earlier ∈ seen :: before, earlier.moment.now ≤ seen.moment.now
      ∧ seen.moment.now ≤ earlier.moment.now + age
      ∧ earlier.moment.disk.readText path = .ok text
  | none => seen.navigator.texts.fresh? seen.moment.now path = none
      ∧ ∃ error, seen.moment.disk.readText path = .error error

/-- The definitions in some texts of the files that could be found at a session, in path order. -/
def definitionsIn (root : Path) (seen : Session) (name : Text) (text? : Path → Option Text) :
    List Location :=
  (seen.navigator.manifests seen.moment root).flatMap fun path =>
    match text? path with
    | some text => (Query.definition name).rule.locations path text
    | none => []

/-- An answer is told by the files that could be found at a session, and by a text of each. -/
def Explains (root : Path) (age : Nat) (seen : Session) (before : List Session) (name : Text)
    (locations : List Location) : Prop :=
  ∃ text? : Path → Option Text,
    (∀ path ∈ seen.navigator.manifests seen.moment root,
      Sighted age seen before path (text? path))
    ∧ locations = definitionsIn root seen name text?

/-- A text that is kept was on the disk when it was read. -/
def TextSighted (root : Path) (sessions : List Session)
    (pair : List Component × CachedText) : Prop :=
  ∃ earlier ∈ sessions, ∃ names, (∀ name ∈ names, Path.IsName name)
    ∧ pair.1 = (root.descend names).components ∧ earlier.moment.now = pair.2.readAt
    ∧ earlier.moment.disk.readText (root.descend names) = .ok pair.2.text

/-- An answer that is kept was found at a session no earlier than its snapshot was started. -/
def AnswerSighted (root : Path) (age : Nat) (sessions : List Session) (startedAt : Nat)
    (name : Text) (locations : List Location) : Prop :=
  ∃ seen before, seen :: before <:+ sessions ∧ startedAt ≤ seen.moment.now
    ∧ Explains root age seen before name locations

/-- What holds of the last session of a run. -/
structure Aged (root : Path) (textAge definitionAge : Nat) (session : Session)
    (past : List Session) : Prop where
  wellFormed : session.moment.disk.WellFormed
  textTimeout : session.navigator.texts.timeout = textAge
  definitionTimeout : session.navigator.definitions.timeout = definitionAge
  isFunctional : session.navigator.texts.IsFunctional
  now_le : ∀ earlier ∈ session :: past, earlier.moment.now ≤ session.moment.now
  texts : ∀ pair ∈ session.navigator.texts.entries, TextSighted root (session :: past) pair
  snapshot : ∀ snapshot, session.navigator.definitions.snapshot = some snapshot →
    snapshot.startedAt ≤ session.moment.now
      ∧ ∀ pair ∈ snapshot.answers,
        AnswerSighted root textAge (session :: past) snapshot.startedAt pair.1 pair.2

variable {root : Path} {textAge definitionAge : Nat} {first session next : Session}
variable {past : List Session} {name : Text} {path : Path}

theorem TextSighted.cons {sessions : List Session} {pair : List Component × CachedText}
    (h : TextSighted root sessions pair) (next : Session) :
    TextSighted root (next :: sessions) pair := by
  obtain ⟨earlier, hearlier, hrest⟩ := h
  exact ⟨earlier, List.mem_cons_of_mem _ hearlier, hrest⟩

theorem AnswerSighted.cons {sessions : List Session} {startedAt : Nat} {locations : List Location}
    (h : AnswerSighted root textAge sessions startedAt name locations) (next : Session) :
    AnswerSighted root textAge (next :: sessions) startedAt name locations := by
  obtain ⟨seen, before, hsuffix, hrest⟩ := h
  exact ⟨seen, before, hsuffix.trans (List.suffix_cons _ _), hrest⟩

/-! ## One search -/

/-- A manifest is fetched as it was at an instant that is not too long ago. -/
theorem Aged.sighted (h : session.Aged root textAge definitionAge past)
    (hpath : path ∈ session.navigator.manifests session.moment root) :
    Sighted textAge session past path
      (session.navigator.texts.fetch session.moment path).1.toOption := by
  -- a fresh text is one of an earlier session; otherwise the disk of this session decides
  cases hfresh : session.navigator.texts.fresh? session.moment.now path with
  | some text =>
    have hfetch : (session.navigator.texts.fetch session.moment path).1 = .ok text := by
      rw [TextCache.fetch, TextCache.fetchBeyond, hfresh]
    rw [hfetch]
    obtain ⟨entry, hmem, htext, hage⟩ := TextCache.exists_of_fresh? hfresh
    obtain ⟨earlier, hearlier, names, hnames, hkey, hnow, hread⟩ := h.texts _ hmem
    -- the text was read under the path it is asked for now
    obtain ⟨others, bytes, hothers, rfl, -⟩ := Disk.manifest_of_mem h.wellFormed hpath
    obtain rfl := Path.descend_injective root hothers.isName hnames hkey
    refine ⟨earlier, hearlier, h.now_le earlier hearlier, ?_, ?_⟩
    · rw [h.textTimeout] at hage
      have hread : earlier.moment.now = entry.readAt := hnow
      omega
    · rw [hread, htext]
  | none =>
    cases hread : session.moment.disk.readText path with
    | ok text =>
      have hfetch : (session.navigator.texts.fetch session.moment path).1 = .ok text := by
        rw [TextCache.fetch, TextCache.fetchBeyond, hfresh, hread]
      rw [hfetch]
      exact ⟨session, List.mem_cons_self, Nat.le_refl _, Nat.le_add_right _ _, hread⟩
    | error error =>
      have hfetch : (session.navigator.texts.fetch session.moment path).1 = .error error := by
        rw [TextCache.fetch, TextCache.fetchBeyond, hfresh, hread]
      rw [hfetch]
      exact ⟨hfresh, error, hread⟩

/-- What a search finds is told by the session at which it is made. -/
theorem Aged.explains (h : session.Aged root textAge definitionAge past)
    (hmissed : session.navigator.definitions.lookup? session.moment.now name = none)
    (meanwhile : Meanwhile) :
    Explains root textAge session past name
      (session.navigator.findDefinition session.moment meanwhile root name).1.locations := by
  refine ⟨fun path => (session.navigator.texts.fetch session.moment path).1.toOption,
    fun path hpath => h.sighted hpath, ?_⟩
  rw [Navigator.locations_of_missed h.wellFormed h.isFunctional hmissed, definitionsIn,
    TextCache.plainScan]
  refine List.flatMap_congr fun path _ => ?_
  cases (session.navigator.texts.fetch session.moment path).1 <;> rfl

/-- What is known was found at a session that is not too long ago. -/
theorem Aged.answerSighted_of_lookup? (h : session.Aged root textAge definitionAge past)
    {locations : List Location}
    (hlookup : session.navigator.definitions.lookup? session.moment.now name = some locations) :
    ∃ seen before, seen :: before <:+ session :: past
      ∧ session.moment.now ≤ seen.moment.now + definitionAge
      ∧ Explains root textAge seen before name locations := by
  obtain ⟨snapshot, hlive, hget⟩ := Option.bind_eq_some_iff.1 hlookup
  obtain ⟨hsnapshot, hage⟩ := Option.filter_eq_some_iff.1 hlive
  obtain ⟨seen, before, hsuffix, hstarted, hexplains⟩ :=
    (h.snapshot snapshot hsnapshot).2 _ (Keyed.mem_of_get? hget)
  refine ⟨seen, before, hsuffix, ?_, hexplains⟩
  rw [decide_eq_true_eq, h.definitionTimeout] at hage
  omega

/-! ## One step -/

/-- Time may go by and the disk may change. -/
theorem Aged.pass (h : session.Aged root textAge definitionAge past)
    (hnavigator : next.navigator = session.navigator)
    (hwell : next.moment.disk.WellFormed) (hnow : session.moment.now ≤ next.moment.now) :
    next.Aged root textAge definitionAge (session :: past) where
  wellFormed := hwell
  textTimeout := hnavigator ▸ h.textTimeout
  definitionTimeout := hnavigator ▸ h.definitionTimeout
  isFunctional := hnavigator ▸ h.isFunctional
  now_le earlier hearlier := by
    rcases List.mem_cons.1 hearlier with rfl | hearlier
    · exact Nat.le_refl _
    · exact Nat.le_trans (h.now_le earlier hearlier) hnow
  texts pair hpair := by
    rw [hnavigator] at hpair
    exact (h.texts pair hpair).cons next
  snapshot snapshot hsnapshot := by
    rw [hnavigator] at hsnapshot
    obtain ⟨hstarted, hanswers⟩ := h.snapshot snapshot hsnapshot
    exact ⟨Nat.le_trans hstarted hnow, fun pair hpair => (hanswers pair hpair).cons next⟩

/-- Texts and answers may be taken away. -/
theorem Aged.shed (h : session.Aged root textAge definitionAge past)
    (hmoment : next.moment = session.moment)
    (htextTimeout : next.navigator.texts.timeout = session.navigator.texts.timeout)
    (htimeout : next.navigator.definitions.timeout = session.navigator.definitions.timeout)
    (htexts : next.navigator.texts.entries.Sublist session.navigator.texts.entries)
    (hdefinitions : next.navigator.definitions.snapshot = none) :
    next.Aged root textAge definitionAge (session :: past) where
  wellFormed := hmoment ▸ h.wellFormed
  textTimeout := htextTimeout.trans h.textTimeout
  definitionTimeout := htimeout.trans h.definitionTimeout
  isFunctional := h.isFunctional.sublist (htexts.map _)
  now_le earlier hearlier := by
    rw [hmoment]
    rcases List.mem_cons.1 hearlier with rfl | hearlier
    · rw [hmoment]
    · exact h.now_le earlier hearlier
  texts pair hpair := (h.texts pair (htexts.subset hpair)).cons next
  snapshot snapshot hsnapshot := by
    rw [hdefinitions] at hsnapshot
    exact absurd hsnapshot (by simp)

/-- A search keeps what it has read, and nothing else comes to the texts. -/
theorem Aged.texts_search (h : session.Aged root textAge definitionAge past)
    (meanwhile : Meanwhile) (query : Query) :
    let texts := (session.navigator.search session.moment meanwhile root query).2.texts
    texts.timeout = textAge ∧ texts.IsFunctional
      ∧ ∀ pair ∈ texts.entries, TextSighted root (session :: past) pair := by
  refine Navigator.texts_search_induction h.wellFormed
    (P := fun texts => texts.timeout = textAge ∧ texts.IsFunctional
      ∧ ∀ pair ∈ texts.entries, TextSighted root (session :: past) pair) ?_
    ⟨h.textTimeout, h.isFunctional, h.texts⟩
  rintro cache ⟨htimeout, hfunctional, htexts⟩ names bytes text hleads - hread
  refine ⟨by rw [TextCache.timeout_insert, htimeout], hfunctional.insert _ _ _,
    fun pair hpair => ?_⟩
  rcases TextCache.mem_insert hpair with rfl | hold
  · exact ⟨session, List.mem_cons_self, names, hleads.isName, rfl, rfl, hread⟩
  · exact htexts pair hold

/-- The texts that a question leaves are as old as they say. -/
theorem Aged.texts_ask (h : session.Aged root textAge definitionAge past)
    (turns : List (List Nat)) (query : Query) :
    let texts := (session.ask root turns query).navigator.texts
    texts.timeout = textAge ∧ texts.IsFunctional
      ∧ ∀ pair ∈ texts.entries, TextSighted root (session :: past) pair := by
  have hrun : (session.ask root turns query).navigator.texts
      = (session.navigator.run session.moment { turns := turns } root query).2.texts := rfl
  rcases Navigator.texts_run session.navigator session.moment { turns := turns } root query
    with heq | heq
  · rw [hrun, heq]
    exact ⟨h.textTimeout, h.isFunctional, h.texts⟩
  · rw [hrun, heq]
    exact h.texts_search _ query

/-- A question changes the answers that are kept only by one that was searched for. -/
theorem definitions_run (navigator : Navigator) (moment : Moment) (turns : List (List Nat))
    (root : Path) (query : Query) :
    (navigator.run moment { turns := turns } root query).2.definitions = navigator.definitions
      ∨ ∃ name, navigator.definitions.lookup? moment.now name = none
        ∧ (navigator.run moment { turns := turns } root query).2.definitions
          = navigator.definitions.keep moment.now name
            (navigator.findDefinition moment { turns := turns } root name).1.locations := by
  cases query with
  | definition name =>
    cases hlookup : navigator.definitions.lookup? moment.now name with
    | some locations =>
      left
      rw [Navigator.run, Navigator.findDefinition, hlookup]
    | none =>
      right
      refine ⟨name, hlookup, ?_⟩
      rw [Navigator.run, Navigator.findDefinition, hlookup]
      exact if_neg fun h => h rfl
  | _ => exact .inl rfl

/-- An answer that is kept is told by the session at which it was found, and a snapshot that it
joins is no younger for it. -/
theorem Aged.snapshot_keep (h : session.Aged root textAge definitionAge past)
    (hmissed : session.navigator.definitions.lookup? session.moment.now name = none)
    {meanwhile : Meanwhile} {snapshot : DefinitionSnapshot}
    (hsnapshot : (session.navigator.definitions.keep session.moment.now name
      (session.navigator.findDefinition session.moment meanwhile root name).1.locations).snapshot
        = some snapshot) :
    snapshot.startedAt ≤ session.moment.now
      ∧ ∀ pair ∈ snapshot.answers,
        AnswerSighted root textAge (session :: past) snapshot.startedAt pair.1 pair.2 := by
  -- the snapshot was started now, or it is an old one that keeps its start
  have hstarted : snapshot.startedAt ≤ session.moment.now := by
    rcases DefinitionCache.startedAt_keep hsnapshot with hnew | ⟨old, hold, heq⟩
    · exact Nat.le_of_eq hnew
    · rw [← heq]
      exact (h.snapshot old hold).1
  refine ⟨hstarted, fun pair hpair => ?_⟩
  rcases DefinitionCache.mem_keep hsnapshot hpair with rfl | ⟨old, hold, heq, hpair⟩
  · exact ⟨session, past, List.suffix_refl _, hstarted, h.explains hmissed _⟩
  · rw [← heq]
    exact (h.snapshot old hold).2 pair hpair

theorem Aged.ask (h : session.Aged root textAge definitionAge past) (turns : List (List Nat))
    (query : Query) :
    (session.ask root turns query).Aged root textAge definitionAge (session :: past) := by
  obtain ⟨htimeout, hfunctional, htexts⟩ := h.texts_ask turns query
  have hdefinitions : (session.ask root turns query).navigator.definitions
      = (session.navigator.run session.moment { turns := turns } root query).2.definitions := rfl
  have hkept : (session.ask root turns query).navigator.definitions.timeout = definitionAge
      ∧ ∀ snapshot, (session.ask root turns query).navigator.definitions.snapshot = some snapshot →
        snapshot.startedAt ≤ session.moment.now
          ∧ ∀ pair ∈ snapshot.answers,
            AnswerSighted root textAge (session :: past) snapshot.startedAt pair.1 pair.2 := by
    rw [hdefinitions]
    rcases definitions_run session.navigator session.moment turns root query with
      hsame | ⟨name, hmissed, hkeep⟩
    · rw [hsame]
      exact ⟨h.definitionTimeout, h.snapshot⟩
    · rw [hkeep]
      exact ⟨h.definitionTimeout, fun snapshot hsnapshot => h.snapshot_keep hmissed hsnapshot⟩
  refine ⟨h.wellFormed, htimeout, hkept.1, hfunctional, fun earlier hearlier => ?_,
    fun pair hpair => (htexts pair hpair).cons _, fun snapshot hsnapshot => ?_⟩
  · rcases List.mem_cons.1 hearlier with rfl | hearlier
    · exact Nat.le_refl _
    · exact h.now_le earlier hearlier
  · obtain ⟨hstarted, hanswers⟩ := hkept.2 snapshot hsnapshot
    exact ⟨hstarted, fun pair hpair => (hanswers pair hpair).cons _⟩

theorem Aged.step (h : session.Aged root textAge definitionAge past)
    (hstep : session.FreeStep root next) :
    next.Aged root textAge definitionAge (session :: past) := by
  cases hstep with
  | ask turns query => exact h.ask turns query
  | wait milliseconds => exact h.pass rfl h.wellFormed (Nat.le_add_right _ _)
  | change disk hwell => exact h.pass rfl hwell (Nat.le_refl _)
  | announce change => exact h.shed rfl rfl rfl List.filter_sublist rfl
  | announceAny => exact h.shed rfl rfl rfl (List.nil_sublist _) rfl

/-! ## A whole run -/

theorem aged_of_run (hwell : first.moment.disk.WellFormed) (hempty : first.Empty)
    {sessions : List Session} (hrun : Run root first sessions) :
    ∃ session past, sessions = session :: past ∧ session.Aged root
      first.navigator.texts.timeout first.navigator.definitions.timeout past := by
  induction hrun with
  | start =>
    refine ⟨first, [], rfl, hwell, rfl, rfl, ?_, by simp, ?_, ?_⟩
    · rw [TextCache.IsFunctional, hempty.texts]
      exact List.nodup_nil
    · rw [hempty.texts]
      exact fun _ hpair => absurd hpair List.not_mem_nil
    · rw [hempty.definitions]
      exact fun _ hsnapshot => absurd hsnapshot (by simp)
  | step _ hstep ih =>
    obtain ⟨session, past, hsessions, haged⟩ := ih
    obtain ⟨rfl, rfl⟩ := List.cons.inj hsessions
    exact ⟨_, _, rfl, haged.step hstep⟩

/-- **How old an answer can be.** Whatever was asked and changed in a run, and whether changes were
announced or not, an answer to where a WorkflowTemplate is defined is told by the files that could
be found at one earlier session, no longer ago than definitions stay known, with the text that each
file had no longer before that than texts stay fresh. -/
theorem definition_explained (hwell : first.moment.disk.WellFormed) (hempty : first.Empty)
    (hrun : Run root first (session :: past)) (turns : List (List Nat)) (name : Text) :
    ∃ seen before, seen :: before <:+ session :: past
      ∧ session.moment.now - first.navigator.definitions.timeout ≤ seen.moment.now
      ∧ seen.moment.now ≤ session.moment.now
      ∧ Explains root first.navigator.texts.timeout seen before name
        (session.navigator.run session.moment { turns := turns } root
          (.definition name)).1.locations := by
  obtain ⟨_, _, hsessions, haged⟩ := aged_of_run hwell hempty hrun
  obtain ⟨rfl, rfl⟩ := List.cons.inj hsessions
  cases hlookup : session.navigator.definitions.lookup? session.moment.now name with
  | some locations =>
    obtain ⟨seen, before, hsuffix, hage, hexplains⟩ := haged.answerSighted_of_lookup? hlookup
    refine ⟨seen, before, hsuffix, by omega, ?_, ?_⟩
    · exact haged.now_le seen (hsuffix.subset List.mem_cons_self)
    · rw [Navigator.run, Navigator.findDefinition, hlookup]
      exact hexplains
  | none =>
    exact ⟨session, past, List.suffix_refl _, Nat.sub_le _ _, Nat.le_refl _,
      haged.explains hlookup _⟩

/-! A definition moves, and nobody tells. -/

/-- Five minutes after a question, when the manifest has changed unannounced, the answer is still
told by a session at most five minutes ago. -/
theorem definition_explained_unannounced :
    ∃ session past, Run .top (start {} { disk := exampleDisk "" }) (session :: past)
      ∧ session.moment.disk = exampleDisk "# moved\n" ∧ session.moment.now = seconds 300
      ∧ ∃ seen before, seen :: before <:+ session :: past
        ∧ session.moment.now - seconds 300 ≤ seen.moment.now
        ∧ seen.moment.now ≤ session.moment.now
        ∧ Explains .top (seconds 30) seen before ['x']
          (session.navigator.run session.moment {} .top (.definition ['x'])).1.locations := by
  let opened := start {} { disk := exampleDisk "" }
  let asked := opened.ask .top [] (.definition ['x'])
  let changed := asked.change .top (exampleDisk "# moved\n")
  have hrun : Run .top opened [changed.wait (seconds 300), changed, asked, opened] :=
    .step (.step (.step .start (.ask [] _)) (.change _ (wellFormed_exampleDisk _))) (.wait _)
  refine ⟨_, _, hrun, rfl, Nat.zero_add _, ?_⟩
  exact definition_explained (wellFormed_exampleDisk _) ⟨rfl, rfl⟩ hrun [] ['x']

end Session

end WorkflowNav
