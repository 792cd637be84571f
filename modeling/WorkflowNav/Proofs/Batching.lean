/-
Scans in batches.

The files of a batch are fetched at once, and what one fetch inserts is there for those that look
later, in its batch and in the next ones. So where a batch ends, and in which order its fetches take
their turns, decides which texts come from the cache. None of this should show in what is found: a
scan is to find what the files give one after the other, each in the text that was at hand when the
scan began, or else in the one on the disk (`plainScan`).

It shows in one case. Texts are kept under the components of a path, in which a slash at the end
says nothing, while the disk takes it to ask for a directory. So a list may name a file and the same
path with a slash: the second cannot be read, but it is served the text of the first if that was
inserted before it looked (`scanFiles_respelled`). `SpelledAlike` rules out just that, and nothing
less does. Lists that spell each path in one way satisfy it, and so do the manifests below a root.
-/
import WorkflowNav.Proofs.Line
import WorkflowNav.Proofs.Scan

set_option autoImplicit false

namespace WorkflowNav

open Text (Bytes)

/-! ## Texts during a scan -/

namespace TextCache

variable {start cache : TextCache} {moment : Moment} {path : Path} {text : Text}
variable {files paths : List Path}

/-- The lines that a rule finds in some files, one after the other, each in the text that is fresh
in the cache, or else in the one on the disk. -/
def plainScan (cache : TextCache) (moment : Moment) (rule : Rule) (files : List Path) :
    List Location :=
  files.flatMap fun path => rule.linesOf path (cache.fetch moment path).1

theorem plainScan_append (rule : Rule) (files more : List Path) :
    cache.plainScan moment rule (files ++ more)
      = cache.plainScan moment rule files ++ cache.plainScan moment rule more :=
  List.flatMap_append

/-- If texts are kept at all, what is served for one spelling of a path is served for the others. -/
def SpelledAlike (cache : TextCache) (moment : Moment) (paths : List Path) : Prop :=
  0 < cache.timeout → ∀ path ∈ paths, ∀ other ∈ paths, path.components = other.components →
    ∀ text, (cache.fetch moment path).1 = .ok text → (cache.fetch moment other).1 = .ok text

/-- A cache during a scan of some files that began with `start`: what it has fresh was fresh then,
or is what was served for one of the files. -/
structure Grown (start : TextCache) (moment : Moment) (files : List Path) (cache : TextCache) :
    Prop where
  isFunctional : cache.IsFunctional
  timeout_eq : cache.timeout = start.timeout
  fresh? : ∀ path, cache.fresh? moment.now path = start.fresh? moment.now path
    ∨ 0 < start.timeout ∧ ∃ other ∈ files, other.components = path.components
      ∧ ∃ text, (start.fetch moment other).1 = .ok text
        ∧ cache.fresh? moment.now path = some text

theorem Grown.refl (h : start.IsFunctional) (files : List Path) :
    Grown start moment files start where
  isFunctional := h
  timeout_eq := rfl
  fresh? _ := .inl rfl

/-- During a scan each file is served what it would have been served at the start. -/
theorem Grown.fetch_fst (hcache : Grown start moment files cache)
    (halike : start.SpelledAlike moment files) (hpath : path ∈ files) :
    (cache.fetch moment path).1 = (start.fetch moment path).1 := by
  rcases hcache.fresh? path with hsame | ⟨hpos, other, hother, hkey, text, hserved, hfresh⟩
  · exact fetchBeyond_fst_congr hsame
  · rw [fetch_of_fresh? hfresh, halike hpos other hother path hpath hkey text hserved]

/-- Keeping a text changes nothing but what is fresh for spellings of its path. -/
theorem Grown.insert (hcache : Grown start moment files cache) (hpath : path ∈ files)
    (hserved : (start.fetch moment path).1 = .ok text) :
    Grown start moment files (cache.insert moment.now path text) where
  isFunctional := hcache.isFunctional.insert _ _ _
  timeout_eq := timeout_insert.trans hcache.timeout_eq
  fresh? other := by
    by_cases hkey : other.components = path.components
    · rcases Nat.eq_zero_or_pos cache.timeout with hzero | hpos
      · -- nothing is ever fresh
        left
        rw [fresh?_of_timeout (timeout_insert.trans hzero),
          fresh?_of_timeout (hcache.timeout_eq.symm.trans hzero)]
      · right
        refine ⟨hcache.timeout_eq ▸ hpos, path, hpath, hkey.symm, text, hserved, ?_⟩
        rw [fresh?_congr hkey, fresh?_insert_self hpos]
    · rw [fresh?_insert_of_ne hcache.isFunctional hkey]
      exact hcache.fresh? other

/-- **What fetches during a scan can rely on**, in whatever order they take their turns. -/
theorem SpelledAlike.fetchInvariant (halike : start.SpelledAlike moment files)
    (hsub : paths ⊆ files) :
    SharedTexts.FetchInvariant (Grown start moment files)
      (fun path outcome => outcome = (start.fetch moment path).1) moment paths where
  fetch _ hcache _ hpath := hcache.fetch_fst halike (hsub hpath)
  insert _ hcache _ hpath _ _ hserved := hcache.insert (hsub hpath) hserved.symm

end TextCache

/-! ## Batches in a row -/

namespace Scan

variable {start : TextCache} {moment : Moment} {scan : Scan} {all : List Path}

/-- A batch whose fetches go in rounds is a plain scan by itself. -/
theorem found_batch_nil (rule : Rule) (paths : List Path) :
    (scan.batch moment rule [] paths).found
      = scan.found ++ scan.texts.plainScan moment rule paths :=
  found_batch (SharedTexts.standing_fetchAll_nil scan.texts moment paths).fetches

theorem texts_batch_nil (rule : Rule) (paths : List Path) :
    (scan.batch moment rule [] paths).texts
      = paths.foldl (fun texts path => (scan.texts.fetchBeyond texts moment path).2) scan.texts :=
  (SharedTexts.standing_fetchAll_nil scan.texts moment paths).cache_eq

/-- **Where a scan stops.** It finds what the files of its first batches give, and it leaves out the
others only if it has enough. -/
theorem exists_found_run (rule : Rule) (limit : Option Nat) (turns : List (List Nat))
    {files : List (List Path)} (hscan : start.Grown moment all scan.texts)
    (halike : start.SpelledAlike moment all) (hsub : files.flatten ⊆ all) :
    ∃ front back, files = front ++ back
      ∧ (run moment rule limit turns scan files).found
        = scan.found ++ start.plainScan moment rule front.flatten
      ∧ (back = [] ∨ (run moment rule limit turns scan files).isEnough limit = true) := by
  -- the texts known to a batch have grown from the start by those of the batches before it
  induction files generalizing scan turns with
  | nil => exact ⟨[], [], rfl, by simp [run, TextCache.plainScan], .inl rfl⟩
  | cons paths files ih =>
    rw [List.flatten_cons, List.append_subset] at hsub
    have hbatch := halike.fetchInvariant hsub.1
    have hnext : start.Grown moment all (scan.batch moment rule (turns.headD []) paths).texts :=
      (hbatch.fetchAll hscan _).1
    have hfound : (scan.batch moment rule (turns.headD []) paths).found
        = scan.found ++ start.plainScan moment rule paths :=
      found_batch fun _ _ => hbatch.fetches_eq hscan _
    rw [run]
    split
    · next henough => exact ⟨[paths], files, rfl, by simpa using hfound, .inr henough⟩
    · obtain ⟨front, back, rfl, hrest, hstop⟩ := ih turns.tail hnext hsub.2
      refine ⟨paths :: front, back, rfl, ?_, hstop⟩
      rw [hrest, hfound, List.append_assoc, List.flatten_cons, TextCache.plainScan_append]

end Scan

/-! ## Scans and searches -/

namespace Navigator

variable {navigator : Navigator} {moment : Moment} {root : Path} {files : List Path}

/-- The manifests below a root are spelled in one way. -/
theorem spelledAlike_manifests (hwell : moment.disk.WellFormed) (cache : TextCache) :
    cache.SpelledAlike moment (navigator.manifests moment root) := by
  intro _ path hpath other hother hkey text hserved
  obtain rfl : path = other :=
    List.inj_on_of_nodup_map (nodup_components hwell) hpath hother hkey
  exact hserved

section Scans

variable (hfunctional : navigator.texts.IsFunctional)
variable (halike : navigator.texts.SpelledAlike moment files) (turns : List (List Nat))
variable (rule : Rule)

include hfunctional halike

private theorem exists_scanFiles (limit : Option Nat) :
    ∃ front back, batches navigator.settings.fileBatch files = front ++ back
      ∧ (navigator.scanFiles moment turns rule limit files).1
        = navigator.texts.plainScan moment rule front.flatten
      ∧ (back = [] ∨ ∃ enough, limit = some enough
        ∧ enough ≤ (navigator.scanFiles moment turns rule limit files).1.length) := by
  have hstart : navigator.texts.Grown moment files ({ texts := navigator.texts } : Scan).texts :=
    .refl hfunctional files
  have hbatches : (batches navigator.settings.fileBatch files).flatten ⊆ files := by
    rw [flatten_batches]
    exact List.Subset.refl files
  obtain ⟨front, back, hsplit, hfound, hstop⟩ :=
    Scan.exists_found_run rule limit turns hstart halike hbatches
  refine ⟨front, back, hsplit, hfound, hstop.imp_right fun henough => ?_⟩
  cases limit with
  | none => simp [Scan.isEnough] at henough
  | some enough => exact ⟨enough, rfl, of_decide_eq_true henough⟩

/-- Without a limit, batches do not show. -/
theorem scanFiles_none :
    (navigator.scanFiles moment turns rule none files).1
      = navigator.texts.plainScan moment rule files := by
  obtain ⟨front, back, hsplit, hfound, hstop⟩ :=
    exists_scanFiles hfunctional halike turns rule none
  obtain rfl : back = [] := hstop.resolve_right (by simp)
  rw [hfound, ← List.append_nil front, ← hsplit, flatten_batches]

/-- With a limit, a scan finds the beginning of what there is, and enough of it. -/
theorem scanFiles_some (limit : Nat) :
    ∃ front back, batches navigator.settings.fileBatch files = front ++ back
      ∧ (navigator.scanFiles moment turns rule (some limit) files).1
        = navigator.texts.plainScan moment rule front.flatten
      ∧ (navigator.scanFiles moment turns rule (some limit) files).1
        <+: navigator.texts.plainScan moment rule files
      ∧ min limit (navigator.texts.plainScan moment rule files).length
        ≤ (navigator.scanFiles moment turns rule (some limit) files).1.length := by
  obtain ⟨front, back, hsplit, hfound, hstop⟩ :=
    exists_scanFiles hfunctional halike turns rule (some limit)
  have hall : navigator.texts.plainScan moment rule files
      = (navigator.scanFiles moment turns rule (some limit) files).1
        ++ navigator.texts.plainScan moment rule back.flatten := by
    rw [hfound, ← TextCache.plainScan_append, ← List.flatten_append, ← hsplit, flatten_batches]
  refine ⟨front, back, hsplit, hfound, ⟨_, hall.symm⟩, ?_⟩
  rcases hstop with rfl | ⟨enough, hlimit, hle⟩
  · have hnone : navigator.texts.plainScan moment rule [].flatten = [] := rfl
    rw [hall, hnone, List.append_nil]
    exact Nat.min_le_right _ _
  · obtain rfl := Option.some.inj hlimit
    exact Nat.le_trans (Nat.min_le_left _ _) hle

/-- So the limit can be put off to the end. -/
theorem take_scanFiles (limit : Nat) :
    (navigator.scanFiles moment turns rule (some limit) files).1.take limit
      = (navigator.texts.plainScan moment rule files).take limit := by
  obtain ⟨-, -, -, -, ⟨more, hmore⟩, hlength⟩ :=
    scanFiles_some hfunctional halike turns rule limit
  rw [← hmore] at hlength ⊢
  -- either fewer were found than asked for, and there are no more, or the rest is cut off
  rcases Nat.lt_or_ge (navigator.scanFiles moment turns rule (some limit) files).1.length limit
    with hlt | hle
  · have hnil : more = [] := by
      rw [List.length_append] at hlength
      exact List.eq_nil_of_length_eq_zero (by omega)
    rw [hnil, List.append_nil]
  · exact (List.take_append_of_le_length hle).symm

end Scans

/-- Where a WorkflowTemplate is defined, if that is not known: the lines found in the text of each
manifest as it is fetched. -/
theorem locations_of_missed (hwell : moment.disk.WellFormed)
    (hfunctional : navigator.texts.IsFunctional) {name : Text}
    (h : navigator.definitions.lookup? moment.now name = none) (meanwhile : Meanwhile) :
    (navigator.findDefinition moment meanwhile root name).1.locations
      = navigator.texts.plainScan moment (Query.definition name).rule
          (navigator.manifests moment root) := by
  rw [findDefinition, h]
  exact scanFiles_none hfunctional (spelledAlike_manifests hwell _) meanwhile.turns _

/-! ## Spellings that are not served alike -/

/-- A navigator with another batch size. -/
def withFileBatch (navigator : Navigator) (size : Nat) : Navigator :=
  { navigator with settings := { navigator.settings with fileBatch := size } }

theorem batches_length {α : Type} {xs : List α} (h : xs ≠ []) : batches xs.length xs = [xs] := by
  obtain ⟨x, rest, rfl⟩ := List.exists_cons_of_ne_nil h
  rw [batches, List.length_cons, Nat.add_sub_cancel, List.take_length, List.drop_length, batches]

/-- Files that are all in one batch. -/
theorem found_scanFiles_of_one {size : Nat} (turns : List (List Nat)) (rule : Rule)
    (h : batches size files = [files]) :
    ((navigator.withFileBatch size).scanFiles moment turns rule none files).1
      = (Scan.batch { texts := navigator.texts } moment rule (turns.headD []) files).found := by
  unfold scanFiles withFileBatch
  dsimp only
  rw [h, Scan.run, Scan.run, ite_self]

/-- If neither batches nor turns ever show, spellings are served alike: the text that one of them is
served can be at hand for another before that looks. -/
theorem spelledAlike_of_scanFiles
    (h : ∀ size turns rule,
      ((navigator.withFileBatch size).scanFiles moment turns rule none files).1
        = navigator.texts.plainScan moment rule files) :
    navigator.texts.SpelledAlike moment files := by
  intro htimeout path hpath other hother hkey text hserved
  by_contra hne
  obtain ⟨i, hi⟩ := List.mem_iff_getElem?.1 hpath
  obtain ⟨j, hj⟩ := List.mem_iff_getElem?.1 hother
  have hij : j ≠ i := by
    rintro rfl
    obtain rfl : path = other := Option.some.inj (hi.symm.trans hj)
    exact hne hserved
  -- a rule that tells this text from all others
  let rule : Rule := fun found => if found = text then [0] else []
  -- all in one batch, where the other spelling looks once the text of the first was kept
  have hscan := h files.length [[i, i, i, j]] rule
  rw [found_scanFiles_of_one _ _ (batches_length (List.ne_nil_of_mem hpath)), Scan.found_batch_eq,
    List.nil_append] at hscan
  have hmem : (⟨other, 0⟩ : Location) ∈ navigator.texts.plainScan moment rule files := by
    rw [← hscan, List.mem_flatMap]
    refine ⟨(other, j), List.mem_zipIdx_iff_getElem?.2 hj, ?_⟩
    dsimp only
    rw [List.headD_cons, SharedTexts.fetches_fetchAll_of_later htimeout hij hi hj hkey hserved]
    simp [Fetch.text?, Rule.locations, rule]
  obtain ⟨file, -, hfound⟩ := List.mem_flatMap.1 hmem
  obtain rfl : other = file := Rule.path_of_mem_linesOf hfound
  cases hfetch : (navigator.texts.fetch moment other).1 with
  | error error =>
    rw [hfetch] at hfound
    exact absurd hfound List.not_mem_nil
  | ok found =>
    have hdiffers : found ≠ text := fun heq => hne (heq ▸ hfetch)
    rw [hfetch] at hfound
    simp [Rule.linesOf, Rule.locations, rule, hdiffers] at hfound

/-- **A scan in batches is a plain scan**, whatever the batch size and in whatever order the fetches
of a batch take their turns, if and only if spellings are served alike. With a limit it then stops
at the end of a batch, with at least as many locations as were asked for if there are so many, and
they are the first ones. So a template is found where a plain scan of the manifests, in path order,
finds it first. -/
theorem scanFiles_eq_plainScan (navigator : Navigator) (moment : Moment)
    (hfunctional : navigator.texts.IsFunctional) :
    (∀ files,
      (∀ size turns rule,
        ((navigator.withFileBatch size).scanFiles moment turns rule none files).1
          = navigator.texts.plainScan moment rule files)
        ↔ navigator.texts.SpelledAlike moment files)
      ∧ (∀ turns rule files, navigator.texts.SpelledAlike moment files →
        (navigator.scanFiles moment turns rule none files).1
            = navigator.texts.plainScan moment rule files
          ∧ ∀ limit, ∃ front back, batches navigator.settings.fileBatch files = front ++ back
            ∧ (navigator.scanFiles moment turns rule (some limit) files).1
              = navigator.texts.plainScan moment rule front.flatten
            ∧ (navigator.scanFiles moment turns rule (some limit) files).1
              <+: navigator.texts.plainScan moment rule files
            ∧ min limit (navigator.texts.plainScan moment rule files).length
              ≤ (navigator.scanFiles moment turns rule (some limit) files).1.length
            ∧ (navigator.scanFiles moment turns rule (some limit) files).1.take limit
              = (navigator.texts.plainScan moment rule files).take limit)
      ∧ (moment.disk.WellFormed → ∀ meanwhile root owner template,
        (navigator.manifests moment root).Pairwise (fun path other => path.le other = true)
          ∧ (navigator.run moment meanwhile root (.templateDefinition owner template)).1.locations
            = (navigator.texts.plainScan moment (Query.templateDefinition owner template).rule
                (navigator.manifests moment root)).head?.toList) := by
  refine ⟨fun files => ⟨spelledAlike_of_scanFiles, fun halike size turns rule => ?_⟩,
    fun turns rule files halike =>
      ⟨scanFiles_none hfunctional halike turns rule, fun limit => ?_⟩,
    fun hwell meanwhile root owner template => ⟨Crawl.pairwise_manifests _ _ _ _, ?_⟩⟩
  · have hbatched : (navigator.withFileBatch size).texts.IsFunctional := hfunctional
    exact scanFiles_none hbatched halike turns rule
  · obtain ⟨front, back, hsplit, hfound, hfirst, hlength⟩ :=
      scanFiles_some hfunctional halike turns rule limit
    exact ⟨front, back, hsplit, hfound, hfirst, hlength,
      take_scanFiles hfunctional halike turns rule limit⟩
  · rw [← List.take_one]
    exact take_scanFiles hfunctional (spelledAlike_manifests hwell _) _ _ 1

/-! A manifest, named as it is, with another slash in front, and with a slash at the end. -/

/-- The name of the manifest. -/
def exampleName : Bytes := Text.encode "a.yaml".toList

/-- Its path. -/
def exampleFile : Path := Path.top.descend [exampleName]

/-- A spelling by which it can be read too. -/
def exampleDoubled : Path := ⟨Path.slash :: exampleFile.bytes⟩

/-- A spelling by which it cannot be read. -/
def exampleRespelled : Path := ⟨exampleFile.bytes ++ [Path.slash]⟩

/-- Its lines, which define a template and refer to a WorkflowTemplate. -/
def exampleLines : List Text :=
  ["kind: WorkflowTemplate".toList, "metadata:".toList, "  name: lib".toList, "spec:".toList,
    "  templates:".toList, "  - name: hi".toList, "    templateRef:".toList,
    "      name: greet".toList, "      template: hello".toList]

/-- Its text. -/
def exampleText : Text := exampleLines.flatMap (· ++ ['\n'])

/-- A disk with nothing else. -/
def exampleMoment : Moment where
  disk := .single exampleName (Text.encode exampleText)

/-- A navigator that has read nothing yet. -/
def exampleNavigator (batch : Nat) : Navigator := .ofSettings { fileBatch := batch }

/-- A question about the manifest. -/
def exampleQuery : Query := .workflowTemplateReferences "greet".toList

theorem wellFormed_exampleMoment : exampleMoment.disk.WellFormed :=
  Disk.wellFormed_single (by decide) (by decide) _

theorem lines_exampleText : Text.lines exampleText = exampleLines :=
  Text.lines_flatMap_of_all (by decide +kernel)

theorem decode?_exampleText : Text.decode? (Text.encode exampleText) = some exampleText :=
  Text.decode?_encode_of_all (by decide +kernel)

theorem readText_exampleFile : exampleMoment.disk.readText exampleFile = .ok exampleText :=
  Disk.readText_single (by decide) (by decide) (by decide) decode?_exampleText

/-- The name of the manifest leads to it, and what comes after the name is looked up there. -/
theorem walk_exampleName (links : Nat) (rest : List Bytes) :
    exampleMoment.disk.walk true links [] (exampleName :: rest)
      = exampleMoment.disk.walk true links [exampleName] rest :=
  Disk.walk_name rfl (by decide) (by decide) (by decide) rfl (by simp) rest

theorem readText_exampleDoubled :
    exampleMoment.disk.readText exampleDoubled = .ok exampleText := by
  have hsteps : Disk.steps exampleDoubled = [exampleName] := by decide
  have hlocate : exampleMoment.disk.locate true exampleDoubled = .ok [exampleName] := by
    refine Disk.locate_eq_ok.2 ⟨by decide, ?_⟩
    rw [hsteps, walk_exampleName, Disk.walk_nil]
  exact Disk.readText_eq_ok.2 ⟨_, Disk.read_of_locate hlocate rfl, decode?_exampleText⟩

theorem readText_exampleRespelled :
    exampleMoment.disk.readText exampleRespelled
      = .error (.unreadable exampleRespelled .notDirectory) := by
  -- the slash asks for a directory, and the manifest is none
  have hsteps : Disk.steps exampleRespelled = [exampleName, Component.dot] := by decide
  have hcheck : Disk.check exampleRespelled = .ok () := by decide
  have hread : exampleMoment.disk.read exampleRespelled = .error .notDirectory := by
    rw [Disk.read, Disk.locate, hcheck, hsteps]
    simp only [bind, Except.bind, walk_exampleName]
    rw [Disk.walk]
    rfl
  rw [Disk.readText, hread]

theorem fetch_exampleNavigator (batch : Nat) (path : Path) :
    ((exampleNavigator batch).texts.fetch exampleMoment path).1
      = exampleMoment.disk.readText path := TextCache.fetch_fst_of_stale rfl

theorem linesOf_exampleText (path : Path) :
    exampleQuery.rule.linesOf path (.ok exampleText) = [⟨path, 7⟩] := by
  have hlines : exampleQuery.rule exampleText = [7] := by
    rw [exampleQuery, Query.rule, lines_exampleText]
    decide +kernel
  rw [Rule.linesOf, Rule.locations, hlines]
  rfl

theorem plainScan_example :
    (exampleNavigator 1).texts.plainScan exampleMoment exampleQuery.rule
        [exampleFile, exampleDoubled] = [⟨exampleFile, 7⟩, ⟨exampleDoubled, 7⟩]
      ∧ (exampleNavigator 1).texts.plainScan exampleMoment exampleQuery.rule
        [exampleFile, exampleRespelled] = [⟨exampleFile, 7⟩] := by
  simp only [TextCache.plainScan, List.flatMap_cons, List.flatMap_nil, fetch_exampleNavigator,
    readText_exampleFile, readText_exampleDoubled, readText_exampleRespelled, linesOf_exampleText]
  exact ⟨rfl, rfl⟩

/-- Once the manifest was read, its text is at hand for the other spelling. -/
theorem fetch_exampleRespelled :
    (((exampleNavigator 1).texts.fetch exampleMoment exampleFile).2.fetch exampleMoment
      exampleRespelled).1 = .ok exampleText := by
  have hkey : exampleFile.components = exampleRespelled.components := by decide
  have hserved := (fetch_exampleNavigator 1 exampleFile).trans readText_exampleFile
  have hfresh := TextCache.fresh?_fetch (by decide) hserved
  rw [TextCache.fresh?_congr hkey] at hfresh
  rw [TextCache.fetch_of_fresh? hfresh]

/-- So both spellings are served in one batch if the first fetch is done before the second looks. -/
theorem fetches_exampleRespelled {id : Nat} {path : Path}
    (hpath : [exampleFile, exampleRespelled][id]? = some path) :
    (SharedTexts.fetchAll (exampleNavigator 1).texts exampleMoment [exampleFile, exampleRespelled]
      [0, 0, 0, 1]).fetches id = .returned path (.ok exampleText) := by
  have hserved := (fetch_exampleNavigator 1 exampleFile).trans readText_exampleFile
  have hid : id < 2 := (List.getElem?_eq_some_iff.1 hpath).1
  obtain rfl | rfl : id = 0 ∨ id = 1 := by omega
  · obtain rfl : exampleFile = path := Option.some.inj hpath
    have hfirst := SharedTexts.fetches_fetchAll_of_first (exampleNavigator 1).texts exampleMoment
      hpath [1]
    rwa [hserved] at hfirst
  · obtain rfl : exampleRespelled = path := Option.some.inj hpath
    exact SharedTexts.fetches_fetchAll_of_later (by decide) (by decide) rfl hpath (by decide)
      hserved

/-- With a slash at the end the manifest cannot be read. A plain scan finds it once, and so does a
scan that has both spellings in one batch whose fetches go in rounds. But it is found twice if the
first fetch of the batch is done before the second looks, and if they are in two batches. -/
theorem scanFiles_respelled :
    let files := [exampleFile, exampleRespelled]
    let scanned := fun size turns => (((exampleNavigator 1).withFileBatch size).scanFiles
      exampleMoment turns exampleQuery.rule none files).1
    (exampleNavigator 1).texts.plainScan exampleMoment exampleQuery.rule files = [⟨exampleFile, 7⟩]
      ∧ scanned 2 [] = [⟨exampleFile, 7⟩]
      ∧ scanned 2 [[0, 0, 0, 1]] = [⟨exampleFile, 7⟩, ⟨exampleRespelled, 7⟩]
      ∧ scanned 1 [] = [⟨exampleFile, 7⟩, ⟨exampleRespelled, 7⟩] := by
  intro files scanned
  have htogether : batches 2 files = [files] := by simp [files, batches]
  have hapart : batches 1 files = [[exampleFile], [exampleRespelled]] := by simp [files, batches]
  have hone : ∀ turns, scanned 2 turns = (Scan.batch { texts := (exampleNavigator 1).texts }
      exampleMoment exampleQuery.rule (turns.headD []) files).found := fun turns =>
    found_scanFiles_of_one turns _ htogether
  refine ⟨plainScan_example.2, ?_, ?_, ?_⟩
  · rw [hone]
    exact (Scan.found_batch_nil _ _).trans plainScan_example.2
  · rw [hone]
    refine (Scan.found_batch fun _ _ => fetches_exampleRespelled).trans ?_
    simp only [files, List.flatMap_cons, List.flatMap_nil, linesOf_exampleText]
    rfl
  · dsimp only [scanned, scanFiles, withFileBatch]
    rw [hapart]
    simp only [Scan.run, Scan.isEnough, List.headD_nil, List.tail_nil, Bool.false_eq_true, if_false,
      Scan.found_batch_nil, Scan.texts_batch_nil, TextCache.plainScan, List.flatMap_singleton,
      List.foldl_cons, List.foldl_nil]
    -- what the first batch has kept is served to the second
    have hsecond := fetch_exampleRespelled
    rw [fetch_exampleNavigator, readText_exampleFile, linesOf_exampleText]
    unfold TextCache.fetch at hsecond ⊢
    rw [hsecond, linesOf_exampleText]
    rfl

/-- By two spellings by which it can be read, the manifest is found twice, whatever the turns. -/
theorem scanFiles_eq_plainScan_doubled :
    let files := [exampleFile, exampleDoubled]
    (exampleNavigator 1).texts.IsFunctional
      ∧ (exampleNavigator 1).texts.SpelledAlike exampleMoment files
      ∧ exampleMoment.disk.WellFormed
      ∧ (∀ size turns,
        (((exampleNavigator 1).withFileBatch size).scanFiles exampleMoment turns exampleQuery.rule
          none files).1 = [⟨exampleFile, 7⟩, ⟨exampleDoubled, 7⟩])
      ∧ (∀ turns, ((exampleNavigator 1).scanFiles exampleMoment turns exampleQuery.rule (some 1)
          files).1.take 1 = [⟨exampleFile, 7⟩])
      ∧ ∀ meanwhile, ((exampleNavigator 1).run exampleMoment meanwhile .top
          (.templateDefinition "lib".toList "hi".toList)).1.locations = [⟨exampleFile, 5⟩] := by
  intro files
  have hfunctional : (exampleNavigator 1).texts.IsFunctional := List.nodup_nil
  have hfetch : ∀ path ∈ files,
      ((exampleNavigator 1).texts.fetch exampleMoment path).1 = .ok exampleText := by
    simp [files, fetch_exampleNavigator, readText_exampleFile, readText_exampleDoubled]
  have halike : (exampleNavigator 1).texts.SpelledAlike exampleMoment files := by
    intro _ path hpath other hother _ text hserved
    rw [hfetch other hother, ← hfetch path hpath, hserved]
  have hmanifests : (exampleNavigator 1).manifests exampleMoment .top = [exampleFile] :=
    Crawl.manifests_single (by decide) (by decide) (by decide) (by decide) _ _ _
  have hdefined : (Query.templateDefinition "lib".toList "hi".toList).rule exampleText = [5] := by
    rw [Query.rule, lines_exampleText]
    decide +kernel
  obtain ⟨hiff, hscan, hsearch⟩ :=
    scanFiles_eq_plainScan (exampleNavigator 1) exampleMoment hfunctional
  refine ⟨hfunctional, halike, wellFormed_exampleMoment, fun size turns => ?_, fun turns => ?_,
    fun meanwhile => ?_⟩
  · rw [(hiff files).2 halike size turns, plainScan_example.1]
  · obtain ⟨-, -, -, -, -, -, hfirst⟩ := (hscan turns exampleQuery.rule files halike).2 1
    rw [hfirst, plainScan_example.1]
    rfl
  · rw [(hsearch wellFormed_exampleMoment meanwhile .top _ _).2, hmanifests, TextCache.plainScan,
      List.flatMap_singleton, fetch_exampleNavigator, readText_exampleFile, Rule.linesOf,
      Rule.locations, hdefined]
    rfl

end Navigator

end WorkflowNav
