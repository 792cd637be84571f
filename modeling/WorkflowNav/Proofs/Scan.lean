/-
A search through the text cache.

A text cache is right at some names if every text it has for the path there is the one that the file
there gives. Whoever fetches from a right cache gets what is on the disk, and leaves the cache
right: a fetch puts in only what it has read. So a search with a right cache finds what a search
without one finds (`locations_search_eq_uncached`), and the cache is right after it wherever it was
right before (`rightAt_search`), in whatever order the fetches of its batches take their turns. The
second is said for each place by itself, because places may be known to be right while others still
wait for word of a change.
-/
import WorkflowNav.Proofs.Cache
import WorkflowNav.Proofs.Turns
import WorkflowNav.Proofs.Uncached

set_option autoImplicit false

namespace WorkflowNav

open Text (Bytes)

/-! ## Right texts -/

/-- The text of the file that some names lead to, if it is given by its bytes: none if its path
cannot be looked up or its bytes are no text. -/
def Path.textBelow? (root : Path) (names : List Bytes) (file : Option Bytes) : Option Text :=
  if Disk.check (root.descend names) = .ok () then file.bind Text.decode? else none

theorem Disk.readText_descend {disk : Disk} (hwell : disk.WellFormed) {root : Path}
    {names : List Bytes} {bytes : Bytes} {text : Text}
    (hfile : disk.fileBelow? root names = some bytes) :
    disk.readText (root.descend names) = .ok text
      ↔ root.textBelow? names (disk.fileBelow? root names) = some text := by
  rw [hfile, Path.textBelow?, readText_eq_ok]
  simp only [read_eq_ok_iff hwell hfile]
  by_cases hcheck : check (root.descend names) = .ok () <;> simp [hcheck]

theorem Disk.readText_single {name bytes : Bytes} {text : Text} (hname : Path.IsName name)
    (hlength : name.length ≤ nameLimit) (hcheck : check (Path.top.descend [name]) = .ok ())
    (hdecode : Text.decode? bytes = some text) :
    (single name bytes).readText (Path.top.descend [name]) = .ok text := by
  have hfile : (single name bytes).fileBelow? .top [name] = some bytes :=
    (fileBelow?_single _ _ _).trans (if_pos rfl)
  refine (readText_descend (wellFormed_single hname hlength bytes) hfile).2 ?_
  rw [hfile, Path.textBelow?, if_pos hcheck, Option.bind_some, hdecode]

namespace TextCache

/-- Every text for the path that some names lead to is that of a file, given by its bytes. -/
def RightAt (cache : TextCache) (root : Path) (names : List Bytes) (file : Option Bytes) : Prop :=
  ∀ entry, ((root.descend names).components, entry) ∈ cache.entries →
    root.textBelow? names file = some entry.text

/-- The texts for manifests below a root are those on the disk. -/
def AgreesWith (cache : TextCache) (disk : Disk) (root : Path) : Prop :=
  ∀ names, Path.LeadsToManifest names → cache.RightAt root names (disk.fileBelow? root names)

variable {known cache : TextCache} {moment : Moment} {root : Path} {names others : List Bytes}

/-- A right text is the one on the disk. -/
theorem RightAt.readText {entry : CachedText} (hwell : moment.disk.WellFormed)
    (hright : cache.RightAt root names (moment.disk.fileBelow? root names))
    (hmem : ((root.descend names).components, entry) ∈ cache.entries) :
    moment.disk.readText (root.descend names) = .ok entry.text := by
  have htext := hright entry hmem
  cases hfile : moment.disk.fileBelow? root names with
  | none => simp [hfile, Path.textBelow?] at htext
  | some bytes => exact (Disk.readText_descend hwell hfile).2 htext

/-- A text that was just read leaves a cache right, at the names it is for if there is a file, and
at any other. -/
theorem RightAt.insert {text : Text} (hwell : moment.disk.WellFormed)
    (hnames : ∀ name ∈ names, Path.IsName name) (hothers : ∀ name ∈ others, Path.IsName name)
    (hfile : names = others → ∃ bytes, moment.disk.fileBelow? root names = some bytes)
    (hread : moment.disk.readText (root.descend others) = .ok text)
    (hright : cache.RightAt root names (moment.disk.fileBelow? root names)) :
    (cache.insert moment.now (root.descend others) text).RightAt root names
      (moment.disk.fileBelow? root names) := by
  intro entry hmem
  rcases mem_insert hmem with hnew | hold
  · -- a text that was just read is under the key of its own path, and below one root keys tell
    -- names apart
    obtain ⟨hkey, rfl⟩ := Prod.mk.inj hnew
    have heq : names = others := Path.descend_injective root hnames hothers hkey
    obtain ⟨bytes, hbytes⟩ := hfile heq
    rw [← heq] at hread
    exact (Disk.readText_descend hwell hbytes).1 hread
  · exact hright entry hold

/-- So a fetch leaves it right. -/
theorem RightAt.fetchBeyond (hwell : moment.disk.WellFormed)
    (hnames : ∀ name ∈ names, Path.IsName name) (hothers : ∀ name ∈ others, Path.IsName name)
    (hfile : names = others → ∃ bytes, moment.disk.fileBelow? root names = some bytes)
    (hright : cache.RightAt root names (moment.disk.fileBelow? root names)) :
    (known.fetchBeyond cache moment (root.descend others)).2.RightAt root names
      (moment.disk.fileBelow? root names) := by
  unfold TextCache.fetchBeyond
  split
  · exact hright
  · split
    · next text hread => exact hright.insert hwell hnames hothers hfile hread
    · exact hright

/-- A fetch from a right cache gives what is on the disk. -/
theorem RightAt.fetchBeyond_eq (hwell : moment.disk.WellFormed)
    (hright : known.RightAt root names (moment.disk.fileBelow? root names)) :
    (known.fetchBeyond cache moment (root.descend names)).1
      = moment.disk.readText (root.descend names) := by
  rcases fetchBeyond_fst known cache moment (root.descend names) with ⟨entry, hmem, heq⟩ | heq
  · rw [heq, hright.readText hwell hmem]
  · exact heq

end TextCache

/-! ## Scans -/

namespace Scan

variable {moment : Moment} {rule : Rule} {limit : Option Nat} {scan : Scan} {paths : List Path}
variable {P : TextCache → Prop}

/-- The lines found in a batch are those in the texts that its fetches have returned. -/
theorem found_batch_eq (turns : List Nat) :
    (scan.batch moment rule turns paths).found
      = scan.found ++ paths.zipIdx.flatMap fun (path, id) =>
          ((SharedTexts.fetchAll scan.texts moment paths turns).fetches id).text?.toList.flatMap
            (rule.locations path) := by
  rw [batch]
  dsimp only
  rw [List.filterMap_eq_flatMap_toList, List.flatMap_assoc]
  congr 1
  refine List.flatMap_congr ?_
  rintro ⟨path, id⟩ -
  dsimp only
  rw [Option.toList_map, List.flatMap_map]

/-- The lines found in a batch, if what is served for each of its files is known. -/
theorem found_batch {served : Path → Except ReadError Text} {turns : List Nat}
    (h : ∀ id path, paths[id]? = some path →
      (SharedTexts.fetchAll scan.texts moment paths turns).fetches id
        = .returned path (served path)) :
    (scan.batch moment rule turns paths).found
      = scan.found ++ paths.flatMap fun path => rule.linesOf path (served path) := by
  have hpaths : paths.flatMap (fun path => rule.linesOf path (served path))
      = paths.zipIdx.flatMap fun pair => rule.linesOf pair.1 (served pair.1) := by
    rw [← List.flatMap_map Prod.fst fun path => rule.linesOf path (served path),
      List.zipIdx_map_fst]
  rw [found_batch_eq, hpaths]
  congr 1
  refine List.flatMap_congr ?_
  rintro ⟨path, id⟩ hmem
  dsimp only
  rw [h id path (List.mem_zipIdx_iff_getElem?.1 hmem)]
  cases served path with
  | error error => rfl
  | ok text => exact List.flatMap_singleton _ _

theorem texts_batch
    (hinsert : ∀ cache, P cache → ∀ path ∈ paths, ∀ text, moment.disk.readText path = .ok text →
      P (cache.insert moment.now path text))
    (h : P scan.texts) (turns : List Nat) : P (scan.batch moment rule turns paths).texts := by
  have hkeeps : SharedTexts.FetchInvariant P (fun _ _ => True) moment paths :=
    ⟨fun _ _ _ _ => trivial, fun cache hcache path hpath text hread _ =>
      hinsert cache hcache path hpath text hread⟩
  exact (hkeeps.fetchAll h turns).1

/-- What insertions keep, a scan keeps. -/
theorem texts_run {files : List (List Path)}
    (hinsert : ∀ cache, P cache → ∀ path ∈ files.flatten, ∀ text,
      moment.disk.readText path = .ok text → P (cache.insert moment.now path text))
    (h : P scan.texts) (turns : List (List Nat)) :
    P (run moment rule limit turns scan files).texts := by
  induction files generalizing scan turns with
  | nil => exact h
  | cons paths files ih =>
    rw [List.flatten_cons] at hinsert
    have hnext : P (scan.batch moment rule (turns.headD []) paths).texts :=
      texts_batch (fun cache hcache path hpath =>
        hinsert cache hcache path (List.mem_append_left _ hpath)) h _
    rw [run]
    split
    · exact hnext
    · exact ih (fun cache hcache path hpath =>
        hinsert cache hcache path (List.mem_append_right _ hpath)) hnext _

/-- Having enough, more would be cut off. -/
private theorem clip_of_isEnough {query : Query} (h : scan.isEnough query.limit? = true)
    (more : List Location) : query.clip (scan.found ++ more) = query.clip scan.found := by
  cases hlimit : query.limit? with
  | none => simp [isEnough, hlimit] at h
  | some limit =>
    have hle : limit ≤ scan.found.length := by simpa [isEnough, hlimit] using h
    rw [Query.clip, Query.clip, hlimit]
    exact List.take_append_of_le_length hle

/-- Right texts stay right while files are fetched, and the files are served as they are. -/
theorem fetchInvariant_agreesWith {root : Path} (hwell : moment.disk.WellFormed)
    (hpaths : ∀ path ∈ paths, ∃ names bytes, Path.LeadsToManifest names
      ∧ path = root.descend names ∧ moment.disk.fileBelow? root names = some bytes) :
    SharedTexts.FetchInvariant (fun cache => cache.AgreesWith moment.disk root)
      (fun path outcome => outcome = moment.disk.readText path) moment paths where
  fetch cache hcache path hpath := by
    obtain ⟨names, bytes, hleads, rfl, hfile⟩ := hpaths path hpath
    exact (hcache names hleads).fetchBeyond_eq hwell
  insert cache hcache path hpath text hread _ names hleads := by
    obtain ⟨others, bytes, hothers, rfl, hfile⟩ := hpaths path hpath
    exact (hcache names hleads).insert hwell hleads.isName hothers.isName
      (fun h => ⟨bytes, h ▸ hfile⟩) hread

/-- A scan with right texts finds what is on the disk. -/
theorem clip_found_run {query : Query} {root : Path} (hwell : moment.disk.WellFormed)
    {files : List (List Path)}
    (hfiles : ∀ path ∈ files.flatten, ∃ names bytes, Path.LeadsToManifest names
      ∧ path = root.descend names ∧ moment.disk.fileBelow? root names = some bytes)
    (hright : scan.texts.AgreesWith moment.disk root) (turns : List (List Nat)) :
    query.clip (run moment query.rule query.limit? turns scan files).found
      = query.clip (scan.found ++ files.flatten.flatMap (moment.disk.linesAt query.rule)) := by
  induction files generalizing scan turns with
  | nil => simp [run]
  | cons paths files ih =>
    rw [List.flatten_cons] at hfiles
    have hbatch := fetchInvariant_agreesWith hwell fun path hpath =>
      hfiles path (List.mem_append_left _ hpath)
    have hnext := (hbatch.fetchAll hright (turns.headD [])).1
    have hfound : (scan.batch moment query.rule (turns.headD []) paths).found
        = scan.found ++ paths.flatMap (moment.disk.linesAt query.rule) :=
      found_batch fun _ _ => hbatch.fetches_eq hright _
    rw [run, List.flatten_cons, List.flatMap_append, ← List.append_assoc, ← hfound]
    -- stopping early loses only lines that would be cut off
    split
    · next henough => rw [clip_of_isEnough henough]
    · exact ih (fun path hpath => hfiles path (List.mem_append_right _ hpath)) hnext _

end Scan

/-! ## Searches -/

namespace Navigator

variable {navigator : Navigator} {moment : Moment} {meanwhile : Meanwhile} {root : Path}
variable {query : Query}

/-- A search scans the manifests in batches. -/
private def scanned (navigator : Navigator) (moment : Moment) (meanwhile : Meanwhile)
    (root : Path) (query : Query) : Scan :=
  Scan.run moment query.rule query.limit? meanwhile.turns { texts := navigator.texts }
    (batches navigator.settings.fileBatch (navigator.manifests moment root))

private theorem locations_search :
    (navigator.search moment meanwhile root query).1.locations
      = query.clip (navigator.scanned moment meanwhile root query).found := rfl

/-- The files of a search are manifests below the root. -/
private theorem manifest_of_mem_batches (hwell : moment.disk.WellFormed) {path : Path}
    (h : path ∈ (batches navigator.settings.fileBatch
      (navigator.manifests moment root)).flatten) :
    ∃ names bytes, Path.LeadsToManifest names ∧ path = root.descend names
      ∧ moment.disk.fileBelow? root names = some bytes := by
  rw [flatten_batches] at h
  exact Disk.manifest_of_mem hwell h

/-- Different files have different components. -/
theorem nodup_components (hwell : moment.disk.WellFormed) :
    ((navigator.manifests moment root).map Path.components).Nodup := by
  rw [List.Nodup, List.pairwise_map]
  refine (Crawl.nodup_manifests hwell _ _ root).imp_of_mem fun hpath hother hne heq => hne ?_
  obtain ⟨names, bytes, hleads, rfl, -⟩ := Disk.manifest_of_mem hwell hpath
  obtain ⟨others, bytes', hleads', rfl, -⟩ := Disk.manifest_of_mem hwell hother
  rw [Path.descend_injective root hleads.isName hleads'.isName heq]

/-- **A search with right texts finds what a search without a cache finds.** -/
theorem locations_search_eq_uncached (hwell : moment.disk.WellFormed)
    (hright : navigator.texts.AgreesWith moment.disk root) :
    (navigator.search moment meanwhile root query).1.locations
      = moment.disk.uncached navigator.settings root query := by
  rw [locations_search, scanned,
    Scan.clip_found_run hwell (fun _ => manifest_of_mem_batches hwell) hright, flatten_batches]
  rfl

/-- What the insertion of the text of a manifest keeps, a search keeps. -/
theorem texts_search_induction {P : TextCache → Prop} (hwell : moment.disk.WellFormed)
    (hinsert : ∀ cache, P cache → ∀ (names : Place) (bytes : Bytes) (text : Text),
      Path.LeadsToManifest names → moment.disk.fileBelow? root names = some bytes →
      moment.disk.readText (root.descend names) = .ok text →
      P (cache.insert moment.now (root.descend names) text))
    (h : P navigator.texts) : P (navigator.search moment meanwhile root query).2.texts := by
  refine Scan.texts_run ?_ h _
  intro cache hcache path hpath text hread
  obtain ⟨names, bytes, hleads, rfl, hfile⟩ := manifest_of_mem_batches hwell hpath
  exact hinsert cache hcache names bytes text hleads hfile hread

/-- A search leaves the texts right wherever they were right before. -/
theorem rightAt_search (hwell : moment.disk.WellFormed) {names : List Bytes}
    (hnames : ∀ name ∈ names, Path.IsName name)
    (hright : navigator.texts.RightAt root names (moment.disk.fileBelow? root names)) :
    (navigator.search moment meanwhile root query).2.texts.RightAt root names
      (moment.disk.fileBelow? root names) :=
  texts_search_induction hwell (P := fun cache => cache.RightAt root names _)
    (fun _ hcache _ bytes _ hothers hfile hread =>
      hcache.insert hwell hnames hothers.isName (fun h => ⟨bytes, h ▸ hfile⟩) hread) hright

/-! ## Questions -/

theorem name_run : (navigator.run moment meanwhile root query).1.name = query.name := by
  cases query with
  | definition name =>
    rw [run, findDefinition]
    split <;> rfl
  | _ => rfl

theorem settings_run :
    (navigator.run moment meanwhile root query).2.settings = navigator.settings := by
  cases query with
  | definition name =>
    rw [run, findDefinition]
    split <;> rfl
  | _ => rfl

/-- The texts that a question leaves are those there were, or those that a search leaves. -/
theorem texts_run (navigator : Navigator) (moment : Moment) (meanwhile : Meanwhile) (root : Path)
    (query : Query) :
    (navigator.run moment meanwhile root query).2.texts = navigator.texts
      ∨ (navigator.run moment meanwhile root query).2.texts
        = (navigator.search moment meanwhile root query).2.texts := by
  cases query with
  | definition name =>
    rw [run, findDefinition]
    split
    · exact .inl rfl
    · exact .inr rfl
  | _ => exact .inr rfl

/-- The answer to the question where something is defined is known afterwards. -/
theorem lookup?_run (navigator : Navigator) (moment : Moment) (root : Path) (name : Text) :
    (navigator.run moment {} root (.definition name)).2.definitions.lookup? moment.now name
      = some (navigator.run moment {} root (.definition name)).1.locations := by
  rw [run, findDefinition]
  split
  · next locations hlookup => exact hlookup
  · exact DefinitionCache.lookup?_record _ _ _ _

end Navigator

end WorkflowNav
