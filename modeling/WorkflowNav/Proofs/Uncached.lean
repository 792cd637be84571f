/-
What a search finds with nothing kept.

`Disk.uncached` is the answer that both caches stand for: crawl, read every manifest from the disk,
apply the rule, and put the lines one after the other in path order. Everything said about the
caches is said against it.

It depends on the disk only through the manifests below the root: two disks on which these are the
same files with the same bytes give the same answers (`uncached_congr`), whatever else differs. That
is why word of every changed manifest is enough to keep the caches right.
-/
import WorkflowNav.Navigator
import WorkflowNav.Proofs.Crawl

set_option autoImplicit false

namespace WorkflowNav

open Text (Bytes)

/-! ## The answer without caches -/

/-- The lines that a rule finds in what came of reading a file; none if it could not be read. -/
def Rule.linesOf (rule : Rule) (path : Path) : Except ReadError Text → List Location
  | .ok text => rule.locations path text
  | .error _ => []

theorem Rule.path_of_mem_linesOf {rule : Rule} {path : Path} {outcome : Except ReadError Text}
    {location : Location} (h : location ∈ rule.linesOf path outcome) : location.path = path := by
  cases outcome with
  | error error => exact absurd h List.not_mem_nil
  | ok text =>
    obtain ⟨line, -, rfl⟩ := List.mem_map.1 h
    rfl

/-- As many locations as a question needs. -/
def Query.clip (query : Query) (found : List Location) : List Location :=
  match query.limit? with
  | some limit => found.take limit
  | none => found

namespace Disk

/-- The lines that a rule finds in the file at a path. -/
def linesAt (disk : Disk) (rule : Rule) (path : Path) : List Location :=
  rule.linesOf path (disk.readText path)

/-- The answer to a question about the manifests below a root, without caches. -/
def uncached (disk : Disk) (settings : SearchSettings) (root : Path) (query : Query) :
    List Location :=
  query.clip ((Crawl.manifests disk.list? settings.maxDepth settings.directoryBatch root).flatMap
    (disk.linesAt query.rule))

end Disk

/-! ## It depends on the manifests only -/

/-- Names that can lead to a manifest. -/
structure Path.LeadsToManifest (names : List Bytes) : Prop where
  isName : ∀ name ∈ names, Path.IsName name
  isManifest : ∃ front name, names = front ++ [name]
    ∧ Path.isManifestName (Text.decodeLossy name) = true

namespace Disk

/-- Two disks have the same manifests below a root. -/
def SameManifests (root : Path) (one two : Disk) : Prop :=
  ∀ names, Path.LeadsToManifest names → one.fileBelow? root names = two.fileBelow? root names

/-- The manifests that a crawl finds and that hold text, with their texts. -/
private def texts (disk : Disk) (settings : SearchSettings) (root : Path) : List (Path × Text) :=
  (Crawl.manifests disk.list? settings.maxDepth settings.directoryBatch root).filterMap fun path =>
    (disk.readText path).toOption.map fun text => (path, text)

private theorem uncached_eq (disk : Disk) (settings : SearchSettings) (root : Path)
    (query : Query) :
    disk.uncached settings root query
      = query.clip ((texts disk settings root).flatMap fun pair =>
          query.rule.locations pair.1 pair.2) := by
  unfold uncached texts
  congr 1
  generalize Crawl.manifests disk.list? settings.maxDepth settings.directoryBatch root = paths
  induction paths with
  | nil => rfl
  | cons path paths ih =>
    rw [List.flatMap_cons, List.filterMap_cons, ih, linesAt]
    cases disk.readText path <;> rfl

theorem readText_eq_ok {disk : Disk} {path : Path} {text : Text} :
    disk.readText path = .ok text
      ↔ ∃ bytes, disk.read path = .ok bytes ∧ Text.decode? bytes = some text := by
  unfold readText
  cases disk.read path with
  | error cause => simp
  | ok bytes => cases hdecode : Text.decode? bytes <;> simp [hdecode]

/-- The texts that a crawl comes to, told by what stands below the root. -/
private theorem mem_texts {disk : Disk} (hwell : disk.WellFormed) {settings : SearchSettings}
    {root path : Path} {text : Text} :
    (path, text) ∈ texts disk settings root
      ↔ ∃ names bytes, Crawl.InReach settings.maxDepth names ∧ path = root.descend names
        ∧ check path = .ok () ∧ disk.fileBelow? root names = some bytes
        ∧ Text.decode? bytes = some text := by
  have hmem : (path, text) ∈ texts disk settings root
      ↔ path ∈ Crawl.manifests disk.list? settings.maxDepth settings.directoryBatch root
        ∧ disk.readText path = .ok text := by
    unfold texts
    rw [List.mem_filterMap]
    constructor
    · rintro ⟨other, hother, hsome⟩
      cases hread : disk.readText other with
      | error error => simp [hread, Except.toOption] at hsome
      | ok found =>
        obtain ⟨rfl, rfl⟩ : other = path ∧ found = text := by
          simpa [hread, Except.toOption] using hsome
        exact ⟨hother, hread⟩
    · rintro ⟨hpath, hread⟩
      exact ⟨path, hpath, by simp [hread, Except.toOption]⟩
  rw [hmem, readText_eq_ok]
  constructor
  · rintro ⟨hpath, found, hread, hdecode⟩
    obtain ⟨names, bytes, hreach, rfl, hfile⟩ := Crawl.fileBelow?_of_mem_manifests hwell hpath
    obtain ⟨rfl, hcheck⟩ := (read_eq_ok_iff hwell hfile).1 hread
    exact ⟨names, found, hreach, rfl, hcheck, hfile, hdecode⟩
  · rintro ⟨names, bytes, hreach, rfl, hcheck, hfile, hdecode⟩
    exact ⟨Crawl.mem_manifests_of_fileBelow? hwell hreach hfile hcheck, bytes,
      (read_eq_ok_iff hwell hfile).2 ⟨rfl, hcheck⟩, hdecode⟩

/-- What a crawl comes to is a manifest below the root. -/
theorem manifest_of_mem {disk : Disk} (hwell : disk.WellFormed) {settings : SearchSettings}
    {root path : Path}
    (h : path ∈ Crawl.manifests disk.list? settings.maxDepth settings.directoryBatch root) :
    ∃ names bytes, Path.LeadsToManifest names ∧ path = root.descend names
      ∧ disk.fileBelow? root names = some bytes := by
  obtain ⟨names, bytes, hreach, hpath, hfile⟩ := Crawl.fileBelow?_of_mem_manifests hwell h
  obtain ⟨front, name, hnames, -, -, hmanifest⟩ := hreach
  exact ⟨names, bytes, ⟨hwell.isName_of_fileBelow? hfile, front, name, hnames, hmanifest⟩, hpath,
    hfile⟩

theorem SameManifests.symm {root : Path} {one two : Disk} (h : SameManifests root one two) :
    SameManifests root two one := fun names hnames => (h names hnames).symm

private theorem texts_subset {root : Path} {one two : Disk} (hone : one.WellFormed)
    (htwo : two.WellFormed) (hsame : SameManifests root one two) {settings : SearchSettings} :
    texts one settings root ⊆ texts two settings root := by
  rintro ⟨path, text⟩ hmem
  obtain ⟨names, bytes, hreach, hpath, hcheck, hfile, hdecode⟩ := (mem_texts hone).1 hmem
  have hleads : Path.LeadsToManifest names := by
    obtain ⟨front, name, hnames, -, -, hmanifest⟩ := hreach
    exact ⟨hone.isName_of_fileBelow? hfile, front, name, hnames, hmanifest⟩
  rw [hsame names hleads] at hfile
  exact (mem_texts htwo).2 ⟨names, bytes, hreach, hpath, hcheck, hfile, hdecode⟩

private theorem nodup_texts {disk : Disk} (hwell : disk.WellFormed) (settings : SearchSettings)
    (root : Path) : (texts disk settings root).Nodup := by
  refine (Crawl.nodup_manifests hwell _ _ root).filterMap ?_
  intro path other pair hpair hother
  obtain ⟨_, -, rfl⟩ := Option.map_eq_some_iff.1 hpair
  obtain ⟨_, -, heq⟩ := Option.map_eq_some_iff.1 hother
  exact (Prod.mk.inj heq).1.symm

private theorem pairwise_texts (disk : Disk) (settings : SearchSettings) (root : Path) :
    (texts disk settings root).Pairwise fun a b => Path.le a.1 b.1 = true := by
  unfold texts
  rw [List.pairwise_filterMap]
  refine (Crawl.pairwise_manifests _ _ _ root).imp ?_
  intro a b hab x hx y hy
  obtain ⟨_, -, rfl⟩ := Option.map_eq_some_iff.1 hx
  obtain ⟨_, -, rfl⟩ := Option.map_eq_some_iff.1 hy
  exact hab

/-- The order of paths is one of components only, but no two texts have the same. -/
private theorem texts_antisymm {disk : Disk} (hwell : disk.WellFormed) {settings : SearchSettings}
    {root : Path} {one two : Path × Text} (hone : one ∈ texts disk settings root)
    (htwo : two ∈ texts disk settings root) (hle : Path.le one.1 two.1 = true)
    (hge : Path.le two.1 one.1 = true) : one = two := by
  obtain ⟨path, text⟩ := one
  obtain ⟨other, found⟩ := two
  obtain ⟨names, bytes, -, rfl, -, hfile, hdecode⟩ := (mem_texts hwell).1 hone
  obtain ⟨names', bytes', -, rfl, -, hfile', hdecode'⟩ := (mem_texts hwell).1 htwo
  obtain rfl := Path.descend_injective root (hwell.isName_of_fileBelow? hfile)
    (hwell.isName_of_fileBelow? hfile') (Path.components_eq_of_le hle hge)
  rw [hfile] at hfile'
  rw [← Option.some.inj hfile', hdecode] at hdecode'
  rw [Option.some.inj hdecode']

/-- **The answer depends on the manifests only.** -/
theorem uncached_congr {root : Path} {one two : Disk} (hone : one.WellFormed)
    (htwo : two.WellFormed) (hsame : SameManifests root one two) (settings : SearchSettings)
    (query : Query) : one.uncached settings root query = two.uncached settings root query := by
  have hperm : (texts one settings root).Perm (texts two settings root) :=
    (List.perm_ext_iff_of_nodup (nodup_texts hone _ _) (nodup_texts htwo _ _)).2 fun _ =>
      ⟨fun h => texts_subset hone htwo hsame h, fun h => texts_subset htwo hone hsame.symm h⟩
  -- both are in path order, so that they are the same list and not only the same texts
  have heq : texts one settings root = texts two settings root :=
    hperm.eq_of_pairwise
      (fun _ _ hmem hother => texts_antisymm htwo (texts_subset hone htwo hsame hmem) hother)
      (pairwise_texts one _ _) (pairwise_texts two _ _)
  rw [uncached_eq, uncached_eq, heq]

end Disk

end WorkflowNav
