/-
What is discovered below a root.

A disk as one user sees it: some directories may not be read, and besides files, directories and
links there are entries of other kinds. `InReach` says which manifests a crawl should find on it, in
terms of what stands where and of what can be read: through real directories only, none of them
passed over, and at most so many of them. Nothing in it speaks of levels, batches or the order of
reads.
-/
import Mathlib.Data.List.Perm.Subperm
import WorkflowNav.Proofs.Discovery

set_option autoImplicit false

namespace WorkflowNav

open Text (Bytes)

/-- A disk of which not everything can be read. -/
structure Volume where
  disk : Disk
  wellFormed : disk.WellFormed
  /-- The directories that may not be read. -/
  closed : Place → Bool := fun _ => false
  /-- The entries that are neither file, directory nor link: devices, pipes and sockets. -/
  special : Place → Bool := fun _ => false
  /-- Those take the place of files. -/
  isFile_of_special : ∀ place, special place = true → ∃ bytes, disk.get? place = some (.file bytes)
    := by simp

namespace Volume

variable {volume : Volume} {directory root path : Path} {here : Place} {name : Bytes}
variable {kind : EntryKind} {depth size : Nat}

/-- What kind of entry stands at a place. A link is not followed. -/
def kind? (volume : Volume) (place : Place) : Option EntryKind :=
  (volume.disk.get? place).map fun entry => if volume.special place then .other else entry.kind

/-- The names in the directory at a path and their kinds, if it can be read. -/
def list? (volume : Volume) : Crawl.Listing := fun path =>
  match volume.disk.locate true path with
  | .error _ => none
  | .ok place =>
    if volume.disk.get? place = some .directory ∧ volume.closed place = false then
      some ((volume.disk.children place).map fun (name, kind) =>
        (name, if volume.special (place ++ [name]) then .other else kind))
    else none

/-- Whether a path leads to a directory that can be read. -/
def CanRead (volume : Volume) (path : Path) : Prop := (volume.list? path).isSome = true

/-- The manifests that a crawl should find: files with the name of a manifest below a root, at most
`depth` directories away. The directories on the way are real ones and not passed over, and they
and the root can be read. -/
def InReach (volume : Volume) (depth : Nat) (root path : Path) : Prop :=
  ∃ place directories name, volume.disk.locate true root = .ok place
    ∧ path = root.descend (directories ++ [name]) ∧ directories.length ≤ depth
    ∧ (∀ i, i ≤ directories.length → volume.CanRead (root.descend (directories.take i)))
    ∧ (∀ i, i < directories.length →
      volume.kind? (place ++ directories.take (i + 1)) = some .directory)
    ∧ (∀ directory ∈ directories, Path.isIgnoredName (Text.decodeLossy directory) = false)
    ∧ volume.kind? (place ++ (directories ++ [name])) = some .file
    ∧ (".yaml".toList <:+ Text.decodeLossy name ∨ ".yml".toList <:+ Text.decodeLossy name)

/-- A disk that can all be read and has no other entries is listed as it is. -/
theorem list?_plain (disk : Disk) (hwell : disk.WellFormed) :
    list? { disk := disk, wellFormed := hwell } = disk.list? := by
  funext path
  unfold list? Disk.list?
  cases disk.locate true path with
  | error error => rfl
  | ok place => simp

/-! ## Listings -/

theorem canRead_iff :
    volume.CanRead path ↔ ∃ place, volume.disk.locate true path = .ok place
      ∧ volume.disk.get? place = some .directory ∧ volume.closed place = false := by
  unfold CanRead list?
  cases volume.disk.locate true path with
  | error error => simp
  | ok place =>
    dsimp only
    split <;> simp_all

/-- What is a directory in a listing is one on the disk. -/
theorem kind?_eq_directory_iff {place : Place} :
    volume.kind? place = some .directory ↔ volume.disk.get? place = some .directory := by
  unfold kind?
  cases hspecial : volume.special place with
  | true =>
    obtain ⟨bytes, hfile⟩ := volume.isFile_of_special place hspecial
    simp [hfile]
  | false =>
    rw [Option.map_eq_some_iff]
    constructor
    · rintro ⟨entry, hentry, hkind⟩
      cases entry with
      | directory => exact hentry
      | file bytes => exact absurd hkind (by simp [Entry.kind])
      | link target => exact absurd hkind (by simp [Entry.kind])
    · intro hentry
      exact ⟨.directory, hentry, rfl⟩

/-- What a directory lists is what stands one name below it. -/
theorem mem_list? (hlocate : volume.disk.locate true directory = .ok here) :
    (name, kind) ∈ (volume.list? directory).getD []
      ↔ volume.CanRead directory ∧ volume.kind? (here ++ [name]) = some kind := by
  have hchildren : (name, kind) ∈ (volume.disk.children here).map (fun pair =>
        (pair.1, if volume.special (here ++ [pair.1]) then .other else pair.2))
      ↔ volume.kind? (here ++ [name]) = some kind := by
    simp only [List.mem_map, Prod.exists, Disk.mem_children, kind?, Option.map_eq_some_iff,
      Disk.get?_concat, Prod.mk.injEq]
    constructor
    · rintro ⟨_, _, ⟨entry, hmem, rfl⟩, rfl, hkind⟩
      exact ⟨entry, Keyed.get?_of_mem volume.wellFormed.nodup hmem, hkind⟩
    · rintro ⟨entry, hget, hkind⟩
      exact ⟨name, _, ⟨entry, Keyed.mem_of_get? hget, rfl⟩, rfl, hkind⟩
  unfold CanRead list?
  rw [hlocate]
  dsimp only
  split
  · simpa using hchildren
  · simp

theorem canRead_of_mem {pair : Bytes × EntryKind} (h : pair ∈ (volume.list? directory).getD []) :
    volume.CanRead directory := by
  unfold CanRead
  cases hlist : volume.list? directory with
  | none => simp [hlist] at h
  | some entries => rfl

/-- A crawl that lists a directory below another has read that one. -/
theorem canRead_of_enters {names : List Bytes} (henters : Crawl.Enters volume.list? directory names)
    (hlisted : (name, kind) ∈ (volume.list? (directory.descend names)).getD []) :
    volume.CanRead directory := by
  cases names with
  | nil => exact canRead_of_mem hlisted
  | cons first names => exact canRead_of_mem henters.1

/-- The path of a directory in a directory leads one place down, if it is not too long to be looked
up; that both can be read says so. -/
theorem locate_join (hlocate : volume.disk.locate true directory = .ok here)
    (hread : volume.CanRead directory) (hkind : volume.kind? (here ++ [name]) = some .directory)
    (hjoin : volume.CanRead (directory.join name)) :
    volume.disk.locate true (directory.join name) = .ok (here ++ [name]) := by
  obtain ⟨place, hplace, hhere, -⟩ := canRead_iff.1 hread
  obtain rfl : here = place := Except.ok.inj (hlocate.symm.trans hplace)
  obtain ⟨_, hnext, -, -⟩ := canRead_iff.1 hjoin
  have hentry := kind?_eq_directory_iff.1 hkind
  obtain ⟨hname, hlength⟩ := volume.wellFormed.isName_of_get? hentry
  exact Disk.locate_join hlocate hhere hname hlength hentry (by simp)
    (Disk.locate_eq_ok.1 hnext).1

/-- **The way down.** A crawl comes from a directory to an entry exactly if real directories lead
there, none is passed over, and all of them can be read. -/
theorem enters_iff {names : List Bytes} (hlocate : volume.disk.locate true directory = .ok here) :
    Crawl.Enters volume.list? directory names
        ∧ (name, kind) ∈ (volume.list? (directory.descend names)).getD []
      ↔ (∀ i, i ≤ names.length → volume.CanRead (directory.descend (names.take i)))
        ∧ (∀ i, i < names.length → volume.kind? (here ++ names.take (i + 1)) = some .directory)
        ∧ (∀ other ∈ names, Path.isIgnoredName (Text.decodeLossy other) = false)
        ∧ volume.kind? (here ++ (names ++ [name])) = some kind := by
  induction names generalizing directory here with
  | nil =>
    rw [List.nil_append, Path.descend_nil, mem_list? hlocate]
    simp [Crawl.Enters]
  | cons first names ih =>
    have hplaces : ∀ more : List Bytes, here ++ [first] ++ more = here ++ first :: more := by simp
    constructor
    · rintro ⟨⟨hfirst, hkept, henters⟩, hlisted⟩
      obtain ⟨hread, hkind⟩ := (mem_list? hlocate).1 hfirst
      have hjoin := locate_join hlocate hread hkind (canRead_of_enters henters hlisted)
      obtain ⟨hreads, hkinds, hnames, hlast⟩ := (ih hjoin).1 ⟨henters, hlisted⟩
      refine ⟨fun i hi => ?_, fun i hi => ?_, by simpa [hkept] using hnames, ?_⟩
      · cases i with
        | zero => exact hread
        | succ i => exact hreads i (by simpa using hi)
      · cases i with
        | zero => simpa using hkind
        | succ i => simpa using hkinds i (by simpa using hi)
      · rwa [hplaces] at hlast
    · rintro ⟨hreads, hkinds, hnames, hlast⟩
      have hkind : volume.kind? (here ++ [first]) = some .directory := by
        simpa using hkinds 0 (by simp)
      have hread : volume.CanRead directory := hreads 0 (by simp)
      have hjoin := locate_join hlocate hread hkind (hreads 1 (by simp))
      obtain ⟨henters, hlisted⟩ := (ih hjoin).2 ⟨fun i hi => hreads (i + 1) (by simpa using hi),
        fun i hi => by simpa using hkinds (i + 1) (by simpa using hi),
        fun other hother => hnames other (List.mem_cons_of_mem _ hother), by rwa [hplaces]⟩
      exact ⟨⟨(mem_list? hlocate).2 ⟨hread, hkind⟩, hnames first List.mem_cons_self, henters⟩,
        hlisted⟩

/-! ## What a crawl finds -/

theorem isManifestName_iff {text : Text} :
    Path.isManifestName text = true ↔ ".yaml".toList <:+ text ∨ ".yml".toList <:+ text := by
  simp [Path.isManifestName, Path.manifestEndings, List.isSuffixOf_iff_suffix]

/-- **What a crawl finds on a volume** is what is in reach. -/
theorem mem_manifests :
    path ∈ Crawl.manifests volume.list? depth size root ↔ volume.InReach depth root path := by
  unfold Crawl.manifests InReach
  rw [List.mem_mergeSort, Crawl.mem_below]
  constructor
  · rintro ⟨directory, hdirectory, names, name, hlength, henters, hlisted, hmanifest, rfl⟩
    obtain rfl := List.mem_singleton.1 hdirectory
    obtain ⟨place, hplace, -, -⟩ := canRead_iff.1 (canRead_of_enters henters hlisted)
    obtain ⟨hreads, hkinds, hkept, hlast⟩ := (enters_iff hplace).1 ⟨henters, hlisted⟩
    exact ⟨place, names, name, hplace, rfl, Nat.le_of_lt_succ hlength, hreads, hkinds, hkept, hlast,
      isManifestName_iff.1 hmanifest⟩
  · rintro ⟨place, names, name, hplace, rfl, hlength, hreads, hkinds, hkept, hlast, hmanifest⟩
    obtain ⟨henters, hlisted⟩ := (enters_iff hplace).2 ⟨hreads, hkinds, hkept, hlast⟩
    exact ⟨root, List.mem_singleton_self root, names, name, Nat.lt_succ_of_le hlength, henters,
      hlisted, isManifestName_iff.2 hmanifest, rfl⟩

/-- A directory that is entered below the root has an entry of its own. -/
theorem mem_entries_of_enters {names : List Bytes}
    (hlocate : volume.disk.locate true root = .ok here)
    (henters : Crawl.Enters volume.list? root names) (hne : names ≠ []) :
    here ++ names ∈ volume.disk.entries.map Prod.fst := by
  rw [← List.dropLast_append_getLast hne] at henters ⊢
  obtain ⟨hfront, hlisted, -⟩ := Crawl.enters_concat.1 henters
  obtain ⟨-, -, -, hkind⟩ := (enters_iff hlocate).1 ⟨hfront, hlisted⟩
  have hentry := kind?_eq_directory_iff.1 hkind
  rw [← List.append_assoc, Disk.get?_concat] at hentry
  rw [← List.append_assoc]
  exact List.mem_map_of_mem (Keyed.mem_of_get? hentry)

theorem nodup_list? (volume : Volume) (directory : Path) :
    (((volume.list? directory).getD []).map Prod.fst).Nodup := by
  unfold list?
  cases volume.disk.locate true directory with
  | error error => exact .nil
  | ok place =>
    dsimp only
    split
    · rw [Option.getD_some, List.map_map]
      exact Disk.nodup_children volume.wellFormed place
    · exact .nil

/-- **A crawl reads no more directories than there are**, the root and the entries of the volume. -/
theorem length_readBelow_le (volume : Volume) (levels : Nat) (root : Path) :
    (Crawl.readBelow volume.list? levels [root]).length ≤ volume.disk.entries.length + 1 := by
  have hread : Crawl.readBelow volume.list? levels [root]
      = (Crawl.entered volume.list? root levels [[]]).map root.descend :=
    Crawl.readBelow_eq_map root levels [[]]
  have hnodup := (Crawl.nodup_entered volume.nodup_list? root levels 0 (List.nodup_singleton [])
    (by simp)).1
  have henters : ∀ names ∈ Crawl.entered volume.list? root levels [[]],
      Crawl.Enters volume.list? root names :=
    Crawl.enters_of_mem_entered (by simp [Crawl.Enters])
  rw [hread, List.length_map]
  generalize Crawl.entered volume.list? root levels [[]] = lists at hnodup henters
  -- apart from the root itself, each directory has an entry, and no two have the same
  have hrest : (lists.erase []).length ≤ volume.disk.entries.length := by
    cases hfirst : lists.erase [] with
    | nil => simp
    | cons first more =>
      rw [← hfirst]
      have hread : volume.CanRead root := by
        obtain ⟨hne, hmem⟩ := hnodup.mem_erase_iff.1 (hfirst ▸ List.mem_cons_self)
        obtain ⟨name, names, rfl⟩ := List.exists_cons_of_ne_nil hne
        exact canRead_of_mem (henters _ hmem).1
      obtain ⟨place, hlocate, -, -⟩ := canRead_iff.1 hread
      have hplaces : ((lists.erase []).map (place ++ ·)).Nodup :=
        (hnodup.erase []).map (List.append_right_injective place)
      have hsubset : (lists.erase []).map (place ++ ·) ⊆ volume.disk.entries.map Prod.fst := by
        intro other hother
        obtain ⟨names, hnames, rfl⟩ := List.mem_map.1 hother
        obtain ⟨hne, hmem⟩ := hnodup.mem_erase_iff.1 hnames
        exact mem_entries_of_enters hlocate (henters names hmem) hne
      simpa using (hplaces.subperm hsubset).length_le
  have herase : lists.length - 1 ≤ (lists.erase []).length := List.le_length_erase
  omega

/-- **Discovery is exact.** A crawl finds what is in reach of its root, and nothing else. It ends,
also where links lead in circles, and in whatever order the reads of its batches come back, it has
found the same then. The size of the batches does not show, and a deeper crawl finds no less. -/
theorem crawl_exact (volume : Volume) (depth size : Nat) (root : Path) :
    (∀ path, path ∈ Crawl.manifests volume.list? depth size root
        ↔ volume.InReach depth root path)
      ∧ (∃ n p, Crawl.Runs volume.list? depth size root n p
        ∧ ∀ q, ¬ Crawl.Step volume.list? depth size p q)
      ∧ (∀ n p, Crawl.Runs volume.list? depth size root n p →
        n ≤ 3 * (volume.disk.entries.length + 1)
          ∧ ((∀ q, ¬ Crawl.Step volume.list? depth size p q) →
            p.found.Perm (Crawl.manifests volume.list? depth size root)))
      ∧ (∀ other, Crawl.manifests volume.list? depth other root
        = Crawl.manifests volume.list? depth size root)
      ∧ ∀ deeper, depth ≤ deeper →
        Crawl.manifests volume.list? depth size root
          ⊆ Crawl.manifests volume.list? deeper size root := by
  refine ⟨fun path => mem_manifests, Crawl.exists_end .begin, ?_, ?_, ?_⟩
  · intro n p hrun
    have hsteps := Crawl.length_runs_le hrun
    have hread := volume.length_readBelow_le (depth + 1) root
    exact ⟨by omega, fun hend =>
      (Crawl.found_perm_below hrun hend).trans (List.mergeSort_perm _ _).symm⟩
  · intro other
    unfold Crawl.manifests
    rw [Crawl.below_size]
  · intro deeper hdeeper path hpath
    obtain ⟨place, directories, name, hplace, hpath, hlength, hrest⟩ := mem_manifests.1 hpath
    exact mem_manifests.2
      ⟨place, directories, name, hplace, hpath, Nat.le_trans hlength hdeeper, hrest⟩

/-! Two directories with a manifest each, one of which is closed, and a link back to the top. -/

/-- The name of the directory that can be read. -/
def exampleOpen : Bytes := Text.encode "flows".toList

/-- The name of the directory that cannot. -/
def exampleClosed : Bytes := Text.encode "vault".toList

/-- The name of both manifests. -/
def exampleManifest : Bytes := Text.encode "a.yml".toList

/-- The volume with all of them. -/
def exampleVolume : Volume where
  disk.entries :=
    [([exampleOpen], .directory), ([exampleOpen, exampleManifest], .file []),
      ([exampleOpen, Text.encode "back".toList], .link .top),
      ([exampleClosed], .directory), ([exampleClosed, exampleManifest], .file [])]
  wellFormed := ⟨by decide, by decide, by decide⟩
  closed place := place = [exampleClosed]

theorem list?_exampleVolume :
    exampleVolume.list? .top = some [(exampleOpen, .directory), (exampleClosed, .directory)]
      ∧ exampleVolume.list? (Path.top.join exampleOpen)
        = some [(exampleManifest, .file), (Text.encode "back".toList, .other)]
      ∧ exampleVolume.list? (Path.top.join exampleClosed) = none := by
  have htop : exampleVolume.disk.locate true .top = .ok [] := Disk.locate_top _
  have hopen : exampleVolume.disk.locate true (Path.top.join exampleOpen) = .ok [exampleOpen] :=
    Disk.locate_join htop rfl (by decide) (by decide) rfl (by simp) (by decide)
  have hclosed : exampleVolume.disk.locate true (Path.top.join exampleClosed)
      = .ok [exampleClosed] :=
    Disk.locate_join htop rfl (by decide) (by decide) rfl (by simp) (by decide)
  refine ⟨?_, ?_, ?_⟩
  · rw [list?, htop]
    decide
  · rw [list?, hopen]
    decide
  · rw [list?, hclosed]
    decide

theorem read_exampleVolume :
    Crawl.manifestsIn exampleVolume.list? .top = []
      ∧ Crawl.directoriesIn exampleVolume.list? .top
        = [Path.top.join exampleOpen, Path.top.join exampleClosed]
      ∧ Crawl.manifestsIn exampleVolume.list? (Path.top.join exampleOpen)
        = [Path.top.descend [exampleOpen, exampleManifest]]
      ∧ Crawl.directoriesIn exampleVolume.list? (Path.top.join exampleOpen) = []
      ∧ Crawl.manifestsIn exampleVolume.list? (Path.top.join exampleClosed) = []
      ∧ Crawl.directoriesIn exampleVolume.list? (Path.top.join exampleClosed) = [] := by
  obtain ⟨htop, hopen, hclosed⟩ := list?_exampleVolume
  unfold Crawl.manifestsIn Crawl.directoriesIn
  rw [htop, hopen, hclosed]
  decide

/-- What the crawl of that volume has done after six steps. -/
def exampleEnd : Crawl.Progress where
  found := [Path.top.descend [exampleOpen, exampleManifest]]
  depth := 1

/-- The crawl that reads the top, and then the two directories, of which the second comes back
first. -/
theorem crawl_exact_volume :
    Crawl.Runs exampleVolume.list? 10 2 .top 6 exampleEnd
      ∧ (∀ q, ¬ Crawl.Step exampleVolume.list? 10 2 exampleEnd q)
      ∧ exampleEnd.found.Perm (Crawl.manifests exampleVolume.list? 10 2 .top)
      ∧ Crawl.manifests exampleVolume.list? 10 2 .top
        ⊆ Crawl.manifests exampleVolume.list? 11 2 .top := by
  obtain ⟨htop, hbelow, hopen, hopenBelow, hclosed, hclosedBelow⟩ := read_exampleVolume
  obtain ⟨-, -, hruns, -, hdeeper⟩ := exampleVolume.crawl_exact 10 2 .top
  have hstarted : Crawl.Runs exampleVolume.list? 10 2 .top 1 { reading := [.top] } :=
    Crawl.Runs.begin.step (.start _ [.top] [] rfl (by simp [batches]))
  have hlevel : Crawl.Runs exampleVolume.list? 10 2 .top 2
      { next := [Path.top.join exampleOpen, Path.top.join exampleClosed] } := by
    simpa [htop, hbelow] using hstarted.step (.finish _ [] [] .top rfl)
  have hreading : Crawl.Runs exampleVolume.list? 10 2 .top 4
      { reading := [Path.top.join exampleOpen, Path.top.join exampleClosed], depth := 1 } :=
    (hlevel.step (.descend _ rfl rfl (by simp) (by decide))).step
      (.start _ _ [] rfl (by simp [batches]))
  have hone : Crawl.Runs exampleVolume.list? 10 2 .top 5
      { reading := [Path.top.join exampleOpen], depth := 1 } := by
    simpa [hclosed, hclosedBelow] using hreading.step (.finish _ [_] [] _ rfl)
  have hrun : Crawl.Runs exampleVolume.list? 10 2 .top 6 exampleEnd := by
    simpa [hopen, hopenBelow, exampleEnd] using hone.step (.finish _ [] [] _ rfl)
  have hend : ∀ q, ¬ Crawl.Step exampleVolume.list? 10 2 exampleEnd q := by
    intro q hstep
    rcases hstep.cases with ⟨-, -, -, -, -, hless⟩ | ⟨-, hnext, -⟩
    · exact absurd hless (by simp [exampleEnd])
    · exact hnext rfl
  exact ⟨hrun, hend, (hruns 6 exampleEnd hrun).2 hend, hdeeper 11 (by decide)⟩

end Volume

end WorkflowNav
