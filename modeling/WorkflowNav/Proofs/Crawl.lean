/-
What a crawl finds.

A crawl works on levels of directories, in batches. Neither shows in what it finds: a manifest is
found if directories lead to it that are listed as such and are not passed over, at most as many as
there are levels (`mem_below`). That holds for any listing, also for one that fails here and there.

A listing that names each entry once makes the crawl find each manifest once (`nodup_below`). The
argument is on names rather than on paths: a level holds lists of names of one length, and every
level makes them longer by one.
-/
import Mathlib.Data.List.Nodup
import WorkflowNav.Crawl
import WorkflowNav.Proofs.Disk

set_option autoImplicit false

namespace WorkflowNav.Crawl

open Text (Bytes)

/-! ## Levels -/

/-- The directories through which a crawl goes down from a directory: each is listed as one, and
none is passed over. -/
def Enters (list : Listing) (directory : Path) : List Bytes → Prop
  | [] => True
  | name :: rest =>
    (name, .directory) ∈ (list directory).getD []
      ∧ Path.isIgnoredName (Text.decodeLossy name) = false
      ∧ Enters list (directory.join name) rest

theorem below_nil (list : Listing) (size levels : Nat) : below list size levels [] = [] := by
  cases levels <;> rfl

/-- Batches do not show. -/
theorem below_succ (list : Listing) (size levels : Nat) (directories : List Path) :
    below list size (levels + 1) directories
      = directories.flatMap (manifestsIn list)
        ++ below list size levels (directories.flatMap (directoriesIn list)) := by
  have hbatches : ∀ f : Path → List Path,
      (batches size directories).flatMap (·.flatMap f) = directories.flatMap f := by
    intro f
    conv_rhs => rw [← flatten_batches size directories, List.flatten_eq_flatMap, List.flatMap_assoc]
    rfl
  cases directories with
  | nil =>
    rw [below, List.flatMap_nil, List.flatMap_nil, below_nil]
    rfl
  | cons directory more =>
    rw [below, level, hbatches, hbatches]

section Kept

variable {list : Listing} {directory path : Path}

/-- Manifests and directories are both what is kept of a listing, joined to the directory. -/
private theorem filterMap_join (keep : Bytes × EntryKind → Prop) [DecidablePred keep]
    (directory : Path) (entries : List (Bytes × EntryKind)) :
    entries.filterMap (fun pair => if keep pair then some (directory.join pair.1) else none)
      = ((entries.filter fun pair => keep pair).map Prod.fst).map directory.join := by
  rw [List.map_map, ← List.filterMap_eq_map, List.filterMap_filter]
  refine List.filterMap_congr fun pair _ => ?_
  simp only [decide_eq_true_eq]
  rfl

/-- The names of the manifests in a directory. -/
private def manifestNames (list : Listing) (directory : Path) : List Bytes :=
  (((list directory).getD []).filter fun pair =>
    pair.2 = .file ∧ Path.isManifestName (Text.decodeLossy pair.1)).map Prod.fst

/-- The names of the directories in a directory that are entered. -/
private def directoryNames (list : Listing) (directory : Path) : List Bytes :=
  (((list directory).getD []).filter fun pair =>
    pair.2 = .directory ∧ ¬ Path.isIgnoredName (Text.decodeLossy pair.1)).map Prod.fst

private theorem manifestsIn_eq_map (directory : Path) :
    manifestsIn list directory = (manifestNames list directory).map directory.join :=
  filterMap_join (fun pair => pair.2 = .file ∧ Path.isManifestName (Text.decodeLossy pair.1)) _ _

private theorem directoriesIn_eq_map (directory : Path) :
    directoriesIn list directory = (directoryNames list directory).map directory.join :=
  filterMap_join
    (fun pair => pair.2 = .directory ∧ ¬ Path.isIgnoredName (Text.decodeLossy pair.1)) _ _

theorem mem_manifestsIn :
    path ∈ manifestsIn list directory
      ↔ ∃ name, (name, .file) ∈ (list directory).getD []
        ∧ Path.isManifestName (Text.decodeLossy name) = true ∧ path = directory.join name := by
  simp only [manifestsIn_eq_map, manifestNames, List.mem_map, List.mem_filter, decide_eq_true_eq]
  constructor
  · rintro ⟨_, ⟨⟨name, kind⟩, ⟨hmem, rfl, hmanifest⟩, rfl⟩, rfl⟩
    exact ⟨name, hmem, hmanifest, rfl⟩
  · rintro ⟨name, hmem, hmanifest, rfl⟩
    exact ⟨name, ⟨_, ⟨hmem, rfl, hmanifest⟩, rfl⟩, rfl⟩

theorem mem_directoriesIn :
    path ∈ directoriesIn list directory
      ↔ ∃ name, (name, .directory) ∈ (list directory).getD []
        ∧ Path.isIgnoredName (Text.decodeLossy name) = false ∧ path = directory.join name := by
  simp only [directoriesIn_eq_map, directoryNames, List.mem_map, List.mem_filter,
    decide_eq_true_eq, Bool.not_eq_true]
  constructor
  · rintro ⟨_, ⟨⟨name, kind⟩, ⟨hmem, rfl, hkept⟩, rfl⟩, rfl⟩
    exact ⟨name, hmem, hkept, rfl⟩
  · rintro ⟨name, hmem, hkept, rfl⟩
    exact ⟨name, ⟨_, ⟨hmem, rfl, hkept⟩, rfl⟩, rfl⟩

end Kept

/-- **What a crawl finds.** A manifest that is listed in a directory which is entered from one of
the given ones, on fewer levels than there are. -/
theorem mem_below {list : Listing} {size levels : Nat} {directories : List Path} {path : Path} :
    path ∈ below list size levels directories
      ↔ ∃ directory ∈ directories, ∃ names name, names.length < levels
        ∧ Enters list directory names
        ∧ (name, .file) ∈ (list (directory.descend names)).getD []
        ∧ Path.isManifestName (Text.decodeLossy name) = true
        ∧ path = directory.descend (names ++ [name]) := by
  induction levels generalizing directories with
  | zero => simp [below]
  | succ levels ih =>
    rw [below_succ, List.mem_append, List.mem_flatMap, ih]
    constructor
    · rintro (⟨directory, hdirectory, hpath⟩ | ⟨_, hbelow, names, name, hlength, henters, hfound⟩)
      · obtain ⟨name, hmem, hmanifest, rfl⟩ := mem_manifestsIn.1 hpath
        exact ⟨directory, hdirectory, [], name, by simp, trivial, hmem, hmanifest, rfl⟩
      · obtain ⟨directory, hdirectory, hin⟩ := List.mem_flatMap.1 hbelow
        obtain ⟨first, hlisted, hkept, rfl⟩ := mem_directoriesIn.1 hin
        refine ⟨directory, hdirectory, first :: names, name, ?_, ⟨hlisted, hkept, henters⟩, hfound⟩
        simpa using hlength
    · rintro ⟨directory, hdirectory, names, name, hlength, henters, hmem, hmanifest, rfl⟩
      cases names with
      | nil => exact .inl ⟨directory, hdirectory, mem_manifestsIn.2 ⟨name, hmem, hmanifest, rfl⟩⟩
      | cons first names =>
        obtain ⟨hlisted, hkept, henters⟩ := henters
        refine .inr ⟨directory.join first, ?_, names, name, ?_, henters, hmem, hmanifest, rfl⟩
        · exact List.mem_flatMap.2
            ⟨directory, hdirectory, mem_directoriesIn.2 ⟨first, hlisted, hkept, rfl⟩⟩
        · simpa using hlength

/-! ## Each manifest once -/

section Once

variable {list : Listing}

/-- The lists of names one longer than the given ones, by what `more` finds below each. -/
private def extend (more : Path → List Bytes) (root : Path) (lists : List (List Bytes)) :
    List (List Bytes) :=
  lists.flatMap fun names => (more (root.descend names)).map fun name => names ++ [name]

private theorem map_descend_extend (more : Path → List Bytes) (root : Path)
    (lists : List (List Bytes)) :
    (extend more root lists).map root.descend
      = (lists.map root.descend).flatMap fun directory => (more directory).map directory.join := by
  unfold extend
  rw [List.map_flatMap, List.flatMap_map]
  refine List.flatMap_congr fun names _ => ?_
  rw [List.map_map]
  exact List.map_congr_left fun name _ => Path.descend_concat root names name

private theorem nodup_extend {more : Path → List Bytes}
    (hmore : ∀ directory, (more directory).Nodup)
    (root : Path) {lists : List (List Bytes)} (hlists : lists.Nodup) :
    (extend more root lists).Nodup := by
  refine List.nodup_flatMap.2 ⟨?_, ?_⟩
  · intro names _
    exact (hmore _).map fun _ _ heq => by simpa using heq
  · refine hlists.imp fun hne => List.disjoint_iff_ne.2 ?_
    rintro _ hone _ htwo rfl
    obtain ⟨_, -, rfl⟩ := List.mem_map.1 hone
    obtain ⟨_, -, heq⟩ := List.mem_map.1 htwo
    exact hne (List.append_inj_left' heq rfl).symm

private theorem mem_extend {more : Path → List Bytes} {root : Path} {lists : List (List Bytes)}
    {names : List Bytes} :
    names ∈ extend more root lists
      ↔ ∃ shorter ∈ lists, ∃ name ∈ more (root.descend shorter), names = shorter ++ [name] := by
  simp only [extend, List.mem_flatMap, List.mem_map, eq_comm]

/-- The directories that a crawl reads, as lists of names. -/
def entered (list : Listing) (root : Path) : Nat → List (List Bytes) → List (List Bytes)
  | 0, _ => []
  | levels + 1, lists => lists ++ entered list root levels (extend (directoryNames list) root lists)

/-- What a crawl finds are the manifests in the directories that it reads. -/
private theorem below_eq_map (size : Nat) (root : Path) (levels : Nat)
    (lists : List (List Bytes)) :
    below list size levels (lists.map root.descend)
      = (extend (manifestNames list) root (entered list root levels lists)).map root.descend := by
  induction levels generalizing lists with
  | zero => rfl
  | succ levels ih =>
    have hsplit : ∀ more : Path → List Bytes, ∀ one two : List (List Bytes),
        extend more root (one ++ two) = extend more root one ++ extend more root two :=
      fun more one two => List.flatMap_append
    rw [below_succ, entered, hsplit, List.map_append, map_descend_extend, ← ih, map_descend_extend,
      funext manifestsIn_eq_map, funext directoriesIn_eq_map]

/-- The directories that a crawl reads, level by level. -/
def readBelow (list : Listing) : Nat → List Path → List Path
  | 0, _ => []
  | levels + 1, directories =>
    directories ++ readBelow list levels (directories.flatMap (directoriesIn list))

theorem readBelow_eq_map (root : Path) (levels : Nat) (lists : List (List Bytes)) :
    readBelow list levels (lists.map root.descend)
      = (entered list root levels lists).map root.descend := by
  induction levels generalizing lists with
  | zero => rfl
  | succ levels ih =>
    rw [readBelow, entered, List.map_append, ← ih, map_descend_extend, funext directoriesIn_eq_map]

/-- A crawl enters one directory more by what the last one lists. -/
theorem enters_concat {directory : Path} {names : List Bytes} {name : Bytes} :
    Enters list directory (names ++ [name])
      ↔ Enters list directory names
        ∧ (name, .directory) ∈ (list (directory.descend names)).getD []
        ∧ Path.isIgnoredName (Text.decodeLossy name) = false := by
  induction names generalizing directory with
  | nil => simp [Enters]
  | cons first names ih => rw [List.cons_append, Enters, Enters, ih, Path.descend_cons]; tauto

/-- Everything that is read is entered from the root. -/
theorem enters_of_mem_entered {root : Path} {levels : Nat} {lists : List (List Bytes)}
    (hlists : ∀ names ∈ lists, Enters list root names) :
    ∀ names ∈ entered list root levels lists, Enters list root names := by
  induction levels generalizing lists with
  | zero => simp [entered]
  | succ levels ih =>
    intro names hmem
    rcases List.mem_append.1 hmem with h | h
    · exact hlists names h
    · refine ih (fun longer hlonger => ?_) names h
      obtain ⟨shorter, hshorter, name, hname, rfl⟩ := mem_extend.1 hlonger
      obtain ⟨⟨_, kind⟩, hpair, rfl⟩ := List.mem_map.1 hname
      obtain ⟨hlisted, hkind, hkept⟩ : _ ∧ kind = .directory ∧ _ := by
        simpa only [List.mem_filter, decide_eq_true_eq, Bool.not_eq_true] using hpair
      subst hkind
      exact enters_concat.2 ⟨hlists shorter hshorter, hlisted, hkept⟩

variable (hlisted : ∀ directory, (((list directory).getD []).map Prod.fst).Nodup)
variable (hnames : ∀ directory, ∀ pair ∈ (list directory).getD [], Path.IsName pair.1)

include hlisted in
private theorem nodup_listed (keep : Bytes × EntryKind → Bool) (directory : Path) :
    ((((list directory).getD []).filter keep).map Prod.fst).Nodup :=
  (hlisted directory).sublist (List.filter_sublist.map _)

include hlisted in
/-- Each directory is read once: those of one level have as many names, and those of the next have
one more. -/
theorem nodup_entered (root : Path) (levels length : Nat) {lists : List (List Bytes)}
    (hnodup : lists.Nodup) (hlength : ∀ names ∈ lists, names.length = length) :
    (entered list root levels lists).Nodup
      ∧ ∀ names ∈ entered list root levels lists, length ≤ names.length := by
  induction levels generalizing length lists with
  | zero => simp [entered]
  | succ levels ih =>
    have hlonger : ∀ names ∈ extend (directoryNames list) root lists,
        names.length = length + 1 := by
      intro names hmem
      obtain ⟨shorter, hshorter, name, -, rfl⟩ := mem_extend.1 hmem
      rw [List.length_append, hlength shorter hshorter, List.length_singleton]
    obtain ⟨hdeep, hdeeper⟩ :=
      ih (length + 1) (nodup_extend (nodup_listed hlisted _) root hnodup) hlonger
    rw [entered]
    constructor
    · refine hnodup.append hdeep fun names hhere hbelow => ?_
      have h1 := hlength names hhere
      have h2 := hdeeper names hbelow
      omega
    · intro names hmem
      rcases List.mem_append.1 hmem with h | h
      · exact Nat.le_of_eq (hlength names h).symm
      · exact Nat.le_of_succ_le (hdeeper names h)

include hnames in
private theorem isName_of_enters {directory : Path} {names : List Bytes}
    (h : Enters list directory names) : ∀ name ∈ names, Path.IsName name := by
  induction names generalizing directory with
  | nil => simp
  | cons first names ih =>
    obtain ⟨hfirst, -, hrest⟩ := h
    intro name hname
    rcases List.mem_cons.1 hname with rfl | hname
    · exact hnames directory _ hfirst
    · exact ih hrest name hname

include hlisted hnames in
/-- A listing that names each entry once makes a crawl find each manifest once. -/
theorem nodup_below (size levels : Nat) (root : Path) : (below list size levels [root]).Nodup := by
  have hbelow : below list size levels [root]
      = (extend (manifestNames list) root (entered list root levels [[]])).map root.descend :=
    below_eq_map size root levels [[]]
  have hentered := (nodup_entered hlisted root levels 0 (List.nodup_singleton []) (by simp)).1
  have hall : ∀ names ∈ extend (manifestNames list) root (entered list root levels [[]]),
      ∀ name ∈ names, Path.IsName name := by
    intro names hmem name hname
    obtain ⟨shorter, hshorter, last, hlast, rfl⟩ := mem_extend.1 hmem
    rcases List.mem_append.1 hname with h | h
    · exact isName_of_enters hnames
        (enters_of_mem_entered (by simp [Enters]) shorter hshorter) name h
    · obtain ⟨pair, hpair, rfl⟩ := List.mem_map.1 hlast
      rw [List.mem_singleton.1 h]
      exact hnames _ pair (List.mem_of_mem_filter hpair)
  rw [hbelow]
  refine (nodup_extend (nodup_listed hlisted _) root hentered).map_on ?_
  intro names hmem others hother heq
  exact Path.descend_injective root (hall names hmem) (hall others hother) (by rw [heq])

end Once

theorem pairwise_manifests (list : Listing) (depth size : Nat) (root : Path) :
    (manifests list depth size root).Pairwise fun a b => Path.le a b = true := by
  unfold manifests
  apply List.pairwise_mergeSort
  · intro a b c
    exact Path.le_trans
  · exact Path.le_total

/-! ## On a disk -/

/-- Names that a crawl of some depth looks at: those of directories it enters, and of a manifest. -/
def InReach (depth : Nat) (names : List Bytes) : Prop :=
  ∃ directories name, names = directories ++ [name] ∧ directories.length ≤ depth
    ∧ (∀ other ∈ directories, Path.isIgnoredName (Text.decodeLossy other) = false)
    ∧ Path.isManifestName (Text.decodeLossy name) = true

theorem kept_of_enters {list : Listing} {directory : Path} {names : List Bytes}
    (h : Enters list directory names) :
    ∀ name ∈ names, Path.isIgnoredName (Text.decodeLossy name) = false := by
  induction names generalizing directory with
  | nil => simp
  | cons first names ih =>
    obtain ⟨-, hkept, henters⟩ := h
    intro name hname
    rcases List.mem_cons.1 hname with rfl | hname
    · exact hkept
    · exact ih henters name hname

section Disk

variable {disk : Disk} (hwell : disk.WellFormed)

include hwell

/-- Whatever a crawl lists, it has looked up the directory. -/
private theorem locate_of_enters {directory : Path} {names : List Bytes} {name : Bytes}
    (henters : Enters disk.list? directory names)
    (hlisted : (name, .file) ∈ (disk.list? (directory.descend names)).getD []) :
    ∃ here, disk.locate true directory = .ok here := by
  cases names with
  | nil =>
    obtain ⟨here, hhere, -⟩ := (Disk.mem_listing hwell).1 hlisted
    exact ⟨here, hhere⟩
  | cons first names =>
    obtain ⟨here, hhere, -⟩ := (Disk.mem_listing hwell).1 henters.1
    exact ⟨here, hhere⟩

/-- What a crawl comes to from a directory is the file that stands at the directory's place,
followed by the names. -/
theorem fileFrom?_of_enters {directory : Path} {here : Place} {names : List Bytes} {name : Bytes}
    (hlocate : disk.locate true directory = .ok here) (henters : Enters disk.list? directory names)
    (hlisted : (name, .file) ∈ (disk.list? (directory.descend names)).getD []) :
    (∀ other ∈ names ++ [name], Path.IsName other)
      ∧ ∃ bytes, disk.fileFrom? here (names ++ [name]) = some bytes := by
  induction names generalizing directory here with
  | nil =>
    obtain ⟨place, hplace, hdirectory, entry, hentry, hkind⟩ := (Disk.mem_listing hwell).1 hlisted
    obtain rfl : here = place := Except.ok.inj (hlocate.symm.trans hplace)
    have hname := (hwell.isName_of_get? hentry).1
    cases entry with
    | file bytes =>
      refine ⟨by simpa using hname, bytes, ?_⟩
      simp [Disk.fileFrom?, hdirectory, hentry]
    | directory => exact absurd hkind (by simp [Entry.kind])
    | link target => exact absurd hkind (by simp [Entry.kind])
  | cons first names ih =>
    obtain ⟨hfirst, -, henters⟩ := henters
    obtain ⟨place, hplace, hdirectory, entry, hentry, hkind⟩ := (Disk.mem_listing hwell).1 hfirst
    obtain rfl : here = place := Except.ok.inj (hlocate.symm.trans hplace)
    obtain ⟨hname, hlength⟩ := hwell.isName_of_get? hentry
    have hlink : ∀ target, entry ≠ .link target := by
      rintro target rfl
      exact absurd hkind (by simp [Entry.kind])
    obtain ⟨_, hnext⟩ := locate_of_enters hwell henters hlisted
    have hdown := Disk.locate_join hlocate hdirectory hname hlength hentry hlink
      (Disk.locate_eq_ok.1 hnext).1
    obtain ⟨hnames, bytes, hbytes⟩ := ih hdown henters hlisted
    refine ⟨?_, bytes, ?_⟩
    · intro other hother
      rcases List.mem_cons.1 hother with rfl | hother
      · exact hname
      · exact hnames other hother
    · rw [List.cons_append, Disk.fileFrom?, if_pos hdirectory]
      exact hbytes

/-- The converse: from a directory a crawl comes to every file below it whose path can be looked
up, unless a directory on the way is passed over. -/
theorem enters_of_fileFrom? {directory : Path} {here : Place} {names : List Bytes} {name : Bytes}
    {bytes : Bytes} (hlocate : disk.locate true directory = .ok here)
    (hkept : ∀ other ∈ names, Path.isIgnoredName (Text.decodeLossy other) = false)
    (hfile : disk.fileFrom? here (names ++ [name]) = some bytes)
    (hcheck : Disk.check (directory.descend (names ++ [name])) = .ok ()) :
    Enters disk.list? directory names
      ∧ (name, .file) ∈ (disk.list? (directory.descend names)).getD [] := by
  induction names generalizing directory here with
  | nil =>
    obtain ⟨hdirectory, hrest⟩ := Disk.fileFrom?_cons.1 hfile
    have hentry := Disk.fileFrom?_nil.1 hrest
    exact ⟨trivial, (Disk.mem_listing hwell).2 ⟨here, hlocate, hdirectory, _, hentry, rfl⟩⟩
  | cons first names ih =>
    obtain ⟨hdirectory, hrest⟩ := Disk.fileFrom?_cons.1 hfile
    -- `names ++ [name]` is not empty, so what stands under `first` is a directory
    have hentry : disk.get? (here ++ [first]) = some .directory := by
      cases names with
      | nil => exact (Disk.fileFrom?_cons.1 hrest).1
      | cons second names => exact (Disk.fileFrom?_cons.1 hrest).1
    obtain ⟨hname, hlength⟩ := hwell.isName_of_get? hentry
    have hdown := Disk.locate_join hlocate hdirectory hname hlength hentry (by simp)
      (Disk.check_of_check_descend (hwell.isName_of_fileFrom? hrest) hcheck)
    obtain ⟨henters, hlisted⟩ := ih hdown
      (fun other hother => hkept other (List.mem_cons_of_mem _ hother)) hrest hcheck
    refine ⟨⟨?_, hkept first List.mem_cons_self, henters⟩, hlisted⟩
    exact (Disk.mem_listing hwell).2 ⟨here, hlocate, hdirectory, _, hentry, rfl⟩

/-- A crawl of a disk finds the files below the root that are within reach. -/
theorem fileBelow?_of_mem_manifests {depth size : Nat} {root path : Path}
    (h : path ∈ manifests disk.list? depth size root) :
    ∃ names bytes, InReach depth names ∧ path = root.descend names
      ∧ disk.fileBelow? root names = some bytes := by
  rw [manifests, List.mem_mergeSort, mem_below] at h
  obtain ⟨directory, hdirectory, names, name, hlength, henters, hlisted, hmanifest, rfl⟩ := h
  obtain rfl := List.mem_singleton.1 hdirectory
  obtain ⟨here, hlocate⟩ := locate_of_enters hwell henters hlisted
  obtain ⟨-, bytes, hbytes⟩ := fileFrom?_of_enters hwell hlocate henters hlisted
  refine ⟨names ++ [name], bytes, ⟨names, name, rfl, by omega, ?_, hmanifest⟩, rfl, ?_⟩
  · exact kept_of_enters henters
  · rw [Disk.fileBelow?, hlocate]
    exact hbytes

/-- And it finds all of them whose path can be looked up. -/
theorem mem_manifests_of_fileBelow? {depth size : Nat} {root : Path} {names : List Bytes}
    {bytes : Bytes} (hreach : InReach depth names)
    (hfile : disk.fileBelow? root names = some bytes)
    (hcheck : Disk.check (root.descend names) = .ok ()) :
    root.descend names ∈ manifests disk.list? depth size root := by
  obtain ⟨directories, name, rfl, hlength, hkept, hmanifest⟩ := hreach
  unfold Disk.fileBelow? at hfile
  split at hfile
  · next here hlocate =>
    obtain ⟨henters, hlisted⟩ := enters_of_fileFrom? hwell hlocate hkept hfile hcheck
    rw [manifests, List.mem_mergeSort, mem_below]
    exact ⟨root, List.mem_singleton.2 rfl, directories, name, by omega, henters, hlisted, hmanifest,
      rfl⟩
  · exact absurd hfile (by simp)

theorem nodup_manifests (depth size : Nat) (root : Path) :
    (manifests disk.list? depth size root).Nodup := by
  have hlisted : ∀ directory, (((disk.list? directory).getD []).map Prod.fst).Nodup := by
    intro directory
    unfold Disk.list?
    split
    · simp
    · split
      · exact Disk.nodup_children hwell _
      · simp
  have hnames : ∀ directory, ∀ pair ∈ (disk.list? directory).getD [], Path.IsName pair.1 := by
    intro directory pair hpair
    obtain ⟨_, -, -, entry, hentry, -⟩ := (Disk.mem_listing hwell).1 hpair
    exact (hwell.isName_of_get? hentry).1
  exact (List.mergeSort_perm _ _).nodup_iff.2 (nodup_below hlisted hnames size (depth + 1) root)

/-- If there is one file below the root, and it is within reach, a crawl finds that file alone. -/
theorem manifests_eq_singleton {depth : Nat} {root : Path} {names : List Bytes} {bytes : Bytes}
    (hreach : InReach depth names) (hfile : disk.fileBelow? root names = some bytes)
    (hcheck : Disk.check (root.descend names) = .ok ())
    (honly : ∀ others found, disk.fileBelow? root others = some found → others = names)
    (size : Nat) : manifests disk.list? depth size root = [root.descend names] := by
  -- without repetitions, a list is told by its members up to order
  refine List.perm_singleton.1 ((List.perm_ext_iff_of_nodup (nodup_manifests hwell _ _ _)
    (List.nodup_singleton _)).2 fun path => ?_)
  rw [List.mem_singleton]
  constructor
  · intro hpath
    obtain ⟨others, found, -, rfl, hfound⟩ := fileBelow?_of_mem_manifests hwell hpath
    rw [honly others found hfound]
  · rintro rfl
    exact mem_manifests_of_fileBelow? hwell hreach hfile hcheck

end Disk

theorem manifests_single {name : Bytes} (hname : Path.IsName name)
    (hlength : name.length ≤ Disk.nameLimit)
    (hmanifest : Path.isManifestName (Text.decodeLossy name) = true)
    (hcheck : Disk.check (Path.top.descend [name]) = .ok ()) (bytes : Bytes) (depth size : Nat) :
    manifests (Disk.single name bytes).list? depth size .top = [Path.top.descend [name]] := by
  have hreach : InReach depth [name] :=
    ⟨[], name, rfl, Nat.zero_le _, fun _ h => absurd h List.not_mem_nil, hmanifest⟩
  refine manifests_eq_singleton (Disk.wellFormed_single hname hlength bytes) hreach
    ((Disk.fileBelow?_single _ _ _).trans (if_pos rfl)) hcheck (fun others found hfound => ?_) size
  rw [Disk.fileBelow?_single] at hfound
  by_contra hne
  rw [if_neg hne] at hfound
  exact absurd hfound (by simp)

end WorkflowNav.Crawl
