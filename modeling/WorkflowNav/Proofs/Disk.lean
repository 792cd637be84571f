/-
Files below a root.

`Disk.locate` walks a path the way an operating system does: through links, dots and doubled
slashes, with limits on the way. Below the root of a search none of that happens. A search enters
directories only, and joins names only, so a file it finds is the file that stands at the root's
place followed by those names (`fileBelow?`). This module proves that the two agree: a path below a
root leads to the place below the root's place (`locate_join`), and a directory lists exactly the
entries that stand one name below it (`mem_listing`).

`fileBelow?` does not follow links, so it says of a manifest what the search can see of it: whether
it is there as a file of the tree, and its bytes.
-/
import Mathlib.Data.List.Basic
import WorkflowNav.Disk
import WorkflowNav.Proofs.Path

set_option autoImplicit false

namespace WorkflowNav

open Text (Bytes)

namespace Disk

/-! ## Well-formed disks -/

/-- What every file system keeps: one entry to a place, and names that fit into a directory. -/
structure WellFormed (disk : Disk) : Prop where
  nodup : (disk.entries.map Prod.fst).Nodup
  isName : ∀ pair ∈ disk.entries, ∀ name ∈ pair.1, Path.IsName name
  length_le : ∀ pair ∈ disk.entries, ∀ name ∈ pair.1, name.length ≤ nameLimit

/-! ## Walking -/

theorem walk_nil (disk : Disk) (follow : Bool) (links : Nat) (here : Place) :
    disk.walk follow links here [] = .ok here := by
  rw [walk]

section Steps

variable {disk : Disk} {follow : Bool} {links : Nat} {here : Place} {piece : Bytes}
variable (hhere : disk.get? here = some .directory)

include hhere

theorem walk_dot (rest : List Bytes) :
    disk.walk follow links here (Component.dot :: rest) = disk.walk follow links here rest := by
  rw [walk]
  simp [hhere]

theorem walk_dots (rest : List Bytes) :
    disk.walk follow links here (Component.dots :: rest)
      = disk.walk follow links here.dropLast rest := by
  rw [walk]
  simp [hhere, Component.dots, Component.dot]

variable (hdot : piece ≠ Component.dot) (hdots : piece ≠ Component.dots)
variable (hlength : piece.length ≤ nameLimit)

include hdot hdots hlength

/-- A name that is there and is no link is one step down. -/
theorem walk_name {entry : Entry} (hentry : disk.get? (here ++ [piece]) = some entry)
    (hlink : ∀ target, entry ≠ .link target) (rest : List Bytes) :
    disk.walk follow links here (piece :: rest)
      = disk.walk follow links (here ++ [piece]) rest := by
  rw [walk]
  cases entry with
  | link target => exact absurd rfl (hlink target)
  | file bytes => simp [hhere, hdot, hdots, hentry, Nat.not_lt.2 hlength]
  | directory => simp [hhere, hdot, hdots, hentry, Nat.not_lt.2 hlength]

/-- A link puts its own pieces in front of those still to go. -/
theorem walk_link {target : Path} (hentry : disk.get? (here ++ [piece]) = some (.link target))
    (rest : List Bytes) :
    disk.walk true (links + 1) here (piece :: rest)
      = disk.walk true links (if target.isAbsolute then [] else here) (steps target ++ rest) := by
  rw [walk]
  simp [hhere, hdot, hdots, hentry, Nat.not_lt.2 hlength]

end Steps

/-- A walk that ended in a directory can be taken up from there. -/
theorem walk_append {disk : Disk} {links : Nat} {here middle : Place} {pieces : List Bytes}
    (hwalk : disk.walk true links here pieces = .ok middle)
    (hmiddle : disk.get? middle = some .directory) (more : List Bytes) :
    ∃ left, disk.walk true links here (pieces ++ more) = disk.walk true left middle more := by
  -- the induction follows the walk, not the pieces, because a link adds pieces
  fun_induction disk.walk true links here pieces with
  | case1 links here =>
    obtain rfl : here = middle := by simpa using hwalk
    exact ⟨links, rfl⟩
  | case3 links here rest hhere ih =>
    rw [List.cons_append, walk_dot (not_not.1 hhere)]
    exact ih hwalk
  | case4 links here rest hhere _ ih =>
    rw [List.cons_append, walk_dots (not_not.1 hhere)]
    exact ih hwalk
  | case6 links here piece rest _ _ _ _ hnone =>
    obtain rfl : here ++ [piece] = middle := by simpa using hwalk
    rw [hnone] at hmiddle
    exact absurd hmiddle (by simp)
  | case8 _ _ _ _ _ _ _ _ _ _ hnot => simp at hnot
  | case10 here piece rest hhere hdot hdots hlength target hentry _ links ih =>
    rw [List.cons_append, walk_link (not_not.1 hhere) hdot hdots (Nat.not_lt.1 hlength) hentry,
      ← List.append_assoc]
    exact ih hwalk
  | case11 links here piece rest hhere hdot hdots hlength entry hlink hentry ih =>
    have hroom := Nat.not_lt.1 hlength
    rw [List.cons_append, walk_name (not_not.1 hhere) hdot hdots hroom hentry hlink]
    exact ih hwalk
  | case2 | case5 | case7 | case9 => simp at hwalk

/-- A walk that goes on after some pieces has ended in a directory there. -/
theorem walk_of_append {disk : Disk} {links : Nat} {here place : Place} {pieces more : List Bytes}
    (hmore : more ≠ []) (hwalk : disk.walk true links here (pieces ++ more) = .ok place) :
    ∃ left middle, disk.walk true links here pieces = .ok middle
      ∧ disk.get? middle = some .directory ∧ disk.walk true left middle more = .ok place := by
  have hlonger : ∀ rest : List Bytes, (rest ++ more).isEmpty = false := by simp [hmore]
  fun_induction disk.walk true links here pieces with
  | case1 links here =>
    obtain ⟨piece, rest, rfl⟩ := List.exists_cons_of_ne_nil hmore
    refine ⟨links, here, rfl, ?_, hwalk⟩
    by_contra hhere
    rw [List.nil_append, walk] at hwalk
    simp [hhere] at hwalk
  | case3 links here rest hhere ih =>
    rw [List.cons_append, walk_dot (not_not.1 hhere)] at hwalk
    exact ih hwalk
  | case4 links here rest hhere _ ih =>
    rw [List.cons_append, walk_dots (not_not.1 hhere)] at hwalk
    exact ih hwalk
  | case8 _ _ _ _ _ _ _ _ _ _ hnot => simp at hnot
  | case10 here piece rest hhere hdot hdots hlength target hentry _ links ih =>
    rw [List.cons_append, walk_link (not_not.1 hhere) hdot hdots (Nat.not_lt.1 hlength) hentry,
      ← List.append_assoc] at hwalk
    exact ih hwalk
  | case11 links here piece rest hhere hdot hdots hlength entry hlink hentry ih =>
    rw [List.cons_append, walk_name (not_not.1 hhere) hdot hdots (Nat.not_lt.1 hlength) hentry
      hlink] at hwalk
    exact ih hwalk
  | case2 | case5 | case6 | case7 | case9 =>
    -- the walk already fails on the first piece
    rw [List.cons_append, walk] at hwalk
    grind

/-! ## From a directory to the names in it -/

theorem pieces_join (directory : Path) {name : Bytes} (h : Path.IsName name) :
    pieces (directory.join name) = pieces directory ++ [name] := by
  have hname : cut Path.slash name = [name] := cut_of_not_mem h.slash_notMem
  unfold pieces
  rcases Path.join_cases directory name with ⟨hdir, hjoin⟩ | ⟨above, hdir, hjoin⟩ | ⟨-, hjoin⟩
  · rw [hjoin, hdir, hname]
    simp [cut, h.ne_nil]
  · rw [hjoin, hdir, cut_append, cut_append, hname]
    simp [cut, h.ne_nil]
  · rw [hjoin, cut_append, hname]
    simp [h.ne_nil]

theorem isSlashed_join (directory : Path) {name : Bytes} (h : Path.IsName name) :
    isSlashed (directory.join name) = false := by
  have hlast : ∀ front : Bytes, (front ++ name).getLast? ≠ some Path.slash := by
    intro front hfront
    rw [List.getLast?_append_of_ne_nil _ h.ne_nil] at hfront
    exact h.slash_notMem (List.mem_of_getLast? hfront)
  unfold isSlashed
  rcases Path.join_cases directory name with ⟨-, hjoin⟩ | ⟨above, -, hjoin⟩ | ⟨-, hjoin⟩
  · rw [hjoin]
    simpa using hlast []
  · rw [hjoin]
    simpa using hlast (above ++ [Path.slash])
  · rw [hjoin]
    simpa using hlast (directory.bytes ++ [Path.slash])

theorem steps_join (directory : Path) {name : Bytes} (h : Path.IsName name) :
    steps (directory.join name) = pieces directory ++ [name] := by
  rw [steps, pieces_join directory h, isSlashed_join directory h]
  simp

theorem locate_eq_ok {disk : Disk} {path : Path} {place : Place} :
    disk.locate true path = .ok place
      ↔ check path = .ok () ∧ disk.walk true linkLimit [] (steps path) = .ok place := by
  unfold locate
  cases check path with
  | error error => simp [bind, Except.bind]
  | ok u => simp [bind, Except.bind]

/-- A path is reached by its pieces alone: a slash at the end only asks for a directory. -/
theorem walk_pieces {disk : Disk} {path : Path} {place : Place}
    (hlocate : disk.locate true path = .ok place) :
    disk.walk true linkLimit [] (pieces path) = .ok place := by
  obtain ⟨-, hwalk⟩ := locate_eq_ok.1 hlocate
  unfold steps at hwalk
  split at hwalk
  · obtain ⟨left, middle, hpieces, hmiddle, hdot⟩ := walk_of_append (by simp) hwalk
    rw [walk_dot hmiddle, walk_nil] at hdot
    rw [hpieces, hdot]
  · simpa using hwalk

/-- **One name down.** A name in a directory leads to the place one name below the directory's,
provided the path is not too long to look up. -/
theorem locate_join {disk : Disk} {directory : Path} {here : Place} {name : Bytes} {entry : Entry}
    (hlocate : disk.locate true directory = .ok here)
    (hhere : disk.get? here = some .directory) (hname : Path.IsName name)
    (hlength : name.length ≤ nameLimit) (hentry : disk.get? (here ++ [name]) = some entry)
    (hlink : ∀ target, entry ≠ .link target) (hcheck : check (directory.join name) = .ok ()) :
    disk.locate true (directory.join name) = .ok (here ++ [name]) := by
  obtain ⟨left, happend⟩ := walk_append (walk_pieces hlocate) hhere [name]
  rw [locate_eq_ok, steps_join directory hname, happend,
    walk_name hhere hname.ne_dot hname.ne_dots hlength hentry hlink, walk_nil]
  exact ⟨hcheck, rfl⟩

theorem check_eq_ok {path : Path} :
    check path = .ok ()
      ↔ 0 ∉ path.bytes ∧ path.bytes.length ≤ pathLimit ∧ path.isAbsolute = true := by
  simp only [check, List.contains_iff_mem, Bool.not_eq_true']
  split_ifs with hnul hlong hrelative
  · exact ⟨nofun, fun h => absurd hnul h.1⟩
  · exact ⟨nofun, fun h => absurd hlong (Nat.not_lt.2 h.2.1)⟩
  · exact ⟨nofun, fun h => absurd (h.2.2.symm.trans hrelative) (by decide)⟩
  · exact ⟨fun _ => ⟨hnul, Nat.not_lt.1 hlong, Bool.not_eq_false _ ▸ hrelative⟩, fun _ => rfl⟩

/-- A path that can be looked up can be looked up without its last name. -/
theorem check_of_check_join {directory : Path} {name : Bytes} (hname : Path.IsName name)
    (hcheck : check (directory.join name) = .ok ()) : check directory = .ok () := by
  rw [check_eq_ok] at *
  obtain ⟨hnul, hlength, habsolute⟩ := hcheck
  have hpre := directory.bytes_isPrefix_join name
  refine ⟨fun hmem => hnul (hpre.subset hmem), Nat.le_trans hpre.length_le hlength, ?_⟩
  unfold Path.isAbsolute at *
  obtain ⟨more, hmore⟩ := hpre
  cases hbytes : directory.bytes with
  | cons b rest =>
    rw [← hmore, hbytes] at habsolute
    exact habsolute
  | nil =>
    -- below the empty path stands the bare name, and that does not start at the root
    have hjoin : (directory.join name).bytes = name := by simp [Path.join, hbytes]
    rw [hjoin] at habsolute
    exact absurd (List.mem_of_head? (beq_iff_eq.1 habsolute)) hname.slash_notMem

/-! ## What a directory lists -/

/-- What stands below a place is what is entered there. -/
theorem get?_concat (disk : Disk) (place : Place) (name : Bytes) :
    disk.get? (place ++ [name]) = Keyed.get? (place ++ [name]) disk.entries := by
  simp [get?]

theorem mem_children {disk : Disk} {place : Place} {name : Bytes} {kind : EntryKind} :
    (name, kind) ∈ disk.children place
      ↔ ∃ entry, (place ++ [name], entry) ∈ disk.entries ∧ entry.kind = kind := by
  unfold children
  rw [List.mem_filterMap]
  constructor
  · rintro ⟨⟨other, entry⟩, hmem, hsome⟩
    dsimp only at hsome
    split at hsome
    · next found hpre =>
      obtain ⟨rfl, rfl⟩ : found = name ∧ entry.kind = kind := by simpa using hsome
      rw [List.isPrefixOf?_eq_some_iff_append_eq] at hpre
      exact ⟨entry, hpre ▸ hmem, rfl⟩
    · exact absurd hsome (by simp)
  · rintro ⟨entry, hmem, rfl⟩
    have hpre : place.isPrefixOf? (place ++ [name]) = some [name] :=
      List.isPrefixOf?_eq_some_iff_append_eq.2 rfl
    exact ⟨_, hmem, by simp only [hpre]⟩

/-- A directory lists a name once, since an entry stands at one place. -/
theorem nodup_children {disk : Disk} (hwell : disk.WellFormed) (place : Place) :
    ((disk.children place).map Prod.fst).Nodup := by
  have hentries : disk.entries.Pairwise fun a b => a.1 ≠ b.1 := List.pairwise_map.1 hwell.nodup
  unfold children
  rw [List.Nodup, List.pairwise_map, List.pairwise_filterMap]
  refine hentries.imp ?_
  rintro ⟨one, first⟩ ⟨two, second⟩ hne a ha b hb heq
  dsimp only at ha hb hne
  split at ha <;> split at hb <;> simp only [Option.some.injEq, reduceCtorEq] at ha hb
  next _ name hone _ other htwo =>
    rw [List.isPrefixOf?_eq_some_iff_append_eq] at hone htwo
    rw [← ha, ← hb] at heq
    exact hne (by rw [← hone, ← htwo, show name = other from heq])

/-- What a directory lists: the entries that stand one name below it. -/
theorem mem_listing {disk : Disk} (hwell : disk.WellFormed) {path : Path} {name : Bytes}
    {kind : EntryKind} :
    (name, kind) ∈ (disk.list? path).getD []
      ↔ ∃ place, disk.locate true path = .ok place ∧ disk.get? place = some .directory
        ∧ ∃ entry, disk.get? (place ++ [name]) = some entry ∧ entry.kind = kind := by
  unfold list?
  cases hlocate : disk.locate true path with
  | error error => simp
  | ok place =>
    dsimp only
    have hiff : (∃ entry, disk.get? (place ++ [name]) = some entry ∧ entry.kind = kind)
        ↔ (name, kind) ∈ disk.children place := by
      rw [mem_children]
      refine exists_congr fun entry => and_congr_left fun _ => ?_
      rw [get?_concat]
      exact ⟨Keyed.mem_of_get?, Keyed.get?_of_mem hwell.nodup⟩
    split
    · next hplace =>
      simp only [Option.getD_some, Except.ok.injEq]
      constructor
      · intro hmem
        exact ⟨place, rfl, hplace, hiff.2 hmem⟩
      · rintro ⟨_, rfl, -, hentry⟩
        exact hiff.1 hentry
    · next hplace =>
      simp only [Option.getD_none, List.not_mem_nil, Except.ok.injEq, false_iff]
      rintro ⟨_, rfl, hdirectory, -⟩
      exact hplace hdirectory

/-- The names a directory lists are names. -/
theorem WellFormed.isName_of_get? {disk : Disk} (hwell : disk.WellFormed) {place : Place}
    {name : Bytes} {entry : Entry} (h : disk.get? (place ++ [name]) = some entry) :
    Path.IsName name ∧ name.length ≤ nameLimit := by
  rw [get?_concat] at h
  have hmem := Keyed.mem_of_get? h
  exact ⟨hwell.isName _ hmem name (by simp), hwell.length_le _ hmem name (by simp)⟩

/-! ## Files below a root -/

/-- The bytes of the file that names lead to from a place, through directories only. -/
def fileFrom? (disk : Disk) (here : Place) : Place → Option Bytes
  | [] =>
    match disk.get? here with
    | some (.file bytes) => some bytes
    | _ => none
  | name :: rest =>
    if disk.get? here = some .directory then fileFrom? disk (here ++ [name]) rest else none

/-- The bytes of the file that names lead to from a root, through directories only. -/
def fileBelow? (disk : Disk) (root : Path) (names : Place) : Option Bytes :=
  match disk.locate true root with
  | .ok place => disk.fileFrom? place names
  | .error _ => none

theorem fileFrom?_cons {disk : Disk} {here : Place} {name : Bytes} {rest : Place} {bytes : Bytes} :
    disk.fileFrom? here (name :: rest) = some bytes
      ↔ disk.get? here = some .directory ∧ disk.fileFrom? (here ++ [name]) rest = some bytes := by
  rw [fileFrom?]
  split <;> simp_all

theorem fileFrom?_nil {disk : Disk} {here : Place} {bytes : Bytes} :
    disk.fileFrom? here [] = some bytes ↔ disk.get? here = some (.file bytes) := by
  rw [fileFrom?]
  split <;> simp_all

/-- The file that names lead to stands at the place of these names. -/
theorem get?_of_fileFrom? {disk : Disk} {here names : Place} {bytes : Bytes}
    (h : disk.fileFrom? here names = some bytes) :
    disk.get? (here ++ names) = some (.file bytes) := by
  induction names generalizing here with
  | nil => rw [List.append_nil, fileFrom?_nil.1 h]
  | cons name names ih =>
    have hentry := ih (fileFrom?_cons.1 h).2
    rwa [List.append_assoc, List.singleton_append] at hentry

/-- What stands under the first of the names that lead to a file is no link. -/
theorem exists_of_fileFrom? {disk : Disk} {here : Place} {names : Place} {bytes : Bytes}
    (h : disk.fileFrom? here names = some bytes) :
    ∃ entry, disk.get? here = some entry ∧ ∀ target, entry ≠ .link target := by
  cases names with
  | nil => exact ⟨_, fileFrom?_nil.1 h, by simp⟩
  | cons name rest => exact ⟨_, (fileFrom?_cons.1 h).1, by simp⟩

theorem WellFormed.isName_of_fileFrom? {disk : Disk} (hwell : disk.WellFormed) {here names : Place}
    {bytes : Bytes} (h : disk.fileFrom? here names = some bytes) :
    ∀ name ∈ names, Path.IsName name := by
  induction names generalizing here with
  | nil => simp
  | cons name rest ih =>
    obtain ⟨-, hrest⟩ := fileFrom?_cons.1 h
    obtain ⟨entry, hentry, -⟩ := exists_of_fileFrom? hrest
    intro other hother
    rcases List.mem_cons.1 hother with rfl | hother
    · exact (hwell.isName_of_get? hentry).1
    · exact ih hrest other hother

theorem check_of_check_descend {directory : Path} {names : List Bytes}
    (hnames : ∀ name ∈ names, Path.IsName name)
    (hcheck : check (directory.descend names) = .ok ()) : check directory = .ok () := by
  induction names generalizing directory with
  | nil => exact hcheck
  | cons name names ih =>
    have hjoin := ih (fun other hother => hnames other (List.mem_cons_of_mem _ hother)) hcheck
    exact check_of_check_join (hnames name List.mem_cons_self) hjoin

theorem read_of_locate {disk : Disk} {path : Path} {place : Place} {bytes : Bytes}
    (hlocate : disk.locate true path = .ok place) (hplace : disk.get? place = some (.file bytes)) :
    disk.read path = .ok bytes := by
  unfold read
  rw [hlocate]
  simp only [bind, Except.bind, hplace]
  rfl

/-- A file below a directory is read under its path, provided that can be looked up. -/
theorem read_descend {disk : Disk} (hwell : disk.WellFormed) {directory : Path}
    {here names : Place} {bytes : Bytes} (hlocate : disk.locate true directory = .ok here)
    (hfile : disk.fileFrom? here names = some bytes)
    (hcheck : check (directory.descend names) = .ok ()) :
    disk.read (directory.descend names) = .ok bytes := by
  induction names generalizing directory here with
  | nil => exact read_of_locate hlocate (fileFrom?_nil.1 hfile)
  | cons name rest ih =>
    obtain ⟨hhere, hrest⟩ := fileFrom?_cons.1 hfile
    obtain ⟨entry, hentry, hlink⟩ := exists_of_fileFrom? hrest
    obtain ⟨hname, hlength⟩ := hwell.isName_of_get? hentry
    have hjoin := check_of_check_descend (hwell.isName_of_fileFrom? hrest) hcheck
    exact ih (locate_join hlocate hhere hname hlength hentry hlink hjoin) hrest hcheck

theorem fileBelow?_eq_some {disk : Disk} {root : Path} {names : Place} {bytes : Bytes} :
    disk.fileBelow? root names = some bytes
      ↔ ∃ place, disk.locate true root = .ok place ∧ disk.fileFrom? place names = some bytes := by
  unfold fileBelow?
  cases disk.locate true root <;> simp

theorem WellFormed.isName_of_fileBelow? {disk : Disk} (hwell : disk.WellFormed) {root : Path}
    {names : Place} {bytes : Bytes} (h : disk.fileBelow? root names = some bytes) :
    ∀ name ∈ names, Path.IsName name := by
  obtain ⟨_, -, hfile⟩ := fileBelow?_eq_some.1 h
  exact hwell.isName_of_fileFrom? hfile

theorem check_of_read {disk : Disk} {path : Path} {bytes : Bytes}
    (h : disk.read path = .ok bytes) : check path = .ok () := by
  unfold read at h
  cases hlocate : disk.locate true path with
  | ok place => exact (locate_eq_ok.1 hlocate).1
  | error error =>
    rw [hlocate] at h
    exact absurd h (by simp [bind, Except.bind])

/-- A file below a root is read under its path exactly if that can be looked up. -/
theorem read_eq_ok_iff {disk : Disk} (hwell : disk.WellFormed) {root : Path} {names : Place}
    {bytes : Bytes} (hfile : disk.fileBelow? root names = some bytes) {found : Bytes} :
    disk.read (root.descend names) = .ok found
      ↔ found = bytes ∧ check (root.descend names) = .ok () := by
  obtain ⟨place, hlocate, hfrom⟩ := fileBelow?_eq_some.1 hfile
  constructor
  · intro hread
    have hcheck := check_of_read hread
    rw [read_descend hwell hlocate hfrom hcheck] at hread
    exact ⟨(Except.ok.inj hread).symm, hcheck⟩
  · rintro ⟨rfl, hcheck⟩
    exact read_descend hwell hlocate hfrom hcheck

/-! ## A disk with one file -/

/-- A disk with one file, at its top. -/
def single (name bytes : Bytes) : Disk := { entries := [([name], .file bytes)] }

theorem wellFormed_single {name : Bytes} (h : Path.IsName name) (hlength : name.length ≤ nameLimit)
    (bytes : Bytes) : (single name bytes).WellFormed where
  nodup := by simp [single]
  isName := by simpa [single] using h
  length_le := by simpa [single] using hlength

theorem locate_top (disk : Disk) : disk.locate true .top = .ok [] := by
  refine locate_eq_ok.2 ⟨by decide, ?_⟩
  have hsteps : steps .top = [Component.dot] := by decide
  rw [hsteps, walk_dot rfl, walk_nil]

theorem fileBelow?_single (name bytes : Bytes) (names : Place) :
    (single name bytes).fileBelow? .top names = if names = [name] then some bytes else none := by
  rw [fileBelow?, locate_top]
  dsimp only
  match names with
  | [] => simp [fileFrom?, get?]
  | [other] =>
    by_cases h : name = other
    · simp [fileFrom?, get?, single, Keyed.get?, h]
    · simp [fileFrom?, get?, single, Keyed.get?, h, Ne.symm h]
  | other :: another :: rest =>
    by_cases h : name = other <;> simp [fileFrom?, get?, single, Keyed.get?, h]

end Disk

end WorkflowNav
