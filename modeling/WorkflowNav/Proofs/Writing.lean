/-
Writing into an empty directory.

A directory is filled by making directories in it and writing files into those. Each step puts one
entry on the disk, one name below a directory that is already there, and nothing else changes. So
what stands below the directory is exactly what was put there (`Grown`), and paths that led
somewhere before still lead there, because no entry was taken away (`locate_of_extends`).

A step goes through exactly if its path can be looked up and its name is not too long
(`makeDirectory_join`, `writeFile_join`), so filling goes through if that holds of all of them
(`Grown.exists_writeAll`).
-/
import WorkflowNav.Proofs.Cache
import WorkflowNav.Proofs.Disk

set_option autoImplicit false

namespace WorkflowNav

open Text (Bytes)

namespace Disk

/-! ## Disks that hold more -/

/-- Whatever stands on one disk stands on the other. -/
def Extends (one two : Disk) : Prop :=
  ∀ place entry, one.get? place = some entry → two.get? place = some entry

theorem get?_put_self (disk : Disk) (place : Place) (name : Bytes) (entry : Entry) :
    (disk.put (place ++ [name]) entry).get? (place ++ [name]) = some entry := by
  rw [get?_concat]
  exact Keyed.get?_put_self _ _ _

theorem get?_put_of_ne (disk : Disk) {place other : Place} (h : other ≠ place) (entry : Entry) :
    (disk.put place entry).get? other = disk.get? other := by
  unfold get? put
  split
  · rfl
  · exact Keyed.get?_put_of_ne h _ _

theorem extends_put {disk : Disk} {place : Place} (hfree : disk.get? place = none) (entry : Entry) :
    Extends disk (disk.put place entry) := by
  intro other found hfound
  have hne : other ≠ place := by
    rintro rfl
    rw [hfree] at hfound
    exact absurd hfound (by simp)
  rw [get?_put_of_ne disk hne, hfound]

/-- A walk to a directory looks at entries only, so it goes the same way where there are more. -/
theorem walk_of_extends {one two : Disk} (hextends : Extends one two) {links : Nat}
    {here place : Place} {pieces : List Bytes}
    (hwalk : one.walk true links here pieces = .ok place)
    (hplace : one.get? place = some .directory) :
    two.walk true links here pieces = .ok place := by
  fun_induction one.walk true links here pieces with
  | case1 links here => rw [walk_nil, hwalk]
  | case3 links here rest hhere ih =>
    rw [walk_dot (hextends _ _ (not_not.1 hhere))]
    exact ih hwalk
  | case4 links here rest hhere _ ih =>
    rw [walk_dots (hextends _ _ (not_not.1 hhere))]
    exact ih hwalk
  | case6 links here piece rest _ _ _ _ hnone =>
    -- the last piece is missing, so it is no directory
    obtain rfl : here ++ [piece] = place := by simpa using hwalk
    rw [hnone] at hplace
    exact absurd hplace (by simp)
  | case8 _ _ _ _ _ _ _ _ _ _ hnot => simp at hnot
  | case10 here piece rest hhere hdot hdots hlength target hentry _ links ih =>
    rw [walk_link (hextends _ _ (not_not.1 hhere)) hdot hdots (Nat.not_lt.1 hlength)
      (hextends _ _ hentry)]
    exact ih hwalk
  | case11 links here piece rest hhere hdot hdots hlength entry hlink hentry ih =>
    rw [walk_name (hextends _ _ (not_not.1 hhere)) hdot hdots (Nat.not_lt.1 hlength)
      (hextends _ _ hentry) hlink]
    exact ih hwalk
  | case2 | case5 | case7 | case9 => simp at hwalk

theorem locate_of_extends {one two : Disk} (hextends : Extends one two) {path : Path}
    {place : Place} (hlocate : one.locate true path = .ok place)
    (hplace : one.get? place = some .directory) : two.locate true path = .ok place := by
  obtain ⟨hcheck, hwalk⟩ := locate_eq_ok.1 hlocate
  exact locate_eq_ok.2 ⟨hcheck, walk_of_extends hextends hwalk hplace⟩

/-- The names on the way to an entry are names. -/
theorem WellFormed.names_of_get? {disk : Disk} (hwell : disk.WellFormed) {place : Place}
    {entry : Entry} (h : disk.get? place = some entry) :
    ∀ name ∈ place, Path.IsName name ∧ name.length ≤ nameLimit := by
  intro name hname
  have hne : place ≠ [] := List.ne_nil_of_mem hname
  rw [get?, if_neg hne] at h
  have hmem := Keyed.mem_of_get? h
  exact ⟨hwell.isName _ hmem name hname, hwell.length_le _ hmem name hname⟩

theorem WellFormed.put {disk : Disk} (hwell : disk.WellFormed) {place : Place}
    (hnames : ∀ name ∈ place, Path.IsName name ∧ name.length ≤ nameLimit) (entry : Entry) :
    (disk.put place entry).WellFormed where
  nodup := Keyed.nodup_put hwell.nodup
  isName pair hpair name hname := by
    rcases Keyed.mem_put.1 hpair with rfl | ⟨hpair, -⟩
    · exact (hnames name hname).1
    · exact hwell.isName pair hpair name hname
  length_le pair hpair name hname := by
    rcases Keyed.mem_put.1 hpair with rfl | ⟨hpair, -⟩
    · exact (hnames name hname).2
    · exact hwell.length_le pair hpair name hname

/-! ## One step -/

theorem Attempt.done?_eq_some {attempt : Attempt} {disk : Disk} :
    attempt.done? = some disk ↔ attempt.error = none ∧ attempt.disk = disk := by
  unfold done?
  cases attempt.error <;> simp

section Step

variable {disk written : Disk} {directory path : Path} {here : Place} {name bytes : Bytes}

theorem check_of_writeFile (h : (disk.writeFile path bytes).done? = some written) :
    check path = .ok () := by
  unfold writeFile at h
  split at h
  · exact absurd (Attempt.done?_eq_some.1 h).1 (by simp [fail])
  · next place hlocate => exact (locate_eq_ok.1 hlocate).1

theorem check_of_vacancy {place : Place} (h : disk.vacancy path = .ok place) :
    check path = .ok () := by
  unfold vacancy parent at h
  cases hcheck : check path with
  | ok u => rfl
  | error error =>
    rw [hcheck] at h
    exact absurd h (by simp [bind, Except.bind])

theorem check_of_makeMissing (h : (disk.makeMissing path).done? = some written) :
    check path = .ok () := by
  cases hvacancy : disk.vacancy path with
  | ok place => exact check_of_vacancy hvacancy
  | error error =>
    have hone : disk.makeOne path = disk.fail error := by rw [makeOne, hvacancy]
    rw [makeMissing, hone] at h
    split at h
    · next hdirectory =>
      -- what is a directory has been looked up
      have his : disk.isDirectory path = true := (Bool.and_eq_true_iff.1 hdirectory).2
      unfold isDirectory at his
      split at his
      · next place hlocate => exact (locate_eq_ok.1 hlocate).1
      · exact absurd his (by decide)
    · exact absurd (Attempt.done?_eq_some.1 h).1 (by simp [fail])

theorem check_of_makeDirectory (h : (disk.makeDirectory path).done? = some written) :
    check path = .ok () := by
  rw [makeDirectory, makeAll] at h
  split at h
  · unfold Attempt.andThen at h
    split at h
    · next herror => exact absurd ((Attempt.done?_eq_some.1 h).1.symm.trans herror) (by simp)
    · exact check_of_makeMissing h
  · exact check_of_makeMissing h

variable (hlocate : disk.locate true directory = .ok here)
variable (hhere : disk.get? here = some .directory) (hname : Path.IsName name)
variable (hfree : disk.get? (here ++ [name]) = none)

include hlocate hhere hname hfree

/-- Making a directory that is not there puts it there, if its path can be looked up. -/
theorem makeDirectory_join (hlength : name.length ≤ nameLimit) :
    (disk.makeDirectory (directory.join name)).done? = some written
      ↔ check (directory.join name) = .ok () ∧ written = disk.put (here ++ [name]) .directory := by
  have hmade : check (directory.join name) = .ok () →
      disk.makeDirectory (directory.join name)
        = { disk := disk.put (here ++ [name]) .directory } := by
    intro hcheck
    have hparent : disk.parent (directory.join name) = .ok (here, name) := by
      rw [parent, hcheck, pieces_join directory hname]
      simp only [bind, Except.bind, List.getLast?_concat, List.dropLast_concat,
        walk_pieces hlocate, hhere]
      rfl
    have hvacancy : disk.vacancy (directory.join name) = .ok (here ++ [name]) := by
      rw [vacancy, hparent]
      simp only [bind, Except.bind, hname.ne_dot, hname.ne_dots, or_self, Nat.not_lt.2 hlength,
        hfree, if_false, Option.isSome_none, Bool.false_eq_true]
      rfl
    -- the directory above is there, so the first attempt works and none above is made
    have hone : disk.makeOne (directory.join name)
        = { disk := disk.put (here ++ [name]) .directory } := by rw [makeOne, hvacancy]
    rw [makeDirectory, makeAll, hone, if_neg (by simp), makeMissing, hone]
    rfl
  constructor
  · intro h
    have hcheck := check_of_makeDirectory h
    rw [hmade hcheck] at h
    exact ⟨hcheck, (Attempt.done?_eq_some.1 h).2.symm⟩
  · rintro ⟨hcheck, rfl⟩
    rw [hmade hcheck]
    rfl

/-- Writing a file that is not there puts it there, if its path can be looked up and its name is not
too long. -/
theorem writeFile_join :
    (disk.writeFile (directory.join name) bytes).done? = some written
      ↔ check (directory.join name) = .ok () ∧ name.length ≤ nameLimit
        ∧ written = disk.put (here ++ [name]) (.file bytes) := by
  -- a path to write to may end in a name that is not there yet
  have hlast : check (directory.join name) = .ok () → disk.locate true (directory.join name)
      = if nameLimit < name.length then .error .nameTooLong else .ok (here ++ [name]) := by
    intro hcheck
    obtain ⟨left, hwalk⟩ := walk_append (walk_pieces hlocate) hhere [name]
    unfold locate
    rw [hcheck, steps_join directory hname, hwalk, walk]
    simp [bind, Except.bind, hhere, hname.ne_dot, hname.ne_dots, hfree]
  constructor
  · intro h
    have hcheck := check_of_writeFile h
    by_cases hlong : nameLimit < name.length
    · rw [writeFile, hlast hcheck, if_pos hlong] at h
      exact absurd (Attempt.done?_eq_some.1 h).1 (by simp [fail])
    · rw [writeFile, hlast hcheck, if_neg hlong] at h
      dsimp only at h
      rw [hfree, if_neg (by simp)] at h
      exact ⟨hcheck, Nat.not_lt.1 hlong, (Attempt.done?_eq_some.1 h).2.symm⟩
  · rintro ⟨hcheck, hlength, rfl⟩
    rw [writeFile, hlast hcheck, if_neg (Nat.not_lt.2 hlength)]
    dsimp only
    rw [hfree, if_neg (by simp)]
    rfl

end Step

/-! ## Filling a directory -/

/-- A disk that has grown below a place: it still holds all it held, and below the place stands
exactly what was added. -/
structure Grown (start : Disk) (place : Place) (added : List (Place × Entry)) (disk : Disk) :
    Prop where
  wellFormed : disk.WellFormed
  keeps : Extends start disk
  get?_iff : ∀ names entry, names ≠ [] →
    (disk.get? (place ++ names) = some entry ↔ (names, entry) ∈ added)

/-- An empty directory: a path leads to it, and nothing stands below it. -/
structure IsEmptyAt (disk : Disk) (root : Path) (place : Place) : Prop where
  locate : disk.locate true root = .ok place
  isDirectory : disk.get? place = some .directory
  empty : ∀ names, names ≠ [] → disk.get? (place ++ names) = none

section Grown

variable {start disk written : Disk} {root : Path} {place : Place} {added : List (Place × Entry)}

theorem IsEmptyAt.grown (h : start.IsEmptyAt root place) (hwell : start.WellFormed) :
    Grown start place [] start where
  wellFormed := hwell
  keeps _ _ hget := hget
  get?_iff names entry hne := by simp [h.empty names hne]

theorem Grown.locate (hgrown : Grown start place added disk) (hstart : start.IsEmptyAt root place) :
    disk.locate true root = .ok place :=
  locate_of_extends hgrown.keeps hstart.locate hstart.isDirectory

theorem Grown.isDirectory (hgrown : Grown start place added disk)
    (hstart : start.IsEmptyAt root place) : disk.get? place = some .directory :=
  hgrown.keeps _ _ hstart.isDirectory

/-- What was not added is not there. -/
theorem Grown.get?_eq_none (hgrown : Grown start place added disk) {names : Place}
    (hne : names ≠ []) (hfresh : ∀ entry, (names, entry) ∉ added) :
    disk.get? (place ++ names) = none := by
  rw [Option.eq_none_iff_forall_not_mem]
  intro entry hentry
  exact hfresh entry ((hgrown.get?_iff names entry hne).1 hentry)

/-- One entry more, one name below a directory that is there. -/
theorem Grown.put (hgrown : Grown start place added disk) {names : Place} {name : Bytes}
    (hdirectory : disk.get? (place ++ names) = some .directory) (hname : Path.IsName name)
    (hlength : name.length ≤ nameLimit) (hfresh : ∀ entry, (names ++ [name], entry) ∉ added)
    (entry : Entry) :
    Grown start place ((names ++ [name], entry) :: added)
      (disk.put (place ++ names ++ [name]) entry) where
  wellFormed := by
    refine hgrown.wellFormed.put (fun other hother => ?_) entry
    rcases List.mem_append.1 hother with hother | hother
    · exact hgrown.wellFormed.names_of_get? hdirectory other hother
    · rw [List.mem_singleton.1 hother]
      exact ⟨hname, hlength⟩
  keeps other found hfound := by
    have hfree := hgrown.get?_eq_none (by simp) hfresh
    rw [← List.append_assoc] at hfree
    exact extends_put hfree entry _ _ (hgrown.keeps _ _ hfound)
  get?_iff others found hne := by
    rw [List.append_assoc]
    by_cases heq : others = names ++ [name]
    · subst heq
      rw [← List.append_assoc, get?_put_self, List.mem_cons]
      constructor
      · intro hfound
        exact .inl (by rw [Option.some.inj hfound])
      · rintro (hpair | hmem)
        · rw [(Prod.mk.inj hpair).2]
        · exact absurd hmem (hfresh found)
    · have hplace : place ++ others ≠ place ++ (names ++ [name]) := fun h =>
        heq (List.append_cancel_left h)
      rw [get?_put_of_ne disk hplace, hgrown.get?_iff others found hne, List.mem_cons,
        Prod.mk.injEq]
      simp [heq]

section Step

variable (hgrown : Grown start place added disk) (hstart : start.IsEmptyAt root place)

include hgrown hstart

/-- Making a directory in the directory that is being filled. -/
theorem Grown.makeDirectory_iff {name : Bytes} (hname : Path.IsName name)
    (hlength : name.length ≤ nameLimit) (hfresh : ∀ entry, ([name], entry) ∉ added) :
    (disk.makeDirectory (root.join name)).done? = some written
      ↔ check (root.join name) = .ok () ∧ written = disk.put (place ++ [name]) .directory :=
  makeDirectory_join (hgrown.locate hstart) (hgrown.isDirectory hstart) hname
    (hgrown.get?_eq_none (by simp) hfresh) hlength

theorem Grown.makeDirectory {name : Bytes} (hname : Path.IsName name)
    (hlength : name.length ≤ nameLimit) (hfresh : ∀ entry, ([name], entry) ∉ added)
    (h : (disk.makeDirectory (root.join name)).done? = some written) :
    Grown start place (([name], .directory) :: added) written := by
  obtain ⟨-, rfl⟩ := (hgrown.makeDirectory_iff hstart hname hlength hfresh).1 h
  have hbelow : disk.get? (place ++ []) = some .directory := by
    rw [List.append_nil, hgrown.isDirectory hstart]
  have hput := hgrown.put hbelow hname hlength hfresh .directory
  rwa [List.append_nil] at hput

variable {inner name bytes : Bytes} (hinner : ([inner], .directory) ∈ added)
variable (hname : Path.IsName name) (hfresh : ∀ entry, ([inner, name], entry) ∉ added)

include hinner hname hfresh

/-- Writing a file in a directory of the one that is being filled. -/
theorem Grown.writeFile_iff :
    (disk.writeFile (root.descend [inner, name]) bytes).done? = some written
      ↔ check (root.descend [inner, name]) = .ok () ∧ name.length ≤ nameLimit
        ∧ written = disk.put (place ++ [inner] ++ [name]) (.file bytes) := by
  have hentry : disk.get? (place ++ [inner]) = some .directory :=
    (hgrown.get?_iff _ _ (by simp)).2 hinner
  have hfree : disk.get? (place ++ [inner] ++ [name]) = none := by
    rw [List.append_assoc]
    exact hgrown.get?_eq_none (by simp) hfresh
  have hlocate : check (root.descend [inner, name]) = .ok () →
      disk.locate true (root.join inner) = .ok (place ++ [inner]) := by
    intro hcheck
    obtain ⟨hisName, hlength⟩ := hgrown.wellFormed.isName_of_get? hentry
    exact locate_join (hgrown.locate hstart) (hgrown.isDirectory hstart) hisName hlength hentry
      (by simp) (check_of_check_join hname hcheck)
  constructor
  · intro h
    exact (writeFile_join (hlocate (check_of_writeFile h)) hentry hname hfree).1 h
  · intro h
    exact (writeFile_join (hlocate h.1) hentry hname hfree).2 h

theorem Grown.writeFile
    (h : (disk.writeFile (root.descend [inner, name]) bytes).done? = some written) :
    Grown start place (([inner, name], .file bytes) :: added) written := by
  obtain ⟨-, hlength, rfl⟩ := (hgrown.writeFile_iff hstart hinner hname hfresh).1 h
  exact hgrown.put ((hgrown.get?_iff _ _ (by simp)).2 hinner) hname hlength hfresh (.file bytes)

end Step

/-- The entry of a file that was written as a text. -/
def textEntry (file : Place × Text) : Place × Entry := (file.1, .file (Text.encode file.2))

/-- Files to be written: each in a directory that is there, none of them there yet, none twice. -/
structure Fit (added : List (Place × Entry)) (files : List (Place × Text)) : Prop where
  inner : ∀ file ∈ files, ∃ inner name, file.1 = [inner, name] ∧ ([inner], .directory) ∈ added
    ∧ Path.IsName name
  fresh : ∀ file ∈ files, ∀ entry, (file.1, entry) ∉ added
  nodup : (files.map Prod.fst).Nodup

/-- After the first file is written, the others still have a place. -/
theorem Fit.tail {file : Place × Text} {files : List (Place × Text)}
    (h : Fit added (file :: files)) : Fit (textEntry file :: added) files where
  inner other hother := by
    obtain ⟨inner, name, hplace, hinner, hname⟩ := h.inner other (List.mem_cons_of_mem _ hother)
    exact ⟨inner, name, hplace, List.mem_cons_of_mem _ hinner, hname⟩
  fresh other hother entry hmem := by
    have hnodup := h.nodup
    rw [List.map_cons, List.nodup_cons] at hnodup
    rcases List.mem_cons.1 hmem with heq | hmem
    · exact hnodup.1 (List.mem_map.2 ⟨other, hother, (Prod.mk.inj heq).1⟩)
    · exact h.fresh other (List.mem_cons_of_mem _ hother) entry hmem
  nodup := (List.nodup_cons.1 h.nodup).2

/-- Write files below a root, one after the other. -/
def writeAll? (disk : Disk) (root : Path) (files : List (Place × Text)) : Option Disk :=
  (files.map fun file => (root.descend file.1, file.2)).foldlM
    (fun disk (path, text) => (disk.writeFile path (Text.encode text)).done?) disk

theorem writeAll?_cons (disk : Disk) (root : Path) (file : Place × Text)
    (files : List (Place × Text)) :
    disk.writeAll? root (file :: files)
      = (disk.writeFile (root.descend file.1) (Text.encode file.2)).done?.bind
          fun next => next.writeAll? root files := rfl

section Files

variable {files : List (Place × Text)}

/-- **Filling directories.** Files that were written one after the other all stand there in the end,
and their paths can be looked up. -/
theorem Grown.writeAll (hgrown : Grown start place added disk)
    (hstart : start.IsEmptyAt root place) (hfit : Fit added files)
    (h : disk.writeAll? root files = some written) :
    Grown start place ((files.map textEntry).reverse ++ added) written
      ∧ ∀ file ∈ files, check (root.descend file.1) = .ok () := by
  -- over the files, with what was added before: each adds its entry, and the others still fit
  induction files generalizing added disk with
  | nil =>
    obtain rfl : disk = written := Option.some.inj h
    exact ⟨hgrown, nofun⟩
  | cons file files ih =>
    rw [writeAll?_cons] at h
    obtain ⟨next, hnext, h⟩ := Option.bind_eq_some_iff.1 h
    obtain ⟨inner, name, hplace, hinner, hname⟩ := hfit.inner file List.mem_cons_self
    have hfresh := hfit.fresh file List.mem_cons_self
    have hcheck := check_of_writeFile hnext
    have hone : Grown start place (textEntry file :: added) next := by
      rw [hplace] at hnext hfresh
      have hstep := hgrown.writeFile hstart hinner hname hfresh hnext
      rwa [← hplace] at hstep
    obtain ⟨hrest, hchecks⟩ := ih hone hfit.tail h
    refine ⟨?_, List.forall_mem_cons.2 ⟨hcheck, hchecks⟩⟩
    rwa [List.map_cons, List.reverse_cons, List.append_assoc, List.singleton_append]

/-- Writing goes through if all paths can be looked up and no name is too long. -/
theorem Grown.exists_writeAll (hgrown : Grown start place added disk)
    (hstart : start.IsEmptyAt root place) (hfit : Fit added files)
    (hchecks : ∀ file ∈ files, check (root.descend file.1) = .ok ())
    (hlengths : ∀ file ∈ files, ∀ name ∈ file.1, name.length ≤ nameLimit) :
    ∃ written, disk.writeAll? root files = some written := by
  induction files generalizing added disk with
  | nil => exact ⟨disk, rfl⟩
  | cons file files ih =>
    obtain ⟨inner, name, hplace, hinner, hname⟩ := hfit.inner file List.mem_cons_self
    have hfresh := hfit.fresh file List.mem_cons_self
    have hcheck := hchecks file List.mem_cons_self
    have hlength : name.length ≤ nameLimit :=
      hlengths file List.mem_cons_self name (by rw [hplace]; simp)
    obtain ⟨next, hnext, hone⟩ : ∃ next,
        (disk.writeFile (root.descend file.1) (Text.encode file.2)).done? = some next
          ∧ Grown start place (textEntry file :: added) next := by
      rw [textEntry]
      rw [hplace] at hfresh hcheck ⊢
      have hnext :
          (disk.writeFile (root.descend [inner, name]) (Text.encode file.2)).done? = some _ :=
        (hgrown.writeFile_iff hstart hinner hname hfresh).2 ⟨hcheck, hlength, rfl⟩
      exact ⟨_, hnext, hgrown.writeFile hstart hinner hname hfresh hnext⟩
    obtain ⟨written, hwritten⟩ := ih hone hfit.tail
      (fun other hother => hchecks other (List.mem_cons_of_mem _ hother))
      (fun other hother => hlengths other (List.mem_cons_of_mem _ hother))
    exact ⟨written, by rw [writeAll?_cons, hnext, Option.bind_some, hwritten]⟩

end Files

/-- The files below the directory are the files that were added. -/
theorem Grown.mem_of_fileBelow? (hgrown : Grown start place added disk)
    (hstart : start.IsEmptyAt root place) {names : Place} {bytes : Bytes}
    (h : disk.fileBelow? root names = some bytes) : (names, .file bytes) ∈ added := by
  obtain ⟨found, hfound, hfile⟩ := fileBelow?_eq_some.1 h
  obtain rfl : place = found := Except.ok.inj ((hgrown.locate hstart).symm.trans hfound)
  have hentry := get?_of_fileFrom? hfile
  have hne : names ≠ [] := by
    rintro rfl
    rw [List.append_nil, hgrown.isDirectory hstart] at hentry
    exact absurd hentry (by simp)
  exact (hgrown.get?_iff _ _ hne).1 hentry

theorem Grown.fileBelow?_of_mem (hgrown : Grown start place added disk)
    (hstart : start.IsEmptyAt root place) {inner name bytes : Bytes}
    (hinner : ([inner], .directory) ∈ added) (hfile : ([inner, name], .file bytes) ∈ added) :
    disk.fileBelow? root [inner, name] = some bytes := by
  refine fileBelow?_eq_some.2 ⟨place, hgrown.locate hstart, fileFrom?_cons.2
    ⟨hgrown.isDirectory hstart, fileFrom?_cons.2 ⟨?_, fileFrom?_nil.2 ?_⟩⟩⟩
  · exact (hgrown.get?_iff _ _ (by simp)).2 hinner
  · rw [List.append_assoc]
    exact (hgrown.get?_iff _ _ (by simp)).2 hfile

end Grown

end Disk

end WorkflowNav
