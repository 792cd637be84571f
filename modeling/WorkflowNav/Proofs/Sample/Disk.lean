/-
A sample workspace on a disk.

Written into an empty directory, the files of a sample are all that stands below it, each with its
own text (`Written`). They are manifests one directory down, so a search that goes that deep finds
all of them, the callers before the libraries and each group in the order of its paths
(`manifests_eq`). That order is one of bytes: the tenth file comes before the second.
-/
import WorkflowNav.Proofs.Crawl
import WorkflowNav.Proofs.Sample.Lines
import WorkflowNav.Proofs.Uncached
import WorkflowNav.Proofs.Writing

set_option autoImplicit false

namespace WorkflowNav

open Text (Bytes)

namespace Sample

/-! ## Names of files -/

/-- The directory of the libraries. -/
def libraryDirectory : Bytes := Text.encode "lib".toList

/-- The directory of the callers. -/
def callerDirectory : Bytes := Text.encode "callers".toList

/-- The name of a file of a sample: a word, a number and an ending. -/
def fileText (word : Text) (n : Nat) : Text := word ++ Text.ofNat n ++ ".yaml".toList

/-- What a word at the front of a file name is made of. -/
structure IsWord (word : Text) : Prop where
  isKey : ∀ c ∈ word, Text.isKey c = true
  head : ∃ c rest, word = c :: rest ∧ c ≠ '.'
  slash_notMem : '/' ∉ word

theorem isWord_wft : IsWord "wft_".toList :=
  ⟨List.all_eq_true.1 (by decide), ⟨'w', _, rfl, by decide⟩, by decide⟩

theorem isWord_caller : IsWord "caller_".toList :=
  ⟨List.all_eq_true.1 (by decide), ⟨'c', _, rfl, by decide⟩, by decide⟩

section FileText

variable {word : Text} (hword : IsWord word)

include hword

theorem isKey_of_mem_fileText {n : Nat} : ∀ c ∈ fileText word n, Text.isKey c = true :=
  List.forall_mem_append.2 ⟨List.forall_mem_append.2 ⟨hword.isKey, fun c hc =>
    Text.isKey_of_isTag (Text.isTag_of_mem_ofNat c hc)⟩, List.all_eq_true.1 (by decide)⟩

theorem toNat_lt_of_mem_fileText {n : Nat} : ∀ c ∈ fileText word n, c.toNat < 0x80 :=
  fun c hc => Text.toNat_lt_of_isKey (isKey_of_mem_fileText hword c hc)

theorem fileText_inj {n m : Nat}
    (h : Text.encode (fileText word n) = Text.encode (fileText word m)) : n = m := by
  have htext := Text.encode_injective (toNat_lt_of_mem_fileText hword)
    (toNat_lt_of_mem_fileText hword) h
  exact Text.ofNat_injective (List.append_cancel_left (List.append_cancel_right htext))

theorem slash_notMem_fileText (n : Nat) : '/' ∉ fileText word n := by
  intro hmem
  rcases List.mem_append.1 hmem with hmem | hmem
  · rcases List.mem_append.1 hmem with hmem | hmem
    · exact hword.slash_notMem hmem
    · exact absurd (Text.isDigit_of_mem_ofNat hmem) (by decide)
  · exact absurd hmem (by decide)

theorem isName_fileText (n : Nat) : Path.IsName (Text.encode (fileText word n)) := by
  have hascii := toNat_lt_of_mem_fileText hword (n := n)
  have hbytes : ∃ b rest, Text.encode (fileText word n) = b :: rest ∧ b ≠ 0x2E := by
    obtain ⟨c, rest, rfl, hdot⟩ := hword.head
    have hc := hascii c List.mem_cons_self
    refine ⟨c.toNat.toUInt8, _, Text.encode_cons hc _, fun hb => hdot ?_⟩
    have hnat : c.toNat = 0x2E := by rw [← Text.toNat_toUInt8 hc, hb]; rfl
    rw [← Char.ofNat_toNat c, hnat]
  -- it starts with something else than a dot, so it is neither `.` nor `..`
  obtain ⟨b, rest, hencode, hb⟩ := hbytes
  refine ⟨by simp [hencode], fun hmem => ?_, by simp [hencode, Component.dot, hb],
    by simp [hencode, Component.dots, hb]⟩
  obtain ⟨c, hc, hslash⟩ := Text.mem_encode hascii hmem
  obtain rfl : c = '/' := by rw [← Char.ofNat_toNat c, ← hslash]; rfl
  exact slash_notMem_fileText hword n hc

/-- The files of a sample are manifests. -/
theorem isManifestName_fileText (n : Nat) :
    Path.isManifestName (Text.decodeLossy (Text.encode (fileText word n))) = true := by
  rw [Text.decodeLossy_encode (toNat_lt_of_mem_fileText hword)]
  have hsuffix : (".yaml".toList).isSuffixOf (fileText word n) = true :=
    List.isSuffixOf_iff_suffix.2 (List.suffix_append _ _)
  simp only [Path.isManifestName, Path.manifestEndings, List.any_cons, hsuffix, Bool.true_or]

end FileText

/-- Where a library stands below the root. -/
def libraryPlace (library : Nat) : Place :=
  [libraryDirectory, Text.encode (fileText "wft_".toList library)]

/-- Where a caller stands below the root. -/
def callerPlace (caller : Nat) : Place :=
  [callerDirectory, Text.encode (fileText "caller_".toList caller)]

theorem libraryPlace_inj {library other : Nat} (h : libraryPlace library = libraryPlace other) :
    library = other := fileText_inj isWord_wft (List.cons.inj (List.cons.inj h).2).1

theorem callerPlace_inj {caller other : Nat} (h : callerPlace caller = callerPlace other) :
    caller = other := fileText_inj isWord_caller (List.cons.inj (List.cons.inj h).2).1

theorem isName_of_mem_libraryPlace {library : Nat} :
    ∀ name ∈ libraryPlace library, Path.IsName name :=
  List.forall_mem_cons.2
    ⟨by decide, List.forall_mem_singleton.2 (isName_fileText isWord_wft library)⟩

theorem isName_of_mem_callerPlace {caller : Nat} : ∀ name ∈ callerPlace caller, Path.IsName name :=
  List.forall_mem_cons.2
    ⟨by decide, List.forall_mem_singleton.2 (isName_fileText isWord_caller caller)⟩

/-! ## The files -/

/-- The files of a sample, by where they stand below the root. -/
def placedFiles (sample : Sample) : List (Place × Text) :=
  (List.range sample.libraries).map
      (fun library => (libraryPlace library, unlines (sample.libraryLines library)))
    ++ (List.range sample.callers).map
      (fun caller => (callerPlace caller, unlines (sample.callerLines caller)))

theorem mem_placedFiles {sample : Sample} {file : Place × Text} :
    file ∈ sample.placedFiles
      ↔ (∃ library < sample.libraries,
          file = (libraryPlace library, unlines (sample.libraryLines library)))
        ∨ ∃ caller < sample.callers,
          file = (callerPlace caller, unlines (sample.callerLines caller)) := by
  simp only [placedFiles, List.mem_append, List.mem_map, List.mem_range, eq_comm]

theorem nodup_placedFiles (sample : Sample) : (sample.placedFiles.map Prod.fst).Nodup := by
  have hdirectories : libraryDirectory ≠ callerDirectory := by decide
  rw [placedFiles, List.map_append, List.map_map, List.map_map]
  refine List.Nodup.append ?_ ?_ ?_
  · exact List.nodup_range.map fun _ _ => libraryPlace_inj
  · exact List.nodup_range.map fun _ _ => callerPlace_inj
  · intro names hlibrary hcaller
    obtain ⟨library, -, rfl⟩ := List.mem_map.1 hlibrary
    obtain ⟨caller, -, heq⟩ := List.mem_map.1 hcaller
    exact hdirectories (List.cons.inj heq).1.symm

theorem files?_eq_some {sample : Sample} {root : Path} {files : List (Path × Text)}
    (h : sample.files? root = some files) :
    (∀ caller < sample.callers, sample.callerLines? caller = some (sample.callerLines caller))
      ∧ files = sample.placedFiles.map fun file => (root.descend file.1, file.2) := by
  obtain ⟨callers, hcallers, hfiles⟩ := Option.bind_eq_some_iff.1 h
  have hcaller : ∀ caller file, (sample.callerLines? caller).map
      (fun lines => (callerPath root caller, unlines lines)) = some file →
      file = (callerPath root caller, unlines (sample.callerLines caller)) := by
    intro caller file hsome
    obtain ⟨lines, hlines, rfl⟩ := Option.map_eq_some_iff.1 hsome
    rw [(callerLines?_eq_some hlines).2]
  obtain ⟨hall, rfl⟩ := mapM_eq_some hcaller hcallers
  constructor
  · intro caller hlt
    obtain ⟨lines, hlines, -⟩ := Option.map_eq_some_iff.1 (hall caller (List.mem_range.2 hlt))
    rw [hlines, (callerLines?_eq_some hlines).2]
  · rw [placedFiles, List.map_append, List.map_map, List.map_map]
    exact (Option.some.inj hfiles).symm

/-- How many lines the files of a sample have. -/
theorem length_lines_of_files? {sample : Sample} {root : Path} {files : List (Path × Text)}
    (h : sample.files? root = some files) :
    ∀ file ∈ files,
      (Text.lines file.2).length = 6 + 3 * sample.templates + sample.padding
        ∨ (Text.lines file.2).length = 9 + 4 * sample.stepsPerCaller + sample.padding := by
  obtain ⟨hcallers, rfl⟩ := files?_eq_some h
  intro file hfile
  obtain ⟨placed, hplaced, rfl⟩ := List.mem_map.1 hfile
  rcases mem_placedFiles.1 hplaced with ⟨library, -, rfl⟩ | ⟨caller, hcaller, rfl⟩
  · rw [lines_unlines isKey_of_mem_libraryLines, length_libraryLines]
    exact .inl rfl
  · have hlines := hcallers caller hcaller
    rw [lines_unlines (isKey_of_mem_callerLines hlines), length_callerLines hlines]
    exact .inr rfl

/-! ## Written to a disk -/

/-- A sample workspace on a disk: its files are all there is below the root. -/
structure Written (sample : Sample) (root : Path) (disk : Disk) : Prop where
  wellFormed : disk.WellFormed
  fileBelow?_iff : ∀ names bytes, disk.fileBelow? root names = some bytes
    ↔ ∃ file ∈ sample.placedFiles, names = file.1 ∧ bytes = Text.encode file.2
  check : ∀ file ∈ sample.placedFiles, Disk.check (root.descend file.1) = .ok ()
  callerLines : ∀ caller < sample.callers,
    sample.callerLines? caller = some (sample.callerLines caller)

/-- The directories of a sample as entries, the last one made first. -/
def directoryEntries : List (Place × Entry) :=
  [([callerDirectory], .directory), ([libraryDirectory], .directory)]

/-- A file of a sample stands in one of its directories. -/
theorem exists_of_mem_placedFiles {sample : Sample} {file : Place × Text}
    (h : file ∈ sample.placedFiles) :
    ∃ inner name, file.1 = [inner, name] ∧ ([inner], .directory) ∈ directoryEntries
      ∧ Path.IsName name ∧ Path.isManifestName (Text.decodeLossy name) = true := by
  rcases mem_placedFiles.1 h with ⟨library, -, rfl⟩ | ⟨caller, -, rfl⟩
  · exact ⟨_, _, rfl, by decide, isName_fileText isWord_wft library,
      isManifestName_fileText isWord_wft library⟩
  · exact ⟨_, _, rfl, by decide, isName_fileText isWord_caller caller,
      isManifestName_fileText isWord_caller caller⟩

/-- The files of a sample have a place once its directories are made. -/
theorem fit_placedFiles (sample : Sample) : Disk.Fit directoryEntries sample.placedFiles where
  inner file hfile := by
    obtain ⟨inner, name, hplace, hinner, hname, -⟩ := exists_of_mem_placedFiles hfile
    exact ⟨inner, name, hplace, hinner, hname⟩
  fresh file hfile entry hmem := by
    have hshort : ∀ pair ∈ directoryEntries, pair.1.length = 1 := by decide
    obtain ⟨inner, name, hplace, -⟩ := exists_of_mem_placedFiles hfile
    have hone := hshort _ hmem
    rw [hplace] at hone
    exact absurd hone (by simp)
  nodup := nodup_placedFiles sample

section Write

variable {sample : Sample} {disk written : Disk} {root : Path} {place : Place}

/-- Make the directories of a sample. -/
def makeDirectories? (disk : Disk) (root : Path) : Option Disk :=
  (directories root).foldlM (fun disk path => (disk.makeDirectory path).done?) disk

theorem makeDirectories?_eq (disk : Disk) (root : Path) :
    makeDirectories? disk root
      = (disk.makeDirectory (root.join libraryDirectory)).done?.bind fun first =>
          (first.makeDirectory (root.join callerDirectory)).done? := by
  simp only [makeDirectories?, directories, List.foldlM_cons, List.foldlM_nil, bind_pure]
  rfl

/-- Writing a sample in its three parts. -/
theorem write?_eq_some :
    sample.write? disk root = some written
      ↔ ∃ files made, sample.files? root = some files ∧ makeDirectories? disk root = some made
        ∧ made.writeAll? root sample.placedFiles = some written := by
  constructor
  · intro h
    obtain ⟨files, hfiles, h⟩ := Option.bind_eq_some_iff.1 h
    obtain ⟨made, hmade, h⟩ := Option.bind_eq_some_iff.1 h
    rw [(files?_eq_some hfiles).2] at h
    exact ⟨files, made, hfiles, hmade, h⟩
  · rintro ⟨files, made, hfiles, hmade, h⟩
    refine Option.bind_eq_some_iff.2 ⟨files, hfiles, Option.bind_eq_some_iff.2 ⟨made, hmade, ?_⟩⟩
    rw [(files?_eq_some hfiles).2]
    exact h

variable (hwell : disk.WellFormed) (hempty : disk.IsEmptyAt root place)

include hwell hempty

/-- The directory of the callers is not there when that of the libraries has been made. -/
theorem grown_libraries {first : Disk}
    (h : (disk.makeDirectory (root.join libraryDirectory)).done? = some first) :
    Disk.Grown disk place [([libraryDirectory], .directory)] first
      ∧ ∀ entry, ([callerDirectory], entry) ∉ [([libraryDirectory], Entry.directory)] := by
  refine ⟨(hempty.grown hwell).makeDirectory hempty (by decide) (by decide)
    (fun _ => List.not_mem_nil) h, fun entry hmem => ?_⟩
  have hdiffer : callerDirectory ≠ libraryDirectory := by decide
  exact hdiffer (List.cons.inj (Prod.mk.inj (List.mem_singleton.1 hmem)).1).1

theorem grown_of_makeDirectories? {made : Disk} (h : makeDirectories? disk root = some made) :
    Disk.Grown disk place directoryEntries made := by
  rw [makeDirectories?_eq] at h
  obtain ⟨first, hfirst, hsecond⟩ := Option.bind_eq_some_iff.1 h
  obtain ⟨hlibraries, hfresh⟩ := grown_libraries hwell hempty hfirst
  exact hlibraries.makeDirectory hempty (by decide) (by decide) hfresh hsecond

theorem exists_makeDirectories? (hchecks : ∀ path ∈ directories root, Disk.check path = .ok ()) :
    ∃ made, makeDirectories? disk root = some made := by
  have hfirst := ((hempty.grown hwell).makeDirectory_iff hempty (by decide) (by decide)
    (fun _ => List.not_mem_nil)).2 ⟨hchecks (root.join libraryDirectory) List.mem_cons_self, rfl⟩
  obtain ⟨hlibraries, hfresh⟩ := grown_libraries hwell hempty hfirst
  have hsecond := (hlibraries.makeDirectory_iff hempty (by decide) (by decide) hfresh).2
    ⟨hchecks (root.join callerDirectory) (List.mem_cons_of_mem _ List.mem_cons_self), rfl⟩
  exact ⟨_, by rw [makeDirectories?_eq, hfirst, Option.bind_some, hsecond]⟩

/-- **Writing a sample goes through** if its steps have targets, its paths can be looked up and its
names are not too long. -/
theorem exists_write? {files : List (Path × Text)} (hfiles : sample.files? root = some files)
    (hdirectories : ∀ path ∈ directories root, Disk.check path = .ok ())
    (hchecks : ∀ file ∈ sample.placedFiles, Disk.check (root.descend file.1) = .ok ())
    (hlengths : ∀ file ∈ sample.placedFiles, ∀ name ∈ file.1, name.length ≤ Disk.nameLimit) :
    ∃ written, sample.write? disk root = some written := by
  obtain ⟨made, hmade⟩ := exists_makeDirectories? hwell hempty hdirectories
  obtain ⟨written, hwritten⟩ := (grown_of_makeDirectories? hwell hempty hmade).exists_writeAll
    hempty (fit_placedFiles sample) hchecks hlengths
  exact ⟨written, write?_eq_some.2 ⟨files, made, hfiles, hmade, hwritten⟩⟩

/-- **A sample written into an empty directory** is all there is below it. -/
theorem written_of_write? (h : sample.write? disk root = some written) :
    sample.Written root written := by
  obtain ⟨files, made, hfiles, hmade, h⟩ := write?_eq_some.1 h
  have hdirectories := grown_of_makeDirectories? hwell hempty hmade
  obtain ⟨hgrown, hcheck⟩ := hdirectories.writeAll hempty (fit_placedFiles sample) h
  refine ⟨hgrown.wellFormed, fun names bytes => ⟨fun hfile => ?_, ?_⟩, hcheck,
    (files?_eq_some hfiles).1⟩
  · rcases List.mem_append.1 (hgrown.mem_of_fileBelow? hempty hfile) with hmem | hmem
    · obtain ⟨file, hmem, heq⟩ := List.mem_map.1 (List.mem_reverse.1 hmem)
      obtain ⟨hnames, hentry⟩ := Prod.mk.inj heq
      exact ⟨file, hmem, hnames.symm, (Entry.file.inj hentry).symm⟩
    · -- the directories are no files
      have hnone : ∀ pair ∈ directoryEntries, pair.2 = .directory := by decide
      exact absurd (hnone _ hmem) (by simp)
  · rintro ⟨file, hfile, rfl, rfl⟩
    obtain ⟨inner, name, hplace, hinner, -⟩ := exists_of_mem_placedFiles hfile
    have hentry : Disk.textEntry file ∈ (sample.placedFiles.map Disk.textEntry).reverse
        ++ directoryEntries :=
      List.mem_append_left _ (List.mem_reverse.2 (List.mem_map_of_mem hfile))
    rw [Disk.textEntry, hplace] at hentry
    rw [hplace]
    exact hgrown.fileBelow?_of_mem hempty (List.mem_append_right _ hinner) hentry

end Write

/-! ## Read and found -/

namespace Written

variable {sample : Sample} {root : Path} {disk : Disk} (h : sample.Written root disk)

include h

theorem isKey_of_mem_lines {file : Place × Text} (hfile : file ∈ sample.placedFiles) :
    ∃ lines : List Text, file.2 = unlines lines
      ∧ ∀ line ∈ lines, ∀ c ∈ line, Text.isKey c = true := by
  rcases mem_placedFiles.1 hfile with ⟨library, -, rfl⟩ | ⟨caller, hcaller, rfl⟩
  · exact ⟨_, rfl, isKey_of_mem_libraryLines⟩
  · exact ⟨_, rfl, isKey_of_mem_callerLines (h.callerLines caller hcaller)⟩

/-- Every file of a sample is read with its own text. -/
theorem readText_eq {file : Place × Text} (hfile : file ∈ sample.placedFiles) :
    disk.readText (root.descend file.1) = .ok file.2 := by
  have hbelow := (h.fileBelow?_iff file.1 _).2 ⟨file, hfile, rfl, rfl⟩
  have hread := (Disk.read_eq_ok_iff h.wellFormed hbelow).2 ⟨rfl, h.check file hfile⟩
  obtain ⟨lines, htext, hkeys⟩ := h.isKey_of_mem_lines hfile
  refine Disk.readText_eq_ok.2 ⟨_, hread, ?_⟩
  rw [htext, decode?_encode_unlines hkeys]

/-- A search of any depth but none finds the files of a sample and nothing else. -/
theorem mem_manifests_iff {depth size : Nat} (hdepth : 1 ≤ depth) {path : Path} :
    path ∈ Crawl.manifests disk.list? depth size root
      ↔ ∃ file ∈ sample.placedFiles, path = root.descend file.1 := by
  constructor
  · intro hmem
    obtain ⟨names, bytes, -, rfl, hbelow⟩ := Crawl.fileBelow?_of_mem_manifests h.wellFormed hmem
    obtain ⟨file, hfile, rfl, -⟩ := (h.fileBelow?_iff names bytes).1 hbelow
    exact ⟨file, hfile, rfl⟩
  · rintro ⟨file, hfile, rfl⟩
    have hbelow := (h.fileBelow?_iff file.1 _).2 ⟨file, hfile, rfl, rfl⟩
    refine Crawl.mem_manifests_of_fileBelow? h.wellFormed ?_ hbelow (h.check file hfile)
    obtain ⟨inner, name, hplace, hinner, -, hmanifest⟩ := exists_of_mem_placedFiles hfile
    have hkept : ∀ pair ∈ directoryEntries, ∀ other ∈ pair.1,
        Path.isIgnoredName (Text.decodeLossy other) = false := by decide
    exact ⟨[inner], name, hplace, hdepth, hkept _ hinner, hmanifest⟩

end Written

/-! ## In path order -/

/-- The callers in the order of their paths. -/
def callersByPath (sample : Sample) (root : Path) : List Nat :=
  (List.range sample.callers).mergeSort fun a b => Path.le (callerPath root a) (callerPath root b)

/-- The libraries in the order of their paths. -/
def librariesByPath (sample : Sample) (root : Path) : List Nat :=
  (List.range sample.libraries).mergeSort fun a b =>
    Path.le (libraryPath root a) (libraryPath root b)

section ByPath

variable (sample : Sample) (root : Path)

theorem mem_callersByPath {caller : Nat} :
    caller ∈ sample.callersByPath root ↔ caller < sample.callers := by
  rw [callersByPath, List.mem_mergeSort, List.mem_range]

theorem mem_librariesByPath {library : Nat} :
    library ∈ sample.librariesByPath root ↔ library < sample.libraries := by
  rw [librariesByPath, List.mem_mergeSort, List.mem_range]

theorem nodup_callersByPath : (sample.callersByPath root).Nodup :=
  (List.mergeSort_perm _ _).nodup_iff.2 List.nodup_range

theorem nodup_librariesByPath : (sample.librariesByPath root).Nodup :=
  (List.mergeSort_perm _ _).nodup_iff.2 List.nodup_range

/-- Where the files stand, in path order. -/
def placesByPath : List Place :=
  (sample.callersByPath root).map callerPlace ++ (sample.librariesByPath root).map libraryPlace

theorem isName_of_mem_placesByPath :
    ∀ names ∈ sample.placesByPath root, ∀ name ∈ names, Path.IsName name := by
  intro names hnames
  rcases List.mem_append.1 hnames with hnames | hnames
  · obtain ⟨caller, -, rfl⟩ := List.mem_map.1 hnames
    exact isName_of_mem_callerPlace
  · obtain ⟨library, -, rfl⟩ := List.mem_map.1 hnames
    exact isName_of_mem_libraryPlace

theorem nodup_placesByPath : (sample.placesByPath root).Nodup := by
  have hdirectories : callerDirectory ≠ libraryDirectory := by decide
  refine List.Nodup.append ?_ ?_ ?_
  · exact (sample.nodup_callersByPath root).map fun _ _ => callerPlace_inj
  · exact (sample.nodup_librariesByPath root).map fun _ _ => libraryPlace_inj
  · intro names hcaller hlibrary
    obtain ⟨caller, -, rfl⟩ := List.mem_map.1 hcaller
    obtain ⟨library, -, heq⟩ := List.mem_map.1 hlibrary
    exact hdirectories (List.cons.inj heq).1.symm

theorem mem_placesByPath {names : Place} :
    names ∈ sample.placesByPath root ↔ ∃ file ∈ sample.placedFiles, names = file.1 := by
  simp only [placesByPath, List.mem_append, List.mem_map, mem_callersByPath, mem_librariesByPath]
  constructor
  · rintro (⟨caller, hcaller, rfl⟩ | ⟨library, hlibrary, rfl⟩)
    · exact ⟨_, mem_placedFiles.2 (.inr ⟨caller, hcaller, rfl⟩), rfl⟩
    · exact ⟨_, mem_placedFiles.2 (.inl ⟨library, hlibrary, rfl⟩), rfl⟩
  · rintro ⟨file, hfile, rfl⟩
    rcases mem_placedFiles.1 hfile with ⟨library, hlibrary, rfl⟩ | ⟨caller, hcaller, rfl⟩
    · exact .inr ⟨library, hlibrary, rfl⟩
    · exact .inl ⟨caller, hcaller, rfl⟩

theorem pairwise_placesByPath :
    (sample.placesByPath root).Pairwise fun a b =>
      Path.le (root.descend a) (root.descend b) = true := by
  have hsorted : ∀ (place : Nat → Place) (ns : List Nat), ((ns.mergeSort fun a b =>
      Path.le (root.descend (place a)) (root.descend (place b))).map place).Pairwise fun a b =>
        Path.le (root.descend a) (root.descend b) = true := by
    intro place ns
    rw [List.pairwise_map]
    apply List.pairwise_mergeSort
    · intro a b c
      exact Path.le_trans
    · intro a b
      exact Path.le_total _ _
  -- between the two groups the directories decide: `callers` comes before `lib`
  refine List.pairwise_append.2 ⟨hsorted callerPlace _, hsorted libraryPlace _, ?_⟩
  intro names hcaller others hlibrary
  obtain ⟨caller, -, rfl⟩ := List.mem_map.1 hcaller
  obtain ⟨library, -, rfl⟩ := List.mem_map.1 hlibrary
  exact Path.le_descend_of_lt root isName_of_mem_callerPlace isName_of_mem_libraryPlace (by decide)

end ByPath

/-- **What a search goes through.** All callers, then all libraries, each in path order. -/
theorem Written.manifests_eq {sample : Sample} {root : Path} {disk : Disk}
    (h : sample.Written root disk) {depth size : Nat} (hdepth : 1 ≤ depth) :
    Crawl.manifests disk.list? depth size root
      = (sample.callersByPath root).map (callerPath root)
        ++ (sample.librariesByPath root).map (libraryPath root) := by
  have hplaces : (sample.placesByPath root).map root.descend
      = (sample.callersByPath root).map (callerPath root)
        ++ (sample.librariesByPath root).map (libraryPath root) := by
    rw [placesByPath, List.map_append, List.map_map, List.map_map]
    rfl
  have hinjective : ∀ names ∈ sample.placesByPath root, ∀ others ∈ sample.placesByPath root,
      (root.descend names).components = (root.descend others).components → names = others :=
    fun names hnames others hothers => Path.descend_injective root
      (sample.isName_of_mem_placesByPath root names hnames)
      (sample.isName_of_mem_placesByPath root others hothers)
  have hnodup : ((sample.placesByPath root).map root.descend).Nodup :=
    (sample.nodup_placesByPath root).map_on fun names hnames others hothers heq =>
      hinjective names hnames others hothers (congrArg _ heq)
  have hperm : (Crawl.manifests disk.list? depth size root).Perm
      ((sample.placesByPath root).map root.descend) := by
    refine (List.perm_ext_iff_of_nodup (Crawl.nodup_manifests h.wellFormed _ _ root) hnodup).2 ?_
    intro path
    rw [h.mem_manifests_iff hdepth, List.mem_map]
    constructor
    · rintro ⟨file, hfile, rfl⟩
      exact ⟨file.1, (sample.mem_placesByPath root).2 ⟨file, hfile, rfl⟩, rfl⟩
    · rintro ⟨names, hnames, rfl⟩
      obtain ⟨file, hfile, rfl⟩ := (sample.mem_placesByPath root).1 hnames
      exact ⟨file, hfile, rfl⟩
  -- both are in path order, and no two of these paths are the same
  rw [← hplaces]
  refine hperm.eq_of_pairwise ?_ (Crawl.pairwise_manifests _ _ _ root)
    (List.pairwise_map.2 (sample.pairwise_placesByPath root))
  intro one two hone htwo hle hge
  obtain ⟨names, hnames, rfl⟩ := List.mem_map.1 (hperm.mem_iff.1 hone)
  obtain ⟨others, hothers, rfl⟩ := List.mem_map.1 htwo
  rw [hinjective names hnames others hothers (Path.components_eq_of_le hle hge)]

end Sample

end WorkflowNav
