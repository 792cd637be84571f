/-
The lines of a sample workspace.

Every line of a generated file is a fixed front and a tail that varies, a name or a number.
`LibraryLine` and `CallerLine` say which front and which tail stand on which line; they are the
files as tables, and nothing after this module looks at how the lines were put together. No marker
ends in a character of a tail, so which markers stand in a line is decided by its front, of which
there are few.

Names are written in decimal digits of any length. They are told apart because digits tell numbers
apart and because a dash is no digit (`templateName_inj`).
-/
import Mathlib.Data.List.Basic
import WorkflowNav.Proofs.Line
import WorkflowNav.Sample

set_option autoImplicit false

namespace WorkflowNav

/-! ## Names and numbers -/

namespace Text

theorem isDigit_of_mem_ofNat {n : Nat} {c : Char} (h : c ∈ ofNat n) : c.isDigit = true :=
  Nat.isDigit_of_mem_toDigits (by decide) (by decide) h

theorem ofNat_injective {n m : Nat} (h : ofNat n = ofNat m) : n = m := by
  have hvalue := congrArg (Nat.ofDigitChars 10 · 0) h
  simpa [ofNat, Nat.ofDigitChars_ten_toDigits] using hvalue

theorem dash_notMem_ofNat (n : Nat) : '-' ∉ ofNat n := fun h =>
  absurd (isDigit_of_mem_ofNat h) (by decide)

/-- The characters of names and numbers in a sample: digits, dashes and the letters of `wft-` and
`tpl-`. -/
def isTag (c : Char) : Bool := c.isDigit || "-wftpl".toList.contains c

theorem isTag_of_mem_ofNat {n : Nat} : ∀ c ∈ ofNat n, isTag c = true := by
  intro c hc
  rw [isTag, isDigit_of_mem_ofNat hc, Bool.true_or]

theorem toNat_of_isTag {c : Char} (h : isTag c = true) : 0x2D ≤ c.toNat ∧ c.toNat ≤ 0x7A := by
  rw [isTag, Bool.or_eq_true] at h
  rcases h with hdigit | hletter
  · obtain ⟨hlo, hhi⟩ := Char.isDigit_iff_toNat.1 hdigit
    exact ⟨Nat.le_trans (by decide) hlo, Nat.le_trans hhi (by decide)⟩
  · have hletters : ("-wftpl".toList.all fun c => 0x2D ≤ c.toNat ∧ c.toNat ≤ 0x7A) = true := by
      decide
    exact of_decide_eq_true (List.all_eq_true.1 hletters c (List.contains_iff_mem.1 hletter))

theorem isKey_of_isTag {c : Char} (h : isTag c = true) : isKey c = true := by
  have hbounds := toNat_of_isTag h
  simp only [isKey, Bool.and_eq_true, decide_eq_true_eq]
  omega

theorem isValueChar_of_isTag {c : Char} (h : isTag c = true) : Manifest.isValueChar c = true := by
  have hbounds := toNat_of_isTag h
  have hblank : isBlank c = false := by
    simp only [isBlank, Bool.or_eq_false_iff, Bool.and_eq_false_iff, decide_eq_false_iff_not,
      beq_eq_false_iff_ne]
    omega
  -- quotes and the hash come before the dash, which is the first of the tags
  have hother : ∀ d : Char, d.toNat < 0x2D → (c == d) = false := by
    intro d hd
    rw [beq_eq_false_iff_ne]
    rintro rfl
    omega
  simp [Manifest.isValueChar, Manifest.isQuote, hblank, hother '\x27' (by decide),
    hother '\x22' (by decide), hother '#' (by decide)]

/-- Whether a text ends in something that is in no tail. -/
def endsOutsideTags (text : Text) : Bool := text.getLast?.any fun c => !isTag c

/-- No marker ends in a character of a tail, so a tail adds none. -/
theorem has_append_tag {marker front tail : Text} (hmarker : endsOutsideTags marker = true)
    (htail : ∀ c ∈ tail, isTag c = true) : has marker (front ++ tail) = has marker front := by
  obtain ⟨last, hlast, htag⟩ : ∃ last, marker.getLast? = some last ∧ isTag last = false := by
    simpa [endsOutsideTags, Option.any_eq_true] using hmarker
  refine has_append_of_notMem hlast fun hmem => ?_
  rw [htail last hmem] at htag
  exact absurd htag (by decide)

end Text

namespace Sample

open Manifest

/-! ## Names -/

theorem libraryName_inj {library other : Nat} (h : libraryName library = libraryName other) :
    library = other := Text.ofNat_injective (List.append_cancel_left h)

/-- The dash between two numbers is the only one, so it divides them. -/
theorem templateName_inj {library template otherLibrary other : Nat}
    (h : templateName library template = templateName otherLibrary other) :
    library = otherLibrary ∧ template = other := by
  unfold templateName at h
  -- what is left behind `tpl-` is a number, a dash and a number
  rw [List.append_assoc, List.append_assoc, List.append_cancel_left_eq] at h
  obtain ⟨hlibrary, -, htemplate⟩ := (List.append_cons_inj_of_notMem
    (Text.dash_notMem_ofNat library) (Text.dash_notMem_ofNat template)).1 h
  exact ⟨Text.ofNat_injective hlibrary, Text.ofNat_injective htemplate⟩

theorem isTag_of_mem_libraryName {library : Nat} :
    ∀ c ∈ libraryName library, Text.isTag c = true :=
  List.forall_mem_append.2 ⟨List.all_eq_true.1 (by decide), Text.isTag_of_mem_ofNat⟩

theorem isTag_of_mem_templateName {library template : Nat} :
    ∀ c ∈ templateName library template, Text.isTag c = true :=
  List.forall_mem_append.2
    ⟨List.forall_mem_append.2 ⟨List.all_eq_true.1 (by decide), Text.isTag_of_mem_ofNat⟩,
      List.forall_mem_cons.2 ⟨by decide, Text.isTag_of_mem_ofNat⟩⟩

theorem isValue_libraryName (library : Nat) : IsValue (libraryName library) where
  ne_nil := List.append_ne_nil_of_left_ne_nil (by decide) _
  all c hc := Text.isValueChar_of_isTag (isTag_of_mem_libraryName c hc)

theorem isValue_templateName (library template : Nat) :
    IsValue (templateName library template) where
  ne_nil := List.append_ne_nil_of_right_ne_nil _ (List.cons_ne_nil _ _)
  all c hc := Text.isValueChar_of_isTag (isTag_of_mem_templateName c hc)

/-! ## Libraries as tables -/

/-- What stands on a line of a library: a fixed front and a tail that varies. -/
inductive LibraryLine (sample : Sample) (library : Nat) : Nat → Text → Text → Prop
  | apiVersion : LibraryLine sample library 0 "apiVersion: argoproj.io/v1alpha1".toList []
  | kind : LibraryLine sample library 1 "kind: WorkflowTemplate".toList []
  | metadata : LibraryLine sample library 2 "metadata:".toList []
  | name : LibraryLine sample library 3 "  name: ".toList (libraryName library)
  | spec : LibraryLine sample library 4 "spec:".toList []
  | templates : LibraryLine sample library 5 "  templates:".toList []
  | entry {template : Nat} (h : template < sample.templates) :
      LibraryLine sample library (6 + 3 * template) "  - name: ".toList
        (templateName library template)
  | container {template : Nat} (h : template < sample.templates) :
      LibraryLine sample library (7 + 3 * template) "    container:".toList []
  | image {template : Nat} (h : template < sample.templates) :
      LibraryLine sample library (8 + 3 * template) "      image: alpine:3.".toList
        (Text.ofNat template)
  | padding {i : Nat} (h : i < sample.padding) :
      LibraryLine sample library (6 + 3 * sample.templates + i) "# padding line ".toList
        (Text.ofNat i)

theorem LibraryLine.isTag {sample : Sample} {library i : Nat} {front tail : Text}
    (h : LibraryLine sample library i front tail) : ∀ c ∈ tail, Text.isTag c = true := by
  cases h with
  | name => exact isTag_of_mem_libraryName
  | entry => exact isTag_of_mem_templateName
  | image | padding => exact Text.isTag_of_mem_ofNat
  | apiVersion | kind | metadata | spec | templates | container => exact nofun

/-- A place in a block of a list of blocks. -/
theorem block_lt {size n k r : Nat} (hk : k < n) (hr : r < size) : size * k + r < size * n :=
  calc size * k + r < size * k + size := Nat.add_lt_add_left hr _
    _ = size * (k + 1) := rfl
    _ ≤ size * n := Nat.mul_le_mul_left _ hk

section Blocks

variable {α : Type} {f : Nat → List α} {size n : Nat} (hsize : ∀ k, (f k).length = size)

include hsize

theorem length_flatMap_range : ((List.range n).flatMap f).length = size * n := by
  simp [List.length_flatMap, hsize, Nat.mul_comm]

/-- A list put together from blocks of one length is read block by block. -/
theorem getElem?_flatMap_range {k r : Nat} (hk : k < n) (hr : r < size) :
    ((List.range n).flatMap f)[size * k + r]? = (f k)[r]? := by
  induction n with
  | zero => exact absurd hk (Nat.not_lt_zero k)
  | succ n ih =>
    have hlength := length_flatMap_range (n := n) hsize
    rw [List.range_succ, List.flatMap_append, List.flatMap_singleton]
    obtain rfl | hlt := Nat.eq_or_lt_of_le (Nat.le_of_lt_succ hk)
    · rw [List.getElem?_append_right (by omega), hlength, Nat.add_sub_cancel_left]
    · have hbound := block_lt hlt hr
      rw [List.getElem?_append_left (by omega), ih hlt]

variable (header footer : List α)

theorem getElem?_block {k r : Nat} (hk : k < n) (hr : r < size) :
    (header ++ (List.range n).flatMap f ++ footer)[header.length + (size * k + r)]?
      = (f k)[r]? := by
  have hlt : size * k + r < ((List.range n).flatMap f).length := by
    rw [length_flatMap_range hsize]
    exact block_lt hk hr
  rw [List.append_assoc, List.getElem?_append_right (Nat.le_add_right _ _), Nat.add_sub_cancel_left,
    List.getElem?_append_left hlt, getElem?_flatMap_range hsize hk hr]

theorem getElem?_footer (i : Nat) :
    (header ++ (List.range n).flatMap f ++ footer)[header.length + size * n + i]? = footer[i]? := by
  have hlength : (header ++ (List.range n).flatMap f).length = header.length + size * n := by
    rw [List.length_append, length_flatMap_range hsize]
  rw [List.getElem?_append_right (by omega), hlength, Nat.add_sub_cancel_left]

end Blocks

theorem getElem?_paddingLines {sample : Sample} {i : Nat} (h : i < sample.padding) :
    sample.paddingLines[i]? = some ("# padding line ".toList ++ Text.ofNat i) := by
  simp [paddingLines, h]

/-- The lines of a library above its templates. -/
def libraryHeader (library : Nat) : List Text :=
  ["apiVersion: argoproj.io/v1alpha1".toList, "kind: WorkflowTemplate".toList, "metadata:".toList,
    "  name: ".toList ++ libraryName library, "spec:".toList, "  templates:".toList]

/-- The lines of a template of a library. -/
def entryLines (library template : Nat) : List Text :=
  ["  - name: ".toList ++ templateName library template, "    container:".toList,
    "      image: alpine:3.".toList ++ Text.ofNat template]

theorem libraryLines_eq (sample : Sample) (library : Nat) :
    sample.libraryLines library
      = libraryHeader library ++ (List.range sample.templates).flatMap (entryLines library)
        ++ sample.paddingLines := rfl

theorem length_libraryLines (sample : Sample) (library : Nat) :
    (sample.libraryLines library).length = 6 + 3 * sample.templates + sample.padding := by
  have hsize : ∀ template, (entryLines library template).length = 3 := fun _ => rfl
  rw [libraryLines_eq, List.length_append, List.length_append, length_flatMap_range hsize]
  simp [paddingLines, libraryHeader]

theorem LibraryLine.getElem?_eq {sample : Sample} {library i : Nat} {front tail : Text}
    (h : LibraryLine sample library i front tail) :
    (sample.libraryLines library)[i]? = some (front ++ tail) := by
  have hsize : ∀ template, (entryLines library template).length = 3 := fun _ => rfl
  -- below the header, a line is found by its template and its place among the three of it
  have hblock : ∀ {template r}, template < sample.templates → r < 3 →
      (sample.libraryLines library)[6 + (3 * template + r)]? = (entryLines library template)[r]? :=
    fun h hr => getElem?_block hsize (libraryHeader library) sample.paddingLines h hr
  cases h with
  | apiVersion | kind | metadata | name | spec | templates => rfl
  | @entry template h =>
    rw [show 6 + 3 * template = 6 + (3 * template + 0) from rfl, hblock h (by decide)]
    rfl
  | @container template h =>
    rw [show 7 + 3 * template = 6 + (3 * template + 1) by omega, hblock h (by decide)]
    rfl
  | @image template h =>
    rw [show 8 + 3 * template = 6 + (3 * template + 2) by omega, hblock h (by decide)]
    rfl
  | padding h =>
    have hfooter := getElem?_footer hsize (n := sample.templates) (libraryHeader library)
      sample.paddingLines
    exact (hfooter _).trans (getElem?_paddingLines h)

/-- Every line of a library is in the table. -/
theorem exists_libraryLine {sample : Sample} {i : Nat} (library : Nat)
    (hi : i < 6 + 3 * sample.templates + sample.padding) :
    ∃ front tail, LibraryLine sample library i front tail := by
  by_cases hheader : i < 6
  · match i, hheader with
    | 0, _ => exact ⟨_, _, .apiVersion⟩
    | 1, _ => exact ⟨_, _, .kind⟩
    | 2, _ => exact ⟨_, _, .metadata⟩
    | 3, _ => exact ⟨_, _, .name⟩
    | 4, _ => exact ⟨_, _, .spec⟩
    | 5, _ => exact ⟨_, _, .templates⟩
  by_cases hentries : i < 6 + 3 * sample.templates
  · -- the template and the line of it
    have htemplate : (i - 6) / 3 < sample.templates := by omega
    obtain hr | hr | hr : (i - 6) % 3 = 0 ∨ (i - 6) % 3 = 1 ∨ (i - 6) % 3 = 2 := by omega
    · rw [show i = 6 + 3 * ((i - 6) / 3) by omega]
      exact ⟨_, _, .entry htemplate⟩
    · rw [show i = 7 + 3 * ((i - 6) / 3) by omega]
      exact ⟨_, _, .container htemplate⟩
    · rw [show i = 8 + 3 * ((i - 6) / 3) by omega]
      exact ⟨_, _, .image htemplate⟩
  · rw [show i = 6 + 3 * sample.templates + (i - 6 - 3 * sample.templates) by omega]
    exact ⟨_, _, .padding (by omega)⟩

/-- **A library as a table.** -/
theorem getElem?_libraryLines {sample : Sample} {library i : Nat} {line : Text} :
    (sample.libraryLines library)[i]? = some line
      ↔ ∃ front tail, LibraryLine sample library i front tail ∧ line = front ++ tail := by
  constructor
  · intro hline
    have hlt := (List.getElem?_eq_some_iff.1 hline).1
    rw [length_libraryLines] at hlt
    obtain ⟨front, tail, h⟩ := exists_libraryLine library hlt
    exact ⟨front, tail, h, Option.some.inj (hline.symm.trans h.getElem?_eq)⟩
  · rintro ⟨front, tail, h, rfl⟩
    exact h.getElem?_eq

theorem exists_of_mem_libraryLines {sample : Sample} {library : Nat} {line : Text}
    (hline : line ∈ sample.libraryLines library) :
    ∃ i front tail, LibraryLine sample library i front tail ∧ line = front ++ tail := by
  obtain ⟨i, hi⟩ := List.getElem?_of_mem hline
  exact ⟨i, getElem?_libraryLines.1 hi⟩

/-! ## Callers as tables -/

/-- Where a step of a caller leads, if it leads anywhere. -/
def target (sample : Sample) (caller step : Nat) : Nat × Nat :=
  ((caller + step) % sample.libraries, step % sample.templates)

theorem target?_eq_some {sample : Sample} {caller step : Nat} {found : Nat × Nat}
    (h : sample.target? caller step = some found) : found = sample.target caller step := by
  unfold target? at h
  split at h
  · exact absurd h (by simp)
  · exact (Option.some.inj h).symm

/-- What stands on a line of a caller: a fixed front and a tail that varies. -/
inductive CallerLine (sample : Sample) (caller : Nat) : Nat → Text → Text → Prop
  | apiVersion : CallerLine sample caller 0 "apiVersion: argoproj.io/v1alpha1".toList []
  | kind : CallerLine sample caller 1 "kind: Workflow".toList []
  | metadata : CallerLine sample caller 2 "metadata:".toList []
  | name : CallerLine sample caller 3 "  generateName: caller-".toList (Text.ofNat caller ++ ['-'])
  | spec : CallerLine sample caller 4 "spec:".toList []
  | entrypoint : CallerLine sample caller 5 "  entrypoint: main".toList []
  | templates : CallerLine sample caller 6 "  templates:".toList []
  | main : CallerLine sample caller 7 "  - name: main".toList []
  | steps : CallerLine sample caller 8 "    steps:".toList []
  | step {step : Nat} (h : step < sample.stepsPerCaller) :
      CallerLine sample caller (9 + 4 * step) "    - - name: step-".toList (Text.ofNat step)
  | reference {step : Nat} (h : step < sample.stepsPerCaller) :
      CallerLine sample caller (10 + 4 * step) "        templateRef:".toList []
  | owner {step : Nat} (h : step < sample.stepsPerCaller) :
      CallerLine sample caller (11 + 4 * step) "          name: ".toList
        (libraryName (sample.target caller step).1)
  | template {step : Nat} (h : step < sample.stepsPerCaller) :
      CallerLine sample caller (12 + 4 * step) "          template: ".toList
        (templateName (sample.target caller step).1 (sample.target caller step).2)
  | padding {i : Nat} (h : i < sample.padding) :
      CallerLine sample caller (9 + 4 * sample.stepsPerCaller + i) "# padding line ".toList
        (Text.ofNat i)

theorem CallerLine.isTag {sample : Sample} {caller i : Nat} {front tail : Text}
    (h : CallerLine sample caller i front tail) : ∀ c ∈ tail, Text.isTag c = true := by
  cases h with
  | name =>
    exact List.forall_mem_append.2 ⟨Text.isTag_of_mem_ofNat, List.all_eq_true.1 (by decide)⟩
  | owner => exact isTag_of_mem_libraryName
  | template => exact isTag_of_mem_templateName
  | step | padding => exact Text.isTag_of_mem_ofNat
  | apiVersion | kind | metadata | spec | entrypoint | templates | main | steps | reference =>
    exact nofun

/-- The lines of a caller above its steps. -/
def callerHeader (caller : Nat) : List Text :=
  ["apiVersion: argoproj.io/v1alpha1".toList, "kind: Workflow".toList, "metadata:".toList,
    "  generateName: caller-".toList ++ Text.ofNat caller ++ "-".toList, "spec:".toList,
    "  entrypoint: main".toList, "  templates:".toList, "  - name: main".toList,
    "    steps:".toList]

/-- The lines of a step of a caller. -/
def callLines (sample : Sample) (caller step : Nat) : List Text :=
  stepLines step (sample.target caller step).1 (sample.target caller step).2

/-- The lines of a caller whose steps all lead somewhere. -/
def callerLines (sample : Sample) (caller : Nat) : List Text :=
  callerHeader caller ++ (List.range sample.stepsPerCaller).flatMap (sample.callLines caller)
    ++ sample.paddingLines

/-- If every element that gives something gives what `g` says, then either one gives nothing or all
give what `g` says. -/
theorem mapM_eq_some {α β : Type} {f : α → Option β} {g : α → β} {xs : List α} {ys : List β}
    (hg : ∀ x y, f x = some y → y = g x) (h : xs.mapM f = some ys) :
    (∀ x ∈ xs, f x = some (g x)) ∧ ys = xs.map g := by
  induction xs generalizing ys with
  | nil => simpa using h
  | cons x xs ih =>
    rw [List.mapM_cons] at h
    obtain ⟨y, hy, h⟩ := Option.bind_eq_some_iff.1 h
    obtain ⟨rest, hrest, h⟩ := Option.bind_eq_some_iff.1 h
    obtain ⟨hall, rfl⟩ := ih hrest
    obtain rfl := hg x y hy
    refine ⟨List.forall_mem_cons.2 ⟨hy, hall⟩, ?_⟩
    exact (Option.some.inj h).symm

/-- A caller that has lines has all its steps in them. -/
theorem callerLines?_eq_some {sample : Sample} {caller : Nat} {lines : List Text}
    (h : sample.callerLines? caller = some lines) :
    (∀ step < sample.stepsPerCaller,
      sample.target? caller step = some (sample.target caller step))
    ∧ lines = sample.callerLines caller := by
  obtain ⟨steps, hsteps, hlines⟩ := Option.bind_eq_some_iff.1 h
  have hcall : ∀ step call, (sample.target? caller step).map
      (fun found => stepLines step found.1 found.2) = some call →
      call = sample.callLines caller step := by
    intro step call hsome
    obtain ⟨found, hfound, rfl⟩ := Option.map_eq_some_iff.1 hsome
    rw [target?_eq_some hfound, callLines]
  obtain ⟨hall, rfl⟩ := mapM_eq_some hcall hsteps
  refine ⟨fun step hstep => ?_, ?_⟩
  · obtain ⟨found, hfound, -⟩ := Option.map_eq_some_iff.1 (hall step (List.mem_range.2 hstep))
    rw [hfound, target?_eq_some hfound]
  · rw [callerLines, List.flatMap_def]
    exact (Option.some.inj hlines).symm

section Caller

variable {sample : Sample} {caller : Nat} {lines : List Text}

theorem length_callerLines (hlines : sample.callerLines? caller = some lines) :
    lines.length = 9 + 4 * sample.stepsPerCaller + sample.padding := by
  have hsize : ∀ step, (sample.callLines caller step).length = 4 := fun _ => rfl
  rw [(callerLines?_eq_some hlines).2, callerLines, List.length_append, List.length_append,
    length_flatMap_range hsize]
  simp [paddingLines, callerHeader]

theorem CallerLine.getElem?_eq {i : Nat} {front tail : Text}
    (h : CallerLine sample caller i front tail) (hlines : sample.callerLines? caller = some lines) :
    lines[i]? = some (front ++ tail) := by
  have hsize : ∀ step, (sample.callLines caller step).length = 4 := fun _ => rfl
  rw [(callerLines?_eq_some hlines).2, callerLines]
  have hblock := fun {step r} (h : step < sample.stepsPerCaller) (hr : r < 4) =>
    getElem?_block hsize (callerHeader caller) sample.paddingLines h hr
  have hfooter := getElem?_footer (n := sample.stepsPerCaller) hsize (callerHeader caller)
    sample.paddingLines
  rw [show (callerHeader caller).length = 9 from rfl] at hblock hfooter
  cases h with
  | apiVersion | kind | metadata | spec | entrypoint | templates | main | steps => rfl
  | name => rfl
  | @step step h =>
    rw [show 9 + 4 * step = 9 + (4 * step + 0) from rfl, hblock h (by decide)]
    rfl
  | @reference step h =>
    rw [show 10 + 4 * step = 9 + (4 * step + 1) by omega, hblock h (by decide)]
    rfl
  | @owner step h =>
    rw [show 11 + 4 * step = 9 + (4 * step + 2) by omega, hblock h (by decide)]
    rfl
  | @template step h =>
    rw [show 12 + 4 * step = 9 + (4 * step + 3) by omega, hblock h (by decide)]
    rfl
  | padding h => exact (hfooter _).trans (getElem?_paddingLines h)

/-- Every line of a caller is in the table. -/
theorem exists_callerLine {i : Nat} (caller : Nat)
    (hi : i < 9 + 4 * sample.stepsPerCaller + sample.padding) :
    ∃ front tail, CallerLine sample caller i front tail := by
  by_cases hheader : i < 9
  · match i, hheader with
    | 0, _ => exact ⟨_, _, .apiVersion⟩
    | 1, _ => exact ⟨_, _, .kind⟩
    | 2, _ => exact ⟨_, _, .metadata⟩
    | 3, _ => exact ⟨_, _, .name⟩
    | 4, _ => exact ⟨_, _, .spec⟩
    | 5, _ => exact ⟨_, _, .entrypoint⟩
    | 6, _ => exact ⟨_, _, .templates⟩
    | 7, _ => exact ⟨_, _, .main⟩
    | 8, _ => exact ⟨_, _, .steps⟩
  by_cases hsteps : i < 9 + 4 * sample.stepsPerCaller
  · -- the step and the line of it
    have hstep : (i - 9) / 4 < sample.stepsPerCaller := by omega
    obtain hr | hr | hr | hr :
        (i - 9) % 4 = 0 ∨ (i - 9) % 4 = 1 ∨ (i - 9) % 4 = 2 ∨ (i - 9) % 4 = 3 := by omega
    · rw [show i = 9 + 4 * ((i - 9) / 4) by omega]
      exact ⟨_, _, .step hstep⟩
    · rw [show i = 10 + 4 * ((i - 9) / 4) by omega]
      exact ⟨_, _, .reference hstep⟩
    · rw [show i = 11 + 4 * ((i - 9) / 4) by omega]
      exact ⟨_, _, .owner hstep⟩
    · rw [show i = 12 + 4 * ((i - 9) / 4) by omega]
      exact ⟨_, _, .template hstep⟩
  · rw [show i = 9 + 4 * sample.stepsPerCaller + (i - 9 - 4 * sample.stepsPerCaller) by omega]
    exact ⟨_, _, .padding (by omega)⟩

/-- **A caller as a table.** -/
theorem getElem?_callerLines (hlines : sample.callerLines? caller = some lines) {i : Nat}
    {line : Text} :
    lines[i]? = some line
      ↔ ∃ front tail, CallerLine sample caller i front tail ∧ line = front ++ tail := by
  constructor
  · intro hline
    have hlt := (List.getElem?_eq_some_iff.1 hline).1
    rw [length_callerLines hlines] at hlt
    obtain ⟨front, tail, h⟩ := exists_callerLine caller hlt
    exact ⟨front, tail, h, Option.some.inj (hline.symm.trans (h.getElem?_eq hlines))⟩
  · rintro ⟨front, tail, h, rfl⟩
    exact h.getElem?_eq hlines

theorem exists_of_mem_callerLines (hlines : sample.callerLines? caller = some lines) {line : Text}
    (hline : line ∈ lines) :
    ∃ i front tail, CallerLine sample caller i front tail ∧ line = front ++ tail := by
  obtain ⟨i, hi⟩ := List.getElem?_of_mem hline
  exact ⟨i, (getElem?_callerLines hlines).1 hi⟩

end Caller

/-! ## Written and read back

Every character of a sample file is one of a keyboard, its line ends apart. So the bytes on the disk
are read as the text that was written, and the text as its lines. -/

theorem isKey_of_mem_libraryLines {sample : Sample} {library : Nat} :
    ∀ line ∈ sample.libraryLines library, ∀ c ∈ line, Text.isKey c = true := by
  intro line hline
  obtain ⟨i, front, tail, h, rfl⟩ := exists_of_mem_libraryLines hline
  have hfront : ∀ c ∈ front, Text.isKey c = true := by
    cases h <;> exact List.all_eq_true.1 (by decide)
  exact List.forall_mem_append.2
    ⟨hfront, fun c hc => Text.isKey_of_isTag (h.isTag c hc)⟩

theorem isKey_of_mem_callerLines {sample : Sample} {caller : Nat} {lines : List Text}
    (hlines : sample.callerLines? caller = some lines) :
    ∀ line ∈ lines, ∀ c ∈ line, Text.isKey c = true := by
  intro line hline
  obtain ⟨i, front, tail, h, rfl⟩ := exists_of_mem_callerLines hlines hline
  have hfront : ∀ c ∈ front, Text.isKey c = true := by
    cases h <;> exact List.all_eq_true.1 (by decide)
  exact List.forall_mem_append.2
    ⟨hfront, fun c hc => Text.isKey_of_isTag (h.isTag c hc)⟩

theorem lines_unlines {lines : List Text} (h : ∀ line ∈ lines, ∀ c ∈ line, Text.isKey c = true) :
    Text.lines (unlines lines) = lines := Text.lines_flatMap h

theorem decode?_encode_unlines {lines : List Text}
    (h : ∀ line ∈ lines, ∀ c ∈ line, Text.isKey c = true) :
    Text.decode? (Text.encode (unlines lines)) = some (unlines lines) := by
  refine Text.decode?_encode fun c hc => ?_
  obtain ⟨line, hline, hc⟩ := List.mem_flatMap.1 hc
  rcases List.mem_append.1 hc with hc | hc
  · exact Text.toNat_lt_of_isKey (h line hline c hc)
  · rw [List.mem_singleton.1 hc]
    decide

end Sample

end WorkflowNav
