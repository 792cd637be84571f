/-
Which entries the search for a template can come to.

An entry of a list of templates is read in three ways. `isEntry` says that a line is one, `name?`
reads the name in it, and `isEntryOf` tests it for a given name. The cursor goes by the first two
and the search by the third. Each has its own idea of what may stand around a name: `name?` takes
quotes off and passes over a key without a value, `isEntryOf` does neither.

So a line can be an entry with a name and still not be the entry of that name. It is one exactly if
the value of its own key stands there without quotes (`IsBareEntry`), and this says nothing of the
name. No file makes up for the rest: a line is found by its name in some file if and only if it is
bare.
-/
import WorkflowNav.Proofs.Entry
import WorkflowNav.Proofs.Value
import WorkflowNav.Site

set_option autoImplicit false

namespace WorkflowNav.Manifest

/-! ## Quotes around a value -/

section Quotes

variable {value : Text} (wrapping : Wrapping)

/-- What stands before the comment. A `#` starts a comment wherever it stands, so the parts before
it have none. -/
theorem Wrapping.takeWhile_around (hvalue : IsValue value) :
    (wrapping.around value).takeWhile (· != '#')
      = wrapping.gap ++ (wrapping.opening ++ (value ++ (wrapping.closing ++ wrapping.space))) := by
  have hblank : ∀ c, Text.isBlank c = true → (c != '#') = true := by
    intro c hc
    exact bne_iff_ne.2 fun h => absurd (h ▸ hc) (by decide)
  have hmark : ∀ {mark}, IsMark mark → ∀ c ∈ mark, (c != '#') = true := by
    rintro mark (rfl | ⟨q, hq, rfl⟩) c hc
    · exact absurd hc (by simp)
    · rw [List.mem_singleton.1 hc]
      exact bne_iff_ne.2 fun h => absurd (h ▸ hq) (by decide)
  have hchar : ∀ c ∈ value, (c != '#') = true := fun c hc =>
    bne_iff_ne.2 fun h => absurd (h ▸ hvalue.all c hc) (by decide)
  have hcomment : wrapping.comment.takeWhile (· != '#') = [] := by
    rcases wrapping.comment_end with h | ⟨rest, -, h⟩ <;> simp [h]
  rw [Wrapping.around, Wrapping.back,
    List.takeWhile_append_of_pos fun c hc => hblank c (wrapping.gap_blank c hc),
    List.takeWhile_append_of_pos (hmark wrapping.opening_mark),
    List.takeWhile_append_of_pos hchar,
    List.takeWhile_append_of_pos (hmark wrapping.closing_mark),
    List.takeWhile_append_of_pos fun c hc => hblank c (wrapping.space_blank c hc),
    hcomment, List.append_nil]

/-- A quote before the comment is one of the two around the value. -/
theorem Wrapping.unquoted_iff (hvalue : IsValue value) :
    (∀ c ∈ (wrapping.around value).takeWhile (· != '#'), isQuote c = false)
      ↔ wrapping.opening = [] ∧ wrapping.closing = [] := by
  have hmark : ∀ {mark}, IsMark mark → (∀ c ∈ mark, isQuote c = false) → mark = [] := by
    rintro mark (rfl | ⟨q, hq, rfl⟩) hnone
    · rfl
    · rw [hnone q List.mem_cons_self] at hq
      exact absurd hq (by decide)
  rw [wrapping.takeWhile_around hvalue]
  simp only [List.mem_append]
  constructor
  · intro hnone
    exact ⟨hmark wrapping.opening_mark fun c hc => hnone c (.inr (.inl hc)),
      hmark wrapping.closing_mark fun c hc => hnone c (.inr (.inr (.inr (.inl hc))))⟩
  · rintro ⟨hopening, hclosing⟩ c hc
    rw [hopening, hclosing] at hc
    rcases hc with hc | hc | hc | hc | hc
    · exact not_quote_of_isBlank (wrapping.gap_blank c hc)
    · exact absurd hc (by simp)
    · exact not_quote_of_isValueChar (hvalue.all c hc)
    · exact absurd hc (by simp)
    · exact not_quote_of_isBlank (wrapping.space_blank c hc)

end Quotes

/-! ## Bare entries -/

/-- The key of an entry has a value of its own, and there is no quote before the comment. -/
def IsBareEntry (line : Text) : Prop :=
  ∃ rest, afterEntryKey? line = some rest ∧ value? rest ≠ none
    ∧ ∀ c ∈ rest.takeWhile (· != '#'), isQuote c = false

section Bare

variable {line name : Text}

/-- A line with a name is the entry of that name if it is a bare entry. -/
theorem isEntryOf_iff_isBareEntry (hname : name? line = some name) :
    isEntryOf name line = true ↔ IsBareEntry line := by
  constructor
  · intro h
    obtain ⟨gap, back, hgap, hback, hafter⟩ := isEntryOf_iff.1 h
    obtain ⟨space, comment, hspace, hcomment, rfl⟩ := isTrailer_iff.1 hback
    have hvalue : IsValue name := isValue_of_valueOf? hname
    let wrapping : Wrapping :=
      ⟨gap, [], [], space, comment, hgap, .inl rfl, .inl rfl, hspace, hcomment⟩
    refine ⟨wrapping.around name, hafter, ?_, ?_⟩
    · rw [value?_around wrapping hvalue]
      simp
    · exact (wrapping.unquoted_iff hvalue).2 ⟨rfl, rfl⟩
  · rintro ⟨rest, hafter, hsome, hunquoted⟩
    obtain ⟨value, hvalue⟩ := Option.ne_none_iff_exists'.1 hsome
    -- the value of the entry's own key is the first in the line, so it is the name
    have hread := name?_of_afterEntryKey? hafter hvalue
    obtain rfl : value = name := Option.some.inj (hread.symm.trans hname)
    obtain ⟨hisValue, wrapping, rfl⟩ := value?_eq_some_iff.1 hvalue
    obtain ⟨hopening, hclosing⟩ := (wrapping.unquoted_iff hisValue).1 hunquoted
    refine isEntryOf_iff.2
      ⟨wrapping.gap, wrapping.space ++ wrapping.comment, wrapping.gap_blank,
        wrapping.isTrailer_space, ?_⟩
    rw [hafter, Wrapping.around, Wrapping.back, hopening, hclosing, List.nil_append,
      List.nil_append]

/-- An entry starts with a blank or a dash, so no document opens with it. -/
theorem not_kind_of_isEntryOf (h : isEntryOf name line = true) :
    Marker.kind.isPrefixOf line = false := by
  obtain ⟨gap, back, -, -, hafter⟩ := isEntryOf_iff.1 h
  obtain ⟨front, space, hfront, -, -, rfl⟩ := afterEntryKey?_eq_some_iff.1 hafter
  cases front with
  | nil => rfl
  | cons c front =>
    have hc := hfront c List.mem_cons_self
    have hne : 'k' ≠ c := by
      rintro rfl
      exact absurd hc (by decide)
    have hkind : Marker.kind = 'k' :: "ind:".toList := by decide
    rw [hkind, List.cons_append, List.isPrefixOf]
    simp [hne]

end Bare

/-! ## Files that list an entry -/

/-- A file that is open for an entry: a library with the start of its list. -/
def openLibrary : List Text :=
  ["kind: WorkflowTemplate".toList, "metadata:".toList, "  name: lib".toList,
    "templates:".toList]

section Library

variable {line name : Text}

theorem lists_openLibrary (h : isEntryOf name line = true) :
    Lists (openLibrary ++ [line]) "lib".toList name 0 4 := by
  have hinside : ∀ b, 0 < b → b ≤ 4 → ¬ Boundary (openLibrary ++ [line]) b := by
    intro b hpos hle
    rw [boundary_iff]
    by_cases hlast : b = 4
    · subst hlast
      have hline : isBoundary? (openLibrary ++ [line]) 4
          = some (opensDocument (some "templates:".toList) line) := rfl
      have hseparator : (some "templates:".toList == some Marker.separator) = false := by decide
      rw [hline, opensDocument, not_kind_of_isEntryOf h, hseparator]
      simp
    · -- the lines above are known
      have hfront : isBoundary? (openLibrary ++ [line]) b = some false := by
        obtain rfl | rfl | rfl : b = 1 ∨ b = 2 ∨ b = 3 := by omega
        all_goals rfl
      simp [hfront]
  refine ⟨⟨_, rfl, by decide +kernel⟩, hinside, ⟨2, by decide, ?_, ⟨_, rfl, by decide +kernel⟩, ?_⟩,
    ⟨3, by decide, by decide, ⟨_, rfl, by decide +kernel⟩⟩, ⟨line, rfl, h⟩⟩
  · exact fun b hpos hle => hinside b hpos (by omega)
  · have hread : name? "  name: lib".toList = some "lib".toList := by decide +kernel
    exact hread

/-- An entry that is put into the open library is the one that is found there. -/
theorem templatePosition?_openLibrary (h : isEntryOf name line = true) :
    templatePosition? (openLibrary ++ [line]) "lib".toList name = some 4 := by
  refine templatePosition?_eq_some_iff_isLeast.2
    ⟨0, ⟨lists_openLibrary h, ?_⟩, fun k' _ hlt => absurd hlt (by omega)⟩
  intro j hlists
  obtain ⟨s, -, hsj, text, htext, hlist⟩ := hlists.list
  by_contra hlt
  obtain rfl | rfl | rfl : s = 0 ∨ s = 1 ∨ s = 2 := by omega
  all_goals
    obtain rfl := Option.some.inj htext
    exact absurd hlist (by decide +kernel)

/-- The search for a name ends at a line in some file if the line is an entry of that name. -/
theorem exists_templateDefinition?_iff (hnewline : '\n' ∉ line) :
    (∃ text owner, ∃ j : UInt32, (Text.lines text).length ≤ UInt32.size
        ∧ (Text.lines text)[j.toNat]? = some line
        ∧ templateDefinition? (Text.lines text) owner name = some j)
      ↔ isEntryOf name line = true := by
  constructor
  · rintro ⟨text, owner, j, hlines, hline, hfound⟩
    rw [templateDefinition?_eq_some hlines] at hfound
    obtain ⟨k, ⟨hlists, -⟩, -⟩ := templatePosition?_eq_some_iff_isLeast.1 hfound
    exact (lineAt_iff hline).1 hlists.entry
  · intro h
    have hne : line ≠ [] := by
      rintro rfl
      exact absurd h (by simp [isEntryOf, afterEntryKey?, itemBody?, Text.dropBlanks])
    have hall : openLibrary.all (·.all Text.isKey) = true := by decide +kernel
    have hkeys : ∀ text ∈ openLibrary, ∀ c ∈ text, Text.isKey c = true := fun text htext =>
      List.all_eq_true.1 (List.all_eq_true.1 hall text htext)
    have hlines : Text.lines (openLibrary.flatMap (· ++ ['\n']) ++ line)
        = openLibrary ++ [line] := by
      rw [Text.lines_flatMap_append hkeys, Text.lines_eq_singleton hne hnewline]
    refine ⟨openLibrary.flatMap (· ++ ['\n']) ++ line, "lib".toList, 4, ?_⟩
    rw [hlines]
    refine ⟨?_, rfl, ?_⟩
    · rw [List.length_append, List.length_singleton]
      decide
    · rw [templateDefinition?, templatePosition?_openLibrary h]
      rfl

end Library

/-- **An entry is found by its name exactly if it is bare.** A line with a name is the entry of that
name if it is a bare entry, and then it is an entry to the cursor too. In some file of at most 2³²
lines the search for the name ends at that line if it is a bare entry, and in no such file
otherwise. -/
theorem found_by_name_iff_isBareEntry (line name : Text) (hnewline : '\n' ∉ line)
    (hname : name? line = some name) :
    (isEntryOf name line = true ↔ IsBareEntry line)
    ∧ (IsBareEntry line → isEntry line = true)
    ∧ ((∃ text owner, ∃ j : UInt32, (Text.lines text).length ≤ UInt32.size
        ∧ (Text.lines text)[j.toNat]? = some line
        ∧ templateDefinition? (Text.lines text) owner name = some j)
      ↔ IsBareEntry line) := by
  have hbare := isEntryOf_iff_isBareEntry hname
  refine ⟨hbare, ?_, (exists_templateDefinition?_iff hnewline).trans hbare⟩
  intro h
  exact (name?_of_isEntryOf (isValue_of_valueOf? hname) hnewline (hbare.2 h)).2

/-- Quotes in the comment do no harm. -/
theorem found_by_name_iff_isBareEntry_comment :
    '\n' ∉ "  - name: greet # says \"hello\"".toList
      ∧ name? "  - name: greet # says \"hello\"".toList = some "greet".toList
      ∧ IsBareEntry "  - name: greet # says \"hello\"".toList
      ∧ ∃ text owner, ∃ j : UInt32, (Text.lines text).length ≤ UInt32.size
        ∧ (Text.lines text)[j.toNat]? = some "  - name: greet # says \"hello\"".toList
        ∧ templateDefinition? (Text.lines text) owner "greet".toList = some j := by
  have hnewline : '\n' ∉ "  - name: greet # says \"hello\"".toList := by decide +kernel
  have hname : name? "  - name: greet # says \"hello\"".toList = some "greet".toList := by
    decide +kernel
  have hentry : isEntryOf "greet".toList "  - name: greet # says \"hello\"".toList = true := by
    decide +kernel
  obtain ⟨hbare, -, hfound⟩ := found_by_name_iff_isBareEntry _ _ hnewline hname
  exact ⟨hnewline, hname, hbare.1 hentry, hfound.2 (hbare.1 hentry)⟩

/-- A library with a quoted entry. -/
def exampleQuoted : List Text := openLibrary ++ ["  - name: \"step2\"".toList]

/-- The cursor on a quoted entry stands on the definition of its name, and the search for that name
does not find it. -/
theorem quoted_entry_not_found :
    isEntry "  - name: \"step2\"".toList = true
      ∧ name? "  - name: \"step2\"".toList = some "step2".toList
      ∧ '\n' ∉ "  - name: \"step2\"".toList
      ∧ isEntryOf "step2".toList "  - name: \"step2\"".toList = false
      ∧ Site.at? exampleQuoted 4 0
        = some (.templateDefinition "lib".toList "step2".toList)
      ∧ templateDefinition? exampleQuoted "lib".toList "step2".toList = none := by
  decide +kernel

end WorkflowNav.Manifest
