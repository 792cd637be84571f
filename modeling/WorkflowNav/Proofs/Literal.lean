/-
The entry of a name, for any name.

`isEntryOf` is told which name to look for, and what it is told is a text and nothing more: a dot in
it is a dot. The name need not be one that a line could show. It may start with blanks, which then
run into the blanks before it. It may end with blanks or hold a `#`, and then what looks like the
space or the comment after the name is a part of it. A line can come apart in several ways around
such a name, and the test goes through one kind of choice only: where the blanks before the name
end. That no other choice is missed is what `isEntryOf_eq_true_iff` says: a line passes if there is
any way at all to lay it out around the name (`EntryLayout`).

Two other tests ask less of the same line. `isEntry` asks for something after the key, and
`isNewItem` for the key alone, or for another dash in its place. So the three are nested, as long as
the name is not empty. Which name a passing line shows to `name?` is another matter, because `name?`
looks for the key anywhere, and a name or a comment may well hold one. But nothing before the key of
an entry can be taken for its start. The first key is the entry's own, and the name is read back if
it can be read at all.
-/
import WorkflowNav.Proofs.Value

set_option autoImplicit false

namespace WorkflowNav.Manifest

/-! ## The line around a name -/

/-- What may stand around a name in its entry: blanks, the dash, at least one blank, the key and
blanks before it, and blanks and a comment after it. -/
structure EntryLayout where
  indent : Text
  gap : Text
  space : Text
  back : Text
  tail : Text
  indent_blank : ∀ c ∈ indent, Text.isBlank c = true
  gap_ne_nil : gap ≠ []
  gap_blank : ∀ c ∈ gap, Text.isBlank c = true
  space_blank : ∀ c ∈ space, Text.isBlank c = true
  back_blank : ∀ c ∈ back, Text.isBlank c = true
  tail_comment : tail = [] ∨ ∃ rest, tail = '#' :: rest

namespace EntryLayout

variable (layout : EntryLayout) (name : Text)

/-- What follows the key. -/
def afterKey : Text := layout.space ++ (name ++ (layout.back ++ layout.tail))

/-- The entry of a name, laid out. -/
def around : Text :=
  layout.indent ++ '-' :: (layout.gap ++ (Marker.name ++ layout.afterKey name))

theorem afterEntryKey?_around :
    afterEntryKey? (layout.around name) = some (layout.afterKey name) :=
  afterEntryKey?_eq_some_iff.2
    ⟨_, _, layout.indent_blank, layout.gap_ne_nil, layout.gap_blank, rfl⟩

/-- A tail is a comment if it stays on the line. -/
theorem isTrailer_back (hnewline : '\n' ∉ layout.tail) :
    isTrailer (layout.back ++ layout.tail) = true := by
  refine isTrailer_iff.2 ⟨_, _, layout.back_blank, ?_, rfl⟩
  rcases layout.tail_comment with hnil | ⟨rest, htail⟩
  · exact .inl hnil
  · rw [htail, List.mem_cons, not_or] at hnewline
    exact .inr ⟨rest, hnewline.2, htail⟩

variable {layout name}

theorem newline_notMem_afterKey (h : '\n' ∉ layout.around name) :
    '\n' ∉ layout.afterKey name := fun hmem =>
  h ((isSuffix_of_afterEntryKey? (layout.afterEntryKey?_around name)).mem hmem)

theorem newline_notMem_tail (h : '\n' ∉ layout.around name) : '\n' ∉ layout.tail := fun hmem =>
  newline_notMem_afterKey h (by simp [afterKey, hmem])

end EntryLayout

/-! ## The three tests -/

section Tests

variable {name line : Text}

/-- A line is the entry of a name if it can be laid out around the name, with a tail that ends with
the line. The line may hold a line end in its blanks. -/
theorem isEntryOf_eq_true_iff :
    isEntryOf name line = true
      ↔ ∃ layout : EntryLayout, '\n' ∉ layout.tail ∧ line = layout.around name := by
  rw [isEntryOf_iff]
  constructor
  · rintro ⟨space, rest, hspace, hrest, hafter⟩
    obtain ⟨indent, gap, hindent, hne, hgap, rfl⟩ := afterEntryKey?_eq_some_iff.1 hafter
    obtain ⟨back, tail, hback, htail, rfl⟩ := isTrailer_iff.1 hrest
    have hcomment : tail = [] ∨ ∃ rest, tail = '#' :: rest :=
      htail.imp_right fun ⟨rest, _, heq⟩ => ⟨rest, heq⟩
    -- a tail that goes past its line is no comment, so the test has seen to that
    have hnewline : '\n' ∉ tail := by
      rcases htail with rfl | ⟨comment, hstays, rfl⟩
      · exact List.not_mem_nil
      · rw [List.mem_cons, not_or]
        exact ⟨by decide, hstays⟩
    exact ⟨⟨indent, gap, space, back, tail, hindent, hne, hgap, hspace, hback, hcomment⟩,
      hnewline, rfl⟩
  · rintro ⟨layout, hnewline, rfl⟩
    exact ⟨layout.space, layout.back ++ layout.tail, layout.space_blank,
      layout.isTrailer_back hnewline, layout.afterEntryKey?_around name⟩

/-- In a line without a line end there is nothing to ask of the tail. -/
theorem isEntryOf_eq_true_iff_of_newline_notMem (hnewline : '\n' ∉ line) :
    isEntryOf name line = true ↔ ∃ layout : EntryLayout, line = layout.around name := by
  rw [isEntryOf_eq_true_iff]
  constructor
  · rintro ⟨layout, -, hline⟩
    exact ⟨layout, hline⟩
  · rintro ⟨layout, rfl⟩
    exact ⟨layout, EntryLayout.newline_notMem_tail hnewline, rfl⟩

/-- An entry has a key, and a key is enough for a new item. -/
theorem isNewItem_of_isEntry (h : isEntry line = true) : isNewItem line = true := by
  obtain ⟨written, hwritten⟩ := Option.isSome_iff_exists.1 h
  obtain ⟨rest, hafter, -⟩ := Option.bind_eq_some_iff.1 hwritten
  obtain ⟨body, hbody, hkey⟩ := Option.bind_eq_some_iff.1 hafter
  rw [List.isPrefixOf?_eq_some_iff_append_eq] at hkey
  rw [isNewItem, hbody]
  simp [List.isPrefixOf_iff_prefix.2 ⟨rest, hkey⟩]

end Tests

/-! ## What an entry shows -/

namespace EntryLayout

variable {layout : EntryLayout} {name : Text}

theorem isEntry_around (hnewline : '\n' ∉ layout.around name) (hne : name ≠ []) :
    isEntry (layout.around name) = true :=
  isEntry_of_afterEntryKey? hnewline (layout.afterEntryKey?_around name) (by simp [afterKey, hne])

/-- The text of an entry goes on from the name, with all that follows it. -/
theorem entryText?_around (hnewline : '\n' ∉ layout.around name) (hname : IsValue name) :
    entryText? (layout.around name) = some (name ++ (layout.back ++ layout.tail)) := by
  have hrest := newline_notMem_afterKey hnewline
  obtain ⟨c, more, rfl⟩ := List.exists_cons_of_ne_nil hname.ne_nil
  have hc := not_blank_of_isValueChar (hname.all c List.mem_cons_self)
  exact entryText?_of_afterEntryKey? (layout.afterEntryKey?_around _) layout.space_blank hc
    fun hmem => hrest (List.mem_append_right _ hmem)

/-- The name of an entry is read back if it is one that can be read. -/
theorem name?_around_iff (hnewline : '\n' ∉ layout.around name) :
    name? (layout.around name) = some name ↔ IsValue name := by
  constructor
  · exact isValue_of_valueOf?
  · intro hname
    have hread := value?_written layout.space_blank hname
      (layout.isTrailer_back (newline_notMem_tail hnewline))
    -- the search never comes to a key in the name or the tail, the entry's own has a value
    exact name?_of_afterEntryKey? (layout.afterEntryKey?_around name) hread

end EntryLayout

/-- **A name is looked for literally.** A line is the entry of a name, whatever the name, exactly if
it can be laid out around it. Such a line is an entry too, unless the name is empty. It shows the
name exactly if that is something without quotes, `#` and blanks, and then its text goes on from the
name. Every entry is a new item. -/
theorem entry_taken_literally (name line : Text) :
    ('\n' ∉ line →
      (isEntryOf name line = true ↔ ∃ layout : EntryLayout, line = layout.around name)
      ∧ (isEntryOf name line = true →
        (name ≠ [] → isEntry line = true) ∧ (name? line = some name ↔ IsValue name))
      ∧ ∀ layout : EntryLayout, line = layout.around name → IsValue name →
        entryText? line = some (name ++ (layout.back ++ layout.tail)))
    ∧ (isEntry line = true → isNewItem line = true) := by
  refine ⟨fun hnewline => ?_, isNewItem_of_isEntry⟩
  have hlaid : isEntryOf name line = true ↔ ∃ layout : EntryLayout, line = layout.around name :=
    isEntryOf_eq_true_iff_of_newline_notMem hnewline
  refine ⟨hlaid, ?_, ?_⟩
  · intro hentry
    obtain ⟨layout, rfl⟩ := hlaid.1 hentry
    exact ⟨EntryLayout.isEntry_around hnewline, EntryLayout.name?_around_iff hnewline⟩
  · rintro layout rfl hname
    exact EntryLayout.entryText?_around hnewline hname

/-- A key in the comment of an entry. -/
def exampleLayout : EntryLayout where
  indent := "  ".toList
  gap := "\t ".toList
  space := "\t".toList
  back := "\t".toList
  tail := "# name: y".toList
  indent_blank := List.all_eq_true.1 (by decide)
  gap_ne_nil := List.cons_ne_nil '\t' [' ']
  gap_blank := List.all_eq_true.1 (by decide)
  space_blank := List.all_eq_true.1 (by decide)
  back_blank := List.all_eq_true.1 (by decide)
  tail_comment := .inr ⟨" name: y".toList, rfl⟩

/-- A name that runs into the blanks on both sides of it and into the comment, and a name with a key
in it. -/
theorem entry_taken_literally_overlapping :
    ('\n' ∉ "- name:   a.*#b  # c".toList
      ∧ isEntryOf " a.*#b ".toList "- name:   a.*#b  # c".toList = true
      ∧ (∃ layout : EntryLayout,
        "- name:   a.*#b  # c".toList = layout.around " a.*#b ".toList)
      ∧ isEntry "- name:   a.*#b  # c".toList = true
      ∧ name? "- name:   a.*#b  # c".toList ≠ some " a.*#b ".toList)
    ∧ '\n' ∉ exampleLayout.around "name:x".toList
      ∧ IsValue "name:x".toList
      ∧ name? (exampleLayout.around "name:x".toList) = some "name:x".toList
      ∧ entryText? (exampleLayout.around "name:x".toList) = some "name:x\t# name: y".toList
      ∧ isNewItem (exampleLayout.around "name:x".toList) = true := by
  constructor
  · have hnewline : '\n' ∉ "- name:   a.*#b  # c".toList := by decide +kernel
    have hentry : isEntryOf " a.*#b ".toList "- name:   a.*#b  # c".toList = true := by
      decide +kernel
    obtain ⟨hlaid, hshown, -⟩ := (entry_taken_literally _ _).1 hnewline
    obtain ⟨hisEntry, hname⟩ := hshown hentry
    exact ⟨hnewline, hentry, hlaid.1 hentry, hisEntry (by decide),
      fun hread => absurd (hname.1 hread) (by decide)⟩
  · have hnewline : '\n' ∉ exampleLayout.around "name:x".toList := by decide +kernel
    have hvalue : IsValue "name:x".toList := by decide
    obtain ⟨hlaid, hshown, htext⟩ := (entry_taken_literally "name:x".toList _).1 hnewline
    obtain ⟨hisEntry, hname⟩ := hshown (hlaid.2 ⟨exampleLayout, rfl⟩)
    exact ⟨hnewline, hvalue, hname.2 hvalue, htext exampleLayout rfl hvalue,
      (entry_taken_literally "name:x".toList _).2 (hisEntry hvalue.ne_nil)⟩

/-- A dot stands for a dot, and a name does not end where a longer one goes on. -/
example : isEntryOf "say.hello".toList "  - name: say.hello   # entry".toList = true
    ∧ isEntryOf "say.hello".toList "  - name: sayXhello".toList = false
    ∧ isEntryOf "say.hello".toList "  - name: say.hello-2".toList = false := by
  decide +kernel

/-- The empty name has an entry that is a new item and no entry to the cursor. -/
example : isEntryOf [] "- name:".toList = true ∧ isEntry "- name:".toList = false
    ∧ isNewItem "- name:".toList = true := by
  decide +kernel

end WorkflowNav.Manifest
