/-
How a line ends says nothing.

A manifest may be saved with carriage returns before its line feeds or without them, and with or
without a line feed at its very end. Nobody sees the difference, and nothing that is found in it may
depend on it.

Carriage returns go when a text is cut into lines, so the lines are the same (`lines_withReturns`).
A line feed at the end mostly leaves the lines as they are, too. But after an empty last line it
adds one more, and then the files do have different numbers of lines. The last line is empty, and an
empty line passes no test and gives no value. Searches that are told by the lines that pass a test,
as all of them are here, cannot see it (`getElem?_concat_eq_some`).
-/
import WorkflowNav.Proofs.Cursor
import WorkflowNav.Proofs.References

set_option autoImplicit false

namespace WorkflowNav

namespace Text

/-! ## Lines and their ends -/

/-- A text with a carriage return before each line feed. -/
def withReturns (text : Text) : Text :=
  text.flatMap fun c => if c = '\n' then ['\r', '\n'] else [c]

theorem withReturns_newline (rest : Text) :
    withReturns ('\n' :: rest) = '\r' :: '\n' :: withReturns rest := rfl

theorem withReturns_cons {c : Char} (h : c ≠ '\n') (rest : Text) :
    withReturns (c :: rest) = c :: withReturns rest := by
  rw [withReturns, List.flatMap_cons, if_neg h]
  rfl

theorem lines_withReturns {text : Text} (h : '\r' ∉ text) :
    lines (withReturns text) = lines text := by
  induction text with
  | nil => rfl
  | cons c rest ih =>
    rw [List.mem_cons, not_or] at h
    obtain ⟨hc, hrest⟩ := h
    by_cases hnewline : c = '\n'
    · rw [hnewline, withReturns_newline, lines_crlf, lines_newline, ih hrest]
    · -- `c` is no carriage return, so it ends no line together with what follows
      have hnot : ∀ (other more : Text), c = '\r' → other ≠ '\n' :: more := by
        intro other more hreturn
        exact absurd hreturn.symm hc
      rw [withReturns_cons hnewline, lines_cons hnewline (hnot _), ih hrest,
        lines_cons hnewline (hnot _)]

theorem lines_ne_nil {text : Text} (h : text ≠ []) : lines text ≠ [] := by
  fun_cases lines text with
  | case1 => exact absurd rfl h
  | _ => simp

/-- A line feed at the end adds at most an empty line. -/
theorem lines_concat_newline {text : Text} (h : '\r' ∉ text) :
    lines (text ++ ['\n']) = lines text ∨ lines (text ++ ['\n']) = lines text ++ [[]] := by
  induction text with
  | nil => exact .inr rfl
  | cons c rest ih =>
    rw [List.mem_cons, not_or] at h
    obtain ⟨hc, hrest⟩ := h
    rw [List.cons_append]
    by_cases hnewline : c = '\n'
    · rw [hnewline, lines_newline, lines_newline]
      rcases ih hrest with hsame | hmore
      · exact .inl (by rw [hsame])
      · exact .inr (by rw [hmore, List.cons_append])
    · have hnot : ∀ (other more : Text), c = '\r' → other ≠ '\n' :: more := by
        intro other more hreturn
        exact absurd hreturn.symm hc
      rw [lines_cons hnewline (hnot _), lines_cons hnewline (hnot _)]
      by_cases hempty : rest = []
      · -- the line feed ends the line of `c`
        rw [hempty]
        exact .inl rfl
      · rcases ih hrest with hsame | hmore
        · exact .inl (by rw [hsame])
        · exact .inr (by rw [hmore, consRow_append (lines_ne_nil hempty)])

end Text

namespace Manifest

/-! ## An empty line at the end -/

section Concat

variable {lines : List Text} {i n : Nat}

theorem getElem?_concat_of_ne (h : i ≠ lines.length) : (lines ++ [[]])[i]? = lines[i]? := by
  rcases Nat.lt_or_gt_of_ne h with hlt | hgt
  · exact List.getElem?_append_left hlt
  · have hlength : (lines ++ [[]]).length = lines.length + 1 := List.length_append
    rw [List.getElem?_eq_none (by omega), List.getElem?_eq_none (by omega)]

/-- A line that is not empty stands where it stood. -/
theorem getElem?_concat_eq_some {line : Text} (hne : line ≠ []) :
    (lines ++ [[]])[i]? = some line ↔ lines[i]? = some line := by
  by_cases hi : i = lines.length
  · rw [hi, List.getElem?_concat_length, List.getElem?_eq_none (Nat.le_refl _)]
    simp [hne.symm]
  · rw [getElem?_concat_of_ne hi]

theorem lineAt_concat {test : Text → Bool} (htest : test [] = false) :
    LineAt test (lines ++ [[]]) i ↔ LineAt test lines i := by
  have hne : ∀ line, test line = true → line ≠ [] := by
    rintro line hline rfl
    rw [htest] at hline
    exact absurd hline (by decide)
  constructor
  · rintro ⟨line, hline, hpass⟩
    exact ⟨line, (getElem?_concat_eq_some (hne line hpass)).1 hline, hpass⟩
  · rintro ⟨line, hline, hpass⟩
    exact ⟨line, (getElem?_concat_eq_some (hne line hpass)).2 hline, hpass⟩

/-- Nothing is read where nothing stands. -/
theorem bind_getElem?_concat {β : Type} {read : Text → Option β} (hread : read [] = none) :
    (lines ++ [[]])[i]?.bind read = lines[i]?.bind read := by
  by_cases hi : i = lines.length
  · rw [hi, List.getElem?_concat_length, List.getElem?_eq_none (Nat.le_refl _), Option.bind_some,
      hread, Option.bind_none]
  · rw [getElem?_concat_of_ne hi]

theorem nameAt?_concat (lines : List Text) (i : Nat) :
    nameAt? (lines ++ [[]]) i = nameAt? lines i := bind_getElem?_concat rfl

theorem templateAt?_concat (lines : List Text) (i : Nat) :
    templateAt? (lines ++ [[]]) i = templateAt? lines i := bind_getElem?_concat rfl

theorem linesWith_concat {marker : Text} (hmarker : Text.has marker [] = false)
    (lines : List Text) : linesWith marker (lines ++ [[]]) = linesWith marker lines := by
  have hnone : linesWith marker [[]] = [] := by
    apply linesWith_eq_nil
    intro line hline
    rw [List.mem_singleton.1 hline]
    exact hmarker
  rw [linesWith_append, hnone, List.map_nil, List.append_nil]

theorem boundary_concat : Boundary (lines ++ [[]]) i ↔ Boundary lines i := by
  unfold Boundary
  rw [lineAt_concat rfl, lineAt_concat rfl, getElem?_concat_eq_some (by decide)]

theorem lists_concat {owner template : Text} {k j : Nat} :
    Lists (lines ++ [[]]) owner template k j ↔ Lists lines owner template k j := by
  have hline : ∀ (test : Text → Bool), test [] = false →
      ∀ m, LineAt test (lines ++ [[]]) m ↔ LineAt test lines m := by
    intro test htest m
    exact lineAt_concat htest
  have hmetadata := hline (Text.has Marker.metadata) rfl
  have hlist := hline (Text.has Marker.templates) rfl
  constructor
  · rintro ⟨kind, inside, named, list, entry⟩
    simp only [boundary_concat, nameAt?_concat, hmetadata] at inside named
    simp only [hlist] at list
    exact ⟨(hline _ rfl k).1 kind, inside, named, list, (hline _ rfl j).1 entry⟩
  · rintro ⟨kind, inside, named, list, entry⟩
    refine ⟨(hline _ rfl k).2 kind, ?_, ?_, ?_, (hline _ rfl j).2 entry⟩
    · simpa only [boundary_concat] using inside
    · simpa only [boundary_concat, nameAt?_concat, hmetadata] using named
    · simpa only [hlist] using list

theorem inRefBlock_concat (h : n < lines.length) :
    InRefBlock (lines ++ [[]]) i n ↔ InRefBlock lines i n := by
  constructor
  · rintro ⟨hbelow, hreach, -, huncut⟩
    refine ⟨hbelow, hreach, h, ?_⟩
    intro m hlo hhi hitem
    exact huncut m hlo hhi ((lineAt_concat rfl).2 hitem)
  · rintro ⟨hbelow, hreach, -, huncut⟩
    refine ⟨hbelow, hreach, by rw [List.length_append]; omega, ?_⟩
    intro m hlo hhi hitem
    exact huncut m hlo hhi ((lineAt_concat rfl).1 hitem)

/-- What is looked for in a block is in the file, so that the empty line does not count. -/
theorem setOf_inRefBlock_concat {P Q : Nat → Prop} (hPQ : ∀ n, P n ↔ Q n)
    (hQ : ∀ n, Q n → n < lines.length) :
    {n | InRefBlock (lines ++ [[]]) i n ∧ P n} = {n | InRefBlock lines i n ∧ Q n} := by
  ext n
  constructor
  · rintro ⟨hblock, hpass⟩
    have hn := (hPQ n).1 hpass
    exact ⟨(inRefBlock_concat (hQ n hn)).1 hblock, hn⟩
  · rintro ⟨hblock, hn⟩
    exact ⟨(inRefBlock_concat (hQ n hn)).2 hblock, (hPQ n).2 hn⟩

theorem refPositions_concat (lines : List Text) (i : Nat) :
    refPositions (lines ++ [[]]) i = refPositions lines i := by
  have howner : (refPositions (lines ++ [[]]) i).owner = (refPositions lines i).owner := by
    have hset : {n | InRefBlock (lines ++ [[]]) i n
          ∧ LineAt (Text.has Marker.name) (lines ++ [[]]) n
          ∧ ¬ LineAt (Text.has Marker.template) (lines ++ [[]]) n}
        = {n | InRefBlock lines i n ∧ LineAt (Text.has Marker.name) lines n
          ∧ ¬ LineAt (Text.has Marker.template) lines n} := by
      apply setOf_inRefBlock_concat
      · intro n
        rw [lineAt_concat rfl, lineAt_concat rfl]
      · rintro n ⟨hname, -⟩
        exact hname.lt_length
    apply Option.ext
    rintro ⟨owner, n⟩
    rw [owner_refPositions_iff, owner_refPositions_iff, hset, nameAt?_concat]
  have htemplate : (refPositions (lines ++ [[]]) i).template = (refPositions lines i).template := by
    have hset : {j | InRefBlock (lines ++ [[]]) i j ∧ templateAt? (lines ++ [[]]) j ≠ none}
        = {j | InRefBlock lines i j ∧ templateAt? lines j ≠ none} := by
      apply setOf_inRefBlock_concat
      · intro n
        rw [templateAt?_concat]
      · intro n hn
        by_contra hge
        rw [templateAt?, List.getElem?_eq_none (by omega)] at hn
        exact hn rfl
    apply Option.ext
    rintro ⟨template, j⟩
    rw [template_refPositions_iff, template_refPositions_iff, hset, templateAt?_concat]
  calc refPositions (lines ++ [[]]) i
      = ⟨(refPositions (lines ++ [[]]) i).owner, (refPositions (lines ++ [[]]) i).template⟩ := rfl
    _ = ⟨(refPositions lines i).owner, (refPositions lines i).template⟩ := by rw [howner, htemplate]
    _ = refPositions lines i := rfl

theorem wholeRefLine?_concat (lines : List Text) (owner : Text) (r : Nat) :
    wholeRefLine? (lines ++ [[]]) owner r = wholeRefLine? lines owner r := by
  have hname : ∀ m, LineAt (fun line => name? line == some owner) (lines ++ [[]]) m
      ↔ LineAt (fun line => name? line == some owner) lines m := by
    intro m
    exact lineAt_concat rfl
  apply Option.ext
  intro j
  rw [wholeRefLine?, wholeRefLine?, firstIn_eq_some_iff_isLeast, firstIn_eq_some_iff_isLeast]
  simp only [hname]

/-! ## The searches on it -/

theorem definitions_concat (lines : List Text) (name : Text) :
    definitions (lines ++ [[]]) name = definitions lines name := by
  have hmetadata : ∀ m, LineAt (Text.has Marker.metadata) (lines ++ [[]]) m
      ↔ LineAt (Text.has Marker.metadata) lines m := by
    intro m
    exact lineAt_concat rfl
  have hname : ∀ k, metadataName? (lines ++ [[]]) k name = metadataName? lines k name := by
    intro k
    apply Option.ext
    intro j
    rw [metadataName?_eq_some_iff, metadataName?_eq_some_iff]
    simp only [nameAt?_concat, hmetadata]
  rw [definitions, definitions, definitionPositions, definitionPositions, kindLines, kindLines,
    linesWith_concat rfl]
  simp only [hname]

theorem templateDefinition?_concat (lines : List Text) (owner template : Text) :
    templateDefinition? (lines ++ [[]]) owner template
      = templateDefinition? lines owner template := by
  rw [templateDefinition?, templateDefinition?]
  congr 1
  apply Option.ext
  intro j
  rw [templatePosition?_eq_some_iff_isLeast, templatePosition?_eq_some_iff_isLeast]
  simp only [lists_concat]

theorem templateReferences_concat (lines : List Text) (owner template : Text) :
    templateReferences (lines ++ [[]]) owner template
      = templateReferences lines owner template := by
  unfold templateReferences
  rw [linesWith_concat rfl]
  simp only [refBlock, refPositions_concat]

theorem workflowTemplateReferences_concat (lines : List Text) (owner : Text) :
    workflowTemplateReferences (lines ++ [[]]) owner = workflowTemplateReferences lines owner := by
  have hpositions : ∀ i line,
      ownerPositionsAt (lines ++ [[]]) owner i line = ownerPositionsAt lines owner i line := by
    intro i line
    rw [ownerPositionsAt, ownerPositionsAt, wholeRefLine?_concat, refPositions_concat]
  rw [workflowTemplateReferences_eq_map, workflowTemplateReferences_eq_map,
    ownerReferencePositions, ownerReferencePositions, List.zipIdx_append, List.flatMap_append]
  simp only [hpositions]
  congr 1
  -- no marker stands in the empty line
  exact List.append_nil _

end Concat

end Manifest

/-! ## Texts that differ in their line ends -/

/-- Two texts in which everything is found alike: what stands under the cursor, and where symbols
are defined and referred to. -/
structure ReadAlike (one two : Text) : Prop where
  cursor : ∀ i column, Site.ofCursor? one i column = Site.ofCursor? two i column
  definitions : ∀ name,
    Manifest.definitions (Text.lines one) name = Manifest.definitions (Text.lines two) name
  templateDefinition : ∀ owner template,
    Manifest.templateDefinition? (Text.lines one) owner template
      = Manifest.templateDefinition? (Text.lines two) owner template
  templateReferences : ∀ owner template,
    Manifest.templateReferences (Text.lines one) owner template
      = Manifest.templateReferences (Text.lines two) owner template
  workflowTemplateReferences : ∀ owner,
    Manifest.workflowTemplateReferences (Text.lines one) owner
      = Manifest.workflowTemplateReferences (Text.lines two) owner

namespace ReadAlike

variable {one two : Text}

theorem of_lines (h : Text.lines one = Text.lines two) : ReadAlike one two where
  cursor := by
    intro i column
    rw [Site.ofCursor?, h, Site.ofCursor?]
  definitions := by
    intro name
    rw [h]
  templateDefinition := by
    intro owner template
    rw [h]
  templateReferences := by
    intro owner template
    rw [h]
  workflowTemplateReferences := by
    intro owner
    rw [h]

theorem of_lines_concat (h : Text.lines one = Text.lines two ++ [[]]) : ReadAlike one two where
  cursor := by
    intro i column
    rw [Site.ofCursor?, h, Site.at?_concat, Site.ofCursor?]
  definitions := by
    intro name
    rw [h, Manifest.definitions_concat]
  templateDefinition := by
    intro owner template
    rw [h, Manifest.templateDefinition?_concat]
  templateReferences := by
    intro owner template
    rw [h, Manifest.templateReferences_concat]
  workflowTemplateReferences := by
    intro owner
    rw [h, Manifest.workflowTemplateReferences_concat]

theorem symm (h : ReadAlike one two) : ReadAlike two one where
  cursor := fun i column => (h.cursor i column).symm
  definitions := fun name => (h.definitions name).symm
  templateDefinition := fun owner template => (h.templateDefinition owner template).symm
  templateReferences := fun owner template => (h.templateReferences owner template).symm
  workflowTemplateReferences := fun owner => (h.workflowTemplateReferences owner).symm

theorem concat_newline {text : Text} (h : '\r' ∉ text) : ReadAlike (text ++ ['\n']) text := by
  rcases Text.lines_concat_newline h with hsame | hmore
  · exact of_lines hsame
  · exact of_lines_concat hmore

end ReadAlike

/-- **Line ends do not matter.** In a text without carriage returns, everything is found where it is
found with a carriage return before each line feed, with one more line feed at the end, with both,
and with a final line feed taken away. -/
theorem line_ends_do_not_matter (text : Text) (h : '\r' ∉ text) :
    ReadAlike (Text.withReturns text) text
      ∧ ReadAlike (text ++ ['\n']) text
      ∧ ReadAlike (Text.withReturns (text ++ ['\n'])) text
      ∧ ∀ front, text = front ++ ['\n'] → ReadAlike front text := by
  have hconcat : '\r' ∉ text ++ ['\n'] := by
    rw [List.mem_append, not_or]
    exact ⟨h, by decide⟩
  refine ⟨.of_lines (Text.lines_withReturns h), .concat_newline h, ?_, ?_⟩
  · rcases Text.lines_concat_newline h with hsame | hmore
    · exact .of_lines ((Text.lines_withReturns hconcat).trans hsame)
    · exact .of_lines_concat ((Text.lines_withReturns hconcat).trans hmore)
  · rintro front rfl
    apply ReadAlike.symm
    apply ReadAlike.concat_newline
    intro hreturn
    exact h (List.mem_append_left _ hreturn)

/-- Two documents, of which the second opens with its version line right after the separator, and
whose last line has no end. -/
def exampleUnended : Text :=
  ("kind: WorkflowTemplate\nmetadata:\n  name: lib\n---\n"
    ++ "apiVersion: v1\ntemplates:\n- name: hi").toList

/-- The separator closes the block of the first document with carriage returns as well, so that the
entry of the second is no entry of `lib`. -/
theorem line_ends_do_not_matter_unended :
    '\r' ∉ exampleUnended
      ∧ Site.ofCursor? (Text.withReturns exampleUnended) 2 8
        = some (.workflowTemplateDefinition "lib".toList)
      ∧ Manifest.templateDefinition? (Text.lines (Text.withReturns (exampleUnended ++ ['\n'])))
        "lib".toList "hi".toList = none
      ∧ Manifest.definitions (Text.lines (exampleUnended ++ ['\n'])) "lib".toList = [2] := by
  have hreturn : '\r' ∉ exampleUnended := by decide +kernel
  obtain ⟨hreturns, hended, hboth, -⟩ := line_ends_do_not_matter exampleUnended hreturn
  refine ⟨hreturn, ?_, ?_, ?_⟩
  · rw [hreturns.cursor]
    decide +kernel
  · rw [hboth.templateDefinition]
    decide +kernel
  · rw [hended.definitions]
    decide +kernel

end WorkflowNav
