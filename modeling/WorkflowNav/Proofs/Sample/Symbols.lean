/-
What the rules find in a sample file, and what stands under a cursor in it.

A library has one kind line, so one block, and the rules find in it the name of the library, its
entries and no references. A caller has no kind line of a WorkflowTemplate, and the rules find in it
the references of its steps and no definitions. Both follow from the tables of `Sample.Lines` by
looking at which line each search stops on.

The cursor is read upwards through a window of lines. On a step of a caller the window is large
enough however many steps there are, because a step is four lines. On an entry of a library it has
to reach back to `templates:`, which it does for the first seventeen templates.
-/
import WorkflowNav.Navigator
import WorkflowNav.Proofs.Numbering
import WorkflowNav.Proofs.Sample.Lines

set_option autoImplicit false

namespace WorkflowNav.Sample

open Manifest

variable {sample : Sample} {library caller i : Nat} {front tail : Text}

/-! ## Markers in the tables -/

/-- The markers of a library, with the one line on which each stands. -/
def libraryMarks : List (Text × Nat) :=
  [(Marker.apiVersion, 0), (Marker.kind, 1), (Marker.workflowTemplate, 1), (Marker.metadata, 2),
    (Marker.templates, 5)]

theorem LibraryLine.has_iff (h : LibraryLine sample library i front tail) {marker : Text} {k : Nat}
    (hmark : (marker, k) ∈ libraryMarks) :
    Text.has marker (front ++ tail) = true ↔ i = k := by
  have hends : ∀ mark ∈ libraryMarks, Text.endsOutsideTags mark.1 = true := by decide
  have hheader : ∀ mark ∈ libraryMarks, mark.2 < 6 := by decide
  have hrest : 6 ≤ i → (∀ mark ∈ libraryMarks, Text.has mark.1 front = false) →
      ∀ mark ∈ libraryMarks, Text.has mark.1 front = true ↔ i = mark.2 := by
    intro hi hnone mark hmem
    have hlt := hheader mark hmem
    rw [hnone mark hmem]
    exact iff_of_false (by decide) (by omega)
  -- the tails hold no marker, so the fronts decide: each in the header by itself, none below it
  have hfront : ∀ mark ∈ libraryMarks, Text.has mark.1 front = true ↔ i = mark.2 := by
    cases h with
    | apiVersion | kind | metadata | name | spec | templates => decide
    | entry | container | image | padding => exact hrest (by omega) (by decide)
  rw [Text.has_append_tag (hends _ hmark) h.isTag]
  exact hfront _ hmark

theorem LibraryLine.has_eq_false (h : LibraryLine sample library i front tail) {marker : Text}
    {k : Nat} (hmark : (marker, k) ∈ libraryMarks) (hne : i ≠ k) :
    Text.has marker (front ++ tail) = false :=
  Bool.eq_false_iff.2 fun hhas => hne ((h.has_iff hmark).1 hhas)

theorem has_templateRef_of_mem_libraryLines {line : Text}
    (hline : line ∈ sample.libraryLines library) : Text.has Marker.templateRef line = false := by
  obtain ⟨i, front, tail, h, rfl⟩ := exists_of_mem_libraryLines hline
  rw [Text.has_append_tag (by decide) h.isTag]
  cases h <;> decide

theorem has_workflowTemplate_of_mem_callerLines {lines : List Text}
    (hlines : sample.callerLines? caller = some lines) {line : Text} (hline : line ∈ lines) :
    Text.has Marker.workflowTemplate line = false := by
  obtain ⟨i, front, tail, h, rfl⟩ := exists_of_mem_callerLines hlines hline
  rw [Text.has_append_tag (by decide) h.isTag]
  cases h <;> decide

theorem CallerLine.has_templateRef_iff (h : CallerLine sample caller i front tail) :
    Text.has Marker.templateRef (front ++ tail) = true
      ↔ ∃ step < sample.stepsPerCaller, i = 10 + 4 * step := by
  rw [Text.has_append_tag (by decide) h.isTag]
  cases h with
  | reference h => exact iff_of_true (by decide) ⟨_, h, rfl⟩
  | apiVersion | kind | metadata | name | spec | entrypoint | templates | main | steps | step
  | owner | template | padding =>
    refine iff_of_false (by decide) ?_
    rintro ⟨step, hstep, heq⟩
    omega

/-- The `name:` below a `templateRef:` is neither that nor a `template:`. -/
theorem has_owner_eq_false {marker : Text}
    (hmarker : marker ∈ [Marker.templateRef, Marker.template]) :
    Text.has marker ("          name: ".toList ++ libraryName library) = false := by
  have hfront : ∀ marker ∈ [Marker.templateRef, Marker.template],
      Text.endsOutsideTags marker = true ∧ Text.has marker "          name: ".toList = false := by
    decide
  obtain ⟨hends, hnot⟩ := hfront marker hmarker
  rw [Text.has_append_tag hends isTag_of_mem_libraryName, hnot]

/-! ## Values in the tables -/

theorem name?_name :
    name? ("  name: ".toList ++ libraryName library) = some (libraryName library) :=
  show name? ("  ".toList ++ Marker.name ++ ' ' :: libraryName library) = _ from
    valueOf?_append rfl (by decide) (isValue_libraryName library)

theorem name?_entry {template : Nat} :
    name? ("  - name: ".toList ++ templateName library template)
      = some (templateName library template) :=
  show name? ("  - ".toList ++ Marker.name ++ ' ' :: templateName library template) = _ from
    valueOf?_append rfl (by decide) (isValue_templateName library template)

theorem name?_owner :
    name? ("          name: ".toList ++ libraryName library) = some (libraryName library) :=
  show name? ("          ".toList ++ Marker.name ++ ' ' :: libraryName library) = _ from
    valueOf?_append rfl (by decide) (isValue_libraryName library)

theorem template?_template {template : Nat} :
    template? ("          template: ".toList ++ templateName library template)
      = some (templateName library template) :=
  show template? ("          ".toList ++ Marker.template ++ ' ' :: templateName library template)
      = _ from
    valueOf?_append rfl (by decide) (isValue_templateName library template)

/-- The entries of a library are the entries of its templates, each of one. -/
theorem LibraryLine.isEntryOf_iff (h : LibraryLine sample library i front tail) {name : Text}
    (hname : IsValue name) :
    isEntryOf name (front ++ tail) = true
      ↔ ∃ template < sample.templates, i = 6 + 3 * template
        ∧ name = templateName library template := by
  cases h with
  | @entry template h =>
    have hentry : isEntryOf name ("  - name: ".toList ++ templateName library template) = true
        ↔ name = templateName library template := by
      have hblanks : ∀ c ∈ "  ".toList, Text.isBlank c = true := List.all_eq_true.1 (by decide)
      exact isEntryOf_entry_iff hblanks hname (isValue_templateName library template)
    rw [hentry]
    constructor
    · intro heq
      exact ⟨template, h, rfl, heq⟩
    · rintro ⟨other, -, hline, rfl⟩
      obtain rfl : template = other := by omega
      rfl
  | apiVersion | kind | metadata | name | spec | templates | container | image | padding =>
    rw [isEntryOf_eq_false (itemBody?_eq_none (by decide) _)]
    refine iff_of_false (by decide) ?_
    rintro ⟨template, hlt, hline, -⟩
    omega

/-! ## What the rules find in a library -/

theorem kindLines_libraryLines : kindLines (sample.libraryLines library) = [1] := by
  refine linesWith_eq (List.pairwise_singleton _ _) fun i => ?_
  rw [List.mem_singleton]
  constructor
  · rintro rfl
    exact ⟨_, LibraryLine.kind.getElem?_eq, by decide⟩
  · rintro ⟨line, hline, hhas⟩
    obtain ⟨front, tail, h, rfl⟩ := getElem?_libraryLines.1 hline
    exact (h.has_iff (by decide)).1 hhas

section Library

variable (sample library)

theorem six_le_length_libraryLines : 6 ≤ (sample.libraryLines library).length := by
  rw [length_libraryLines]
  omega

/-- The name of a library stands right after the only `metadata:`. -/
theorem metadataName?_libraryLines (owner : Text) :
    metadataName? (sample.libraryLines library) 1 owner
      = if owner = libraryName library then some definitionLine else none := by
  have hlength := six_le_length_libraryLines sample library
  have hmetadata : (sample.libraryLines library)[2]? = some ("metadata:".toList ++ []) :=
    LibraryLine.metadata.getElem?_eq
  have hname : (sample.libraryLines library)[3]?
      = some ("  name: ".toList ++ libraryName library) := LibraryLine.name.getElem?_eq
  -- the only line below a `metadata:` is the one with the name
  have honly : ∀ {j previous line}, (adjacent (sample.libraryLines library))[j]?
      = some (previous, line) → Text.has Marker.metadata previous = true →
      j = 2 ∧ line = "  name: ".toList ++ libraryName library := by
    intro j previous line hpair hhas
    obtain ⟨hprevious, hline⟩ := getElem?_adjacent.1 hpair
    obtain ⟨front, tail, h, rfl⟩ := getElem?_libraryLines.1 hprevious
    obtain rfl : j = 2 := (h.has_iff (by decide)).1 hhas
    exact ⟨rfl, Option.some.inj (hline.symm.trans hname)⟩
  unfold metadataName?
  split
  · next howner =>
    have hpair := getElem?_adjacent.2 ⟨hmetadata, hname⟩
    rw [firstIn_eq_some hpair (Nat.zero_le _) (by omega)]
    · rfl
    · dsimp only
      rw [name?_name, howner, beq_self_eq_true, Bool.and_true]
      decide
    · rintro j ⟨previous, line⟩ - hj hpair
      rw [Bool.and_eq_false_iff]
      refine .inl (Bool.eq_false_iff.2 fun hhas => ?_)
      exact absurd (honly hpair hhas).1 (Nat.ne_of_lt hj)
  · next howner =>
    rw [firstIn_eq_none]
    · rfl
    · rintro j ⟨previous, line⟩ - hpair
      rw [Bool.and_eq_false_iff, or_iff_not_imp_left, Bool.not_eq_false]
      intro hhas
      rw [(honly hpair hhas).2, name?_name]
      simpa using Ne.symm howner

/-- No second document opens, so the block of a library runs to its end. -/
theorem blockEnd_libraryLines :
    blockEnd (sample.libraryLines library) 1 = (sample.libraryLines library).length := by
  unfold blockEnd
  rw [firstIn_eq_none]
  rintro j ⟨previous, line⟩ hj hpair
  obtain ⟨-, hline⟩ := getElem?_adjacent.1 hpair
  obtain ⟨front, tail, h, rfl⟩ := getElem?_libraryLines.1 hline
  -- what opens a document starts with a marker, and both markers stand above the block
  have hunopened : ∀ {marker k}, (marker, k) ∈ libraryMarks → k < 2 →
      marker.isPrefixOf (front ++ tail) = false := by
    intro marker k hmark hlt
    have hnot := h.has_eq_false hmark (by omega)
    exact Bool.eq_false_iff.2 fun hstart =>
      absurd (Text.has_of_isPrefixOf hstart) (Bool.eq_false_iff.1 hnot)
  have hkind : Marker.kind.isPrefixOf (front ++ tail) = false :=
    hunopened (show (_, 1) ∈ libraryMarks by decide) (by decide)
  have hversion : Marker.apiVersion.isPrefixOf (front ++ tail) = false :=
    hunopened (show (_, 0) ∈ libraryMarks by decide) (by decide)
  simp only [opensDocument, hkind, hversion, Bool.false_and, Bool.or_false]

theorem definitions_libraryLines (owner : Text) :
    definitions (sample.libraryLines library) owner
      = if owner = libraryName library then [lineNumber definitionLine] else [] := by
  rw [definitions, definitionPositions, kindLines_libraryLines, List.filterMap_cons,
    List.filterMap_nil, metadataName?_libraryLines]
  by_cases howner : owner = libraryName library
  · rw [if_pos howner, if_pos howner]
    rfl
  · rw [if_neg howner, if_neg howner]
    rfl

theorem templateReferences_libraryLines (owner template : Text) :
    templateReferences (sample.libraryLines library) owner template = [] := by
  have hnone : linesWith Marker.templateRef (sample.libraryLines library) = [] :=
    linesWith_eq_nil fun _ => has_templateRef_of_mem_libraryLines
  rw [templateReferences, hnone, List.filterMap_nil]

end Library

/-- A template stands below the only `templates:`, before any other entry of its name. -/
theorem entryInBlock?_libraryLines {template : Nat} (htemplate : template < sample.templates) :
    entryInBlock? (sample.libraryLines library) (libraryName library)
      (templateName library template) 1 = some (6 + 3 * template) := by
  have hlength := length_libraryLines sample library
  have hlist : firstIn (sample.libraryLines library) 1 (sample.libraryLines library).length
      (Text.has Marker.templates) = some 5 := by
    refine firstIn_eq_some LibraryLine.templates.getElem?_eq (by omega) (by omega) (by decide) ?_
    intro j line _ hj hline
    obtain ⟨front, tail, h, rfl⟩ := getElem?_libraryLines.1 hline
    exact h.has_eq_false (by decide) (Nat.ne_of_lt hj)
  have hentry : firstIn (sample.libraryLines library) (5 + 1) (sample.libraryLines library).length
      (isEntryOf (templateName library template)) = some (6 + 3 * template) := by
    have hvalue := isValue_templateName library template
    refine firstIn_eq_some (LibraryLine.entry htemplate).getElem?_eq (by omega) (by omega) ?_ ?_
    · exact ((LibraryLine.entry htemplate).isEntryOf_iff hvalue).2 ⟨template, htemplate, rfl, rfl⟩
    · intro j line _ hj hline
      obtain ⟨front, tail, h, rfl⟩ := getElem?_libraryLines.1 hline
      refine Bool.eq_false_iff.2 fun his => ?_
      obtain ⟨other, -, rfl, hname⟩ := (h.isEntryOf_iff hvalue).1 his
      obtain ⟨-, rfl⟩ := templateName_inj hname
      exact Nat.lt_irrefl _ hj
  have hbefore : definitionLine < (sample.libraryLines library).length := by
    rw [definitionLine]
    omega
  rw [entryInBlock?, metadataName?_libraryLines, if_pos rfl, blockEnd_libraryLines]
  dsimp only
  rw [if_pos hbefore, hlist, Option.bind_some, hentry]

/-- The template of a library is found on its line, and no other library claims it. -/
theorem templateDefinition?_libraryLines {owner template : Nat}
    (htemplate : template < sample.templates) :
    templateDefinition? (sample.libraryLines library) (libraryName owner)
        (templateName owner template)
      = if library = owner then some (lineNumber (6 + 3 * template)) else none := by
  rw [templateDefinition?, templatePosition?, kindLines_libraryLines, List.findSome?_cons,
    List.findSome?_nil]
  by_cases howner : library = owner
  · obtain rfl := howner
    rw [entryInBlock?_libraryLines htemplate, if_pos rfl]
    rfl
  · have hother : libraryName owner ≠ libraryName library := fun heq =>
      howner (libraryName_inj heq).symm
    rw [entryInBlock?, metadataName?_libraryLines, if_neg hother, if_neg howner]
    rfl

/-! ## What the rules find in a caller -/

section Caller

variable {lines : List Text} (hlines : sample.callerLines? caller = some lines)

include hlines

theorem kindLines_callerLines : kindLines lines = [] :=
  linesWith_eq_nil fun _ => has_workflowTemplate_of_mem_callerLines hlines

theorem definitions_callerLines (owner : Text) : definitions lines owner = [] := by
  rw [definitions, definitionPositions, kindLines_callerLines hlines, List.filterMap_nil,
    List.map_nil]

theorem templateDefinition?_callerLines (owner template : Text) :
    templateDefinition? lines owner template = none := by
  rw [templateDefinition?, templatePosition?, kindLines_callerLines hlines, List.findSome?_nil,
    Option.map_none]

theorem linesWith_templateRef_callerLines :
    linesWith Marker.templateRef lines
      = (List.range sample.stepsPerCaller).map fun step => 10 + 4 * step := by
  refine linesWith_eq ?_ fun i => ?_
  · rw [List.pairwise_map]
    exact List.pairwise_lt_range.imp fun hlt => by omega
  · rw [List.mem_map]
    constructor
    · rintro ⟨step, hstep, rfl⟩
      have h := @CallerLine.reference sample caller _ (List.mem_range.1 hstep)
      exact ⟨_, h.getElem?_eq hlines, by decide⟩
    · rintro ⟨line, hline, hhas⟩
      obtain ⟨front, tail, h, rfl⟩ := (getElem?_callerLines hlines).1 hline
      obtain ⟨step, hstep, rfl⟩ := h.has_templateRef_iff.1 hhas
      exact ⟨step, List.mem_range.2 hstep, rfl⟩

/-- The block of a step's reference names the target of the step. -/
theorem refPositions_callerLines {step : Nat} (hstep : step < sample.stepsPerCaller) :
    refPositions lines (10 + 4 * step)
      = { owner := some (libraryName (sample.target caller step).1, 11 + 4 * step)
          template := some (templateName (sample.target caller step).1
            (sample.target caller step).2, 12 + 4 * step) } := by
  refine refPositions_eq (by omega) (by omega) ((CallerLine.owner hstep).getElem?_eq hlines)
    ((CallerLine.template hstep).getElem?_eq hlines) ?_ name?_owner ?_ template?_template
  · exact has_owner_eq_false (by decide)
  · exact isNewItem_eq_false (itemBody?_eq_none (by decide) _)

/-- The lines of the steps that refer to a template. -/
theorem templateReferencePositions_callerLines (library template : Nat) :
    templateReferencePositions lines (libraryName library) (templateName library template)
      = ((List.range sample.stepsPerCaller).filter fun step =>
          sample.target caller step = (library, template)).map fun step => 12 + 4 * step := by
  rw [templateReferencePositions, linesWith_templateRef_callerLines hlines, List.filterMap_map,
    ← List.filterMap_eq_map, List.filterMap_filter]
  refine List.filterMap_congr fun step hstep => ?_
  have hblock := refPositions_callerLines hlines (List.mem_range.1 hstep)
  have hnames : (libraryName (sample.target caller step).1 = libraryName library
      ∧ templateName (sample.target caller step).1 (sample.target caller step).2
        = templateName library template)
      ↔ sample.target caller step = (library, template) := by
    constructor
    · -- the name of a template tells its library too
      rintro ⟨-, hname⟩
      exact Prod.ext (templateName_inj hname).1 (templateName_inj hname).2
    · intro htarget
      simp only [htarget, and_self]
  simp only [Function.comp_apply, hblock, RefBlock.templateLine?, hnames, decide_eq_true_eq]

theorem templateReferences_callerLines (library template : Nat) :
    templateReferences lines (libraryName library) (templateName library template)
      = ((List.range sample.stepsPerCaller).filter fun step =>
          sample.target caller step = (library, template)).map fun step =>
            lineNumber (12 + 4 * step) := by
  rw [templateReferences_eq_map, templateReferencePositions_callerLines hlines, List.map_map]
  rfl

/-! ## What stands under a cursor in a caller -/

theorem not_inMetadata_callerLines (i : Nat) : Site.inMetadata lines i = false :=
  Site.reachesKind_eq_false false fun _ hline =>
    has_workflowTemplate_of_mem_callerLines hlines (Site.mem_of_mem_above hline)

/-- The `template:` of a step is a reference to the target of the step. -/
theorem at?_template {step : Nat} (hstep : step < sample.stepsPerCaller) (column : Nat) :
    Site.at? lines (12 + 4 * step) column
      = some (.templateReference (libraryName (sample.target caller step).1)
          (templateName (sample.target caller step).1 (sample.target caller step).2)) := by
  have howner : lines[10 + 4 * step + 1]? = some ("          name: ".toList
      ++ libraryName (sample.target caller step).1) := by
    rw [show 10 + 4 * step + 1 = 11 + 4 * step by omega]
    exact (CallerLine.owner hstep).getElem?_eq hlines
  rw [Site.at?_eq ((CallerLine.template hstep).getElem?_eq hlines),
    Site.templateDefinition?_eq_none (itemBody?_eq_none (by decide) _),
    Site.workflowTemplateDefinition?_eq_none (not_inMetadata_callerLines hlines _),
    Site.templateReference?_eq ((CallerLine.reference hstep).getElem?_eq hlines) (by decide)
      (by omega) howner (has_owner_eq_false (by decide)) (has_owner_eq_false (by decide))
      name?_owner template?_template]
  rfl

/-- The `name:` of a step is a reference to the library of its target. -/
theorem at?_owner {step : Nat} (hstep : step < sample.stepsPerCaller) (column : Nat) :
    Site.at? lines (11 + 4 * step) column
      = some (.workflowTemplateReference (libraryName (sample.target caller step).1)) := by
  have hnot : Text.has Marker.template
      ("          name: ".toList ++ libraryName (sample.target caller step).1) = false :=
    has_owner_eq_false (by decide)
  rw [Site.at?_eq ((CallerLine.owner hstep).getElem?_eq hlines),
    Site.templateDefinition?_eq_none (itemBody?_eq_none (by decide) _),
    Site.workflowTemplateDefinition?_eq_none (not_inMetadata_callerLines hlines _),
    Site.templateReference?_eq_none hnot,
    Site.workflowTemplateReference?_eq ((CallerLine.reference hstep).getElem?_eq hlines) (by decide)
      (by omega) hnot name?_owner]
  rfl

end Caller

/-! ## What stands under a cursor in a library -/

/-- The window above an entry reaches back to `templates:` from the first seventeen entries. -/
theorem inTemplates_libraryLines {template : Nat} (htemplate : template < sample.templates)
    (hreach : template ≤ 16) :
    Site.inTemplates (sample.libraryLines library) (6 + 3 * template) = true := by
  have hlength := length_libraryLines sample library
  have hfind : (Site.above (sample.libraryLines library) (6 + 3 * template + 1)
      (Site.templatesReach + 1)).find? (fun line => Text.has Marker.templates line
        || Text.has Marker.kind line || Text.has Marker.apiVersion line)
      = some ("  templates:".toList ++ []) := by
    refine Site.find?_above LibraryLine.templates.getElem?_eq (by decide) (by omega)
      (by rw [Site.templatesReach]; omega) (by omega) ?_
    intro j line hj _ hline
    obtain ⟨front, tail, h, rfl⟩ := getElem?_libraryLines.1 hline
    have htemplates : Text.has Marker.templates (front ++ tail) = false :=
      h.has_eq_false (show (_, 5) ∈ libraryMarks by decide) (by omega)
    have hkind : Text.has Marker.kind (front ++ tail) = false :=
      h.has_eq_false (show (_, 1) ∈ libraryMarks by decide) (by omega)
    have hversion : Text.has Marker.apiVersion (front ++ tail) = false :=
      h.has_eq_false (show (_, 0) ∈ libraryMarks by decide) (by omega)
    rw [htemplates, hkind, hversion]
    rfl
  rw [Site.inTemplates]
  simp only [hfind]
  decide

/-- The owner of a line from the kind line on is the library itself. -/
theorem owner?_libraryLines (hkind : 1 ≤ i) :
    Site.owner? (sample.libraryLines library) i = some (libraryName library) := by
  have hfilter : [1].filter (fun k => decide (k ≤ i)) = [1] :=
    List.filter_eq_self.2 (List.forall_mem_singleton.2 (decide_eq_true hkind))
  have hdrop : (sample.libraryLines library).drop (1 + 1) = "metadata:".toList
      :: ("  name: ".toList ++ libraryName library) :: (sample.libraryLines library).drop 4 := rfl
  have hmetadata : name? "metadata:".toList = none := by decide
  rw [Site.owner?, kindLines_libraryLines, hfilter, List.reverse_singleton, List.findSome?_cons,
    hdrop]
  simp only [Site.ownerReach, List.take_succ_cons, List.findSome?_cons, hmetadata, name?_name]

/-- The entry of a template is its definition, as long as the window above it reaches back to
`templates:`. -/
theorem at?_entry {template : Nat} (htemplate : template < sample.templates)
    (hreach : template ≤ 16) (column : Nat) :
    Site.at? (sample.libraryLines library) (6 + 3 * template) column
      = some (.templateDefinition (libraryName library) (templateName library template)) := by
  have hblanks : ∀ c ∈ "  ".toList, Text.isBlank c = true := List.all_eq_true.1 (by decide)
  have htext : entryText? ("  - name: ".toList ++ templateName library template)
      = some (templateName library template) :=
    entryText?_entry hblanks (isValue_templateName library template)
  rw [Site.at?_eq (LibraryLine.entry htemplate).getElem?_eq,
    Site.templateDefinition?_eq htext (inTemplates_libraryLines htemplate hreach)
      (owner?_libraryLines (by omega)) name?_entry]
  rfl

end WorkflowNav.Sample
