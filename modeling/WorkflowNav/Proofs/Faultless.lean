/-
Nothing fails.

Written over positions, the rules of the cursor and the four searches take lines by their position,
subtract from positions and cut values out of lines (`Indexed`), and each of these steps may fail.
None of them ever does, and what they give is what the rules and searches give that have nothing to
fail. So no text, no position and no name can bring one of them down.

This is not because the parts are safe by themselves. Three of them fail for every position that is
not a line. It is their callers that never ask. To see this without following the calls, the callers
are run with other parts, about which nothing is known but that they answer rightly where there is a
line. They may do anything elsewhere, and it makes no difference.

Each loop is brought to the search it stands for by setting its positions beside the lines that
stand there, and the loop lemmas of `Indexed` do the rest. Only the reading of a reference block
carries something from line to line. What it has so far, together with the lines that are left, says
what the block comes to, and a step does not change that (`readRefLine_eq`).
-/
import WorkflowNav.Proofs.Entry
import WorkflowNav.Proofs.Horizon
import WorkflowNav.Proofs.Indexed

set_option autoImplicit false

namespace WorkflowNav.Indexed

open Manifest

/-! ## The parts -/

section Parts

variable {lines : List Text} {i : Nat} {line : Text}

/-- A line that is there, by its position. -/
theorem exists_getElem? (hi : i < lines.length) : ∃ line, lines[i]? = some line :=
  ⟨lines[i], List.getElem?_eq_getElem hi⟩

theorem name?_eq_none (h : ¬ Text.has Marker.name line = true) : name? line = none :=
  valueOf?_eq_none (Bool.eq_false_iff.2 h)

theorem template?_eq_none (h : ¬ Text.has Marker.template line = true) : template? line = none :=
  valueOf?_eq_none (Bool.eq_false_iff.2 h)

theorem inTemplatesFrom_eq {positions : List Nat} {texts : List Text}
    (h : StandAt lines positions texts) :
    inTemplatesFrom lines positions
      = .ok ((texts.find? fun line => Text.has Marker.templates line || Text.has Marker.kind line
          || Text.has Marker.apiVersion line).any (Text.has Marker.templates)) := by
  induction h with
  | nil => rfl
  | @cons i line positions texts hline _ ih =>
    rw [inTemplatesFrom, fetch_eq hline, ok_bind, ih]
    by_cases htemplates : Text.has Marker.templates line = true
    · rw [if_pos htemplates, List.find?_cons_of_pos (by simp [htemplates])]
      simp [htemplates]
    · rw [if_neg htemplates]
      by_cases hopens : (Text.has Marker.kind line || Text.has Marker.apiVersion line) = true
      · rw [if_pos hopens, List.find?_cons_of_pos (by rw [Bool.or_assoc, hopens, Bool.or_true])]
        simp [htemplates]
      · rw [if_neg hopens, List.find?_cons_of_neg]
        simpa [htemplates] using hopens

theorem inTemplates_eq (hi : i < lines.length) :
    inTemplates lines i = .ok (Site.inTemplates lines i) := by
  have hreach : i - Site.templatesReach = i + 1 - (Site.templatesReach + 1) := by omega
  rw [inTemplates, hreach, inTemplatesFrom_eq (standAt_above hi _), Site.inTemplates]
  cases (Site.above lines (i + 1) (Site.templatesReach + 1)).find? _ with
  | none => rfl
  | some line => rfl

theorem inTemplates_eq_error (hi : lines.length ≤ i) : inTemplates lines i = .error .index := by
  -- the first line that is looked at is the one that is not there
  rw [inTemplates, reverse_between_succ (Nat.sub_le _ _), inTemplatesFrom, fetch_eq_error hi]
  rfl

theorem nameBelow_eq (lines : List Text) (kindLine : Nat) :
    nameBelow lines kindLine
      = .ok (((lines.drop (kindLine + 1)).take (Site.ownerReach - 1)).findSome? name?) := by
  have hcount : kindLine + Site.ownerReach - (kindLine + 1) = Site.ownerReach - 1 := by omega
  rw [nameBelow, ← hcount]
  apply findSomeM?_between
  intro j line _ hline
  rw [fetch_eq hline, ok_bind, readName_eq]
  by_cases hname : Text.has Marker.name line = true
  · rw [if_pos hname]
  · rw [if_neg hname, name?_eq_none hname]
    rfl

/-- The kind lines down to a position, among all positions. -/
theorem filter_kindLines_eq (lines : List Text) (i : Nat) :
    (kindLines lines).filter (· ≤ i)
      = (between 0 (i + 1)).filter fun k => lines[k]?.any (Text.has Marker.workflowTemplate) := by
  have hbelow : kindLines (lines.take (i + 1))
      = (between 0 (i + 1)).filter fun k => lines[k]?.any (Text.has Marker.workflowTemplate) := by
    apply linesWith_eq
    · exact (List.pairwise_lt_range' ..).filter _
    · intro k
      rw [List.mem_filter, mem_between, Option.any_eq_true, List.getElem?_take]
      by_cases hk : k < i + 1
      · rw [if_pos hk]
        simp [hk]
      · rw [if_neg hk]
        simp [hk]
  rw [← Site.filter_kindLines_take (Nat.lt_succ_self i), hbelow, List.filter_eq_self]
  intro k hk
  have hle := (mem_between.1 (List.mem_filter.1 hk).1).2
  exact decide_eq_true (Nat.le_of_lt_succ hle)

theorem findSome?_filter {α β : Type} (xs : List α) (keep : α → Bool) (read : α → Option β) :
    (xs.filter keep).findSome? read = xs.findSome? fun x => if keep x then read x else none := by
  induction xs with
  | nil => rfl
  | cons x xs ih =>
    rw [List.findSome?_cons]
    by_cases hkeep : keep x = true
    · rw [List.filter_cons_of_pos hkeep, List.findSome?_cons, if_pos hkeep, ih]
    · rw [List.filter_cons_of_neg hkeep, if_neg hkeep, ih]

theorem owner_eq (hi : i < lines.length) : owner lines i = .ok (Site.owner? lines i) := by
  rw [owner, Site.owner?, filter_kindLines_eq, ← List.filter_reverse, findSome?_filter]
  apply findSomeM?_of_forall₂
  rw [List.forall₂_same]
  -- a kind line further up is there as well, and so are the lines below it that are looked at
  intro k hk
  obtain ⟨-, hki⟩ := mem_between.1 (List.mem_reverse.1 hk)
  obtain ⟨line, hline⟩ := exists_getElem? (show k < lines.length by omega)
  rw [fetch_eq hline, ok_bind, nameBelow_eq, hline, Option.any_some]
  by_cases hkind : Text.has Marker.workflowTemplate line = true
  · rw [if_pos hkind, if_pos hkind]
  · rw [if_neg hkind, if_neg hkind]
    rfl

theorem owner_eq_error (hi : lines.length ≤ i) : owner lines i = .error .index := by
  rw [owner, reverse_between_succ (Nat.zero_le i), List.findSomeM?, fetch_eq_error hi]
  rfl

/-- The line before is there whenever it is looked at. -/
theorem opensDocument_eq (hline : lines[i]? = some line) :
    opensDocument lines i
      = .ok (Manifest.opensDocument (if i = 0 then none else lines[i - 1]?) line) := by
  rw [opensDocument, fetch_eq hline, ok_bind, Manifest.opensDocument]
  by_cases hkind : Marker.kind.isPrefixOf line = true
  · rw [if_pos hkind, hkind]
    rfl
  · rw [if_neg hkind, Bool.eq_false_iff.2 hkind, Bool.false_or]
    by_cases hzero : i = 0
    · simp [hzero]
    · have hi : i < lines.length := (List.getElem?_eq_some_iff.1 hline).1
      obtain ⟨previous, hprevious⟩ := exists_getElem? (show i - 1 < lines.length by omega)
      rw [minus_eq (by omega), ok_bind, fetch_eq hprevious, ok_bind, if_neg hzero, hprevious]
      by_cases hversion : Marker.apiVersion.isPrefixOf line = true
      · simp [hversion, Nat.pos_of_ne_zero hzero]
      · simp [hversion]

theorem opensDocument_eq_error (hi : lines.length ≤ i) : opensDocument lines i = .error .index := by
  rw [opensDocument, fetch_eq_error hi]
  rfl

end Parts

/-! ## The rules -/

section Rules

variable {helpers : Helpers} {lines : List Text} {i : Nat} {line : Text}

theorem templateDefinitionRule_eq (hright : helpers.RightBelow) (hline : lines[i]? = some line) :
    templateDefinitionRule helpers lines i = .ok (Site.templateDefinition? lines i line) := by
  have hi : i < lines.length := (List.getElem?_eq_some_iff.1 hline).1
  rw [templateDefinitionRule, Site.templateDefinition?, fetch_eq hline, ok_bind, readEntry_eq,
    ok_bind]
  cases entryText? line with
  | none => rfl
  | some written =>
    dsimp only
    rw [hright.inTemplates lines i hi, inTemplates_eq hi, ok_bind]
    cases Site.inTemplates lines i with
    | false => rfl
    | true =>
      rw [if_pos rfl, hright.owner lines i hi, owner_eq hi, ok_bind]
      cases Site.owner? lines i with
      | none => rfl
      | some owner =>
        dsimp only
        rw [ok_bind, readName_eq, ok_bind]
        rfl

theorem metadataFrom_eq {positions : List Nat} {texts : List Text} (current : Text) (seen : Bool)
    (h : StandAt lines positions texts) :
    metadataFrom lines current seen positions
      = .ok (if Site.reachesKind seen texts then name? current else none) := by
  induction h generalizing seen with
  | nil => rfl
  | @cons i line positions texts hline _ ih =>
    rw [metadataFrom, fetch_eq hline, ok_bind, Site.reachesKind]
    by_cases hsection : (Text.has Marker.spec line || Text.has Marker.status line) = true
    · rw [if_pos hsection, if_pos hsection]
      rfl
    · rw [if_neg hsection, if_neg hsection]
      by_cases hkind : Text.has Marker.workflowTemplate line = true
      · rw [if_pos hkind, if_pos hkind, readName_eq]
        split <;> rfl
      · rw [if_neg hkind, if_neg hkind, ih]

theorem workflowTemplateDefinitionRule_eq (hline : lines[i]? = some line) :
    workflowTemplateDefinitionRule lines i
      = .ok (Site.workflowTemplateDefinition? lines i line) := by
  have hi : i < lines.length := (List.getElem?_eq_some_iff.1 hline).1
  have habove := standAt_above (Nat.le_of_lt hi) Site.metadataReach
  rw [workflowTemplateDefinitionRule, Site.workflowTemplateDefinition?, Site.inMetadata,
    fetch_eq hline, ok_bind, metadataFrom_eq line false habove, ok_bind]
  by_cases hname : Text.has Marker.name line = true
  · rw [if_pos hname]
    cases Site.reachesKind false (Site.above lines i Site.metadataReach) with
    | false => rfl
    | true => cases name? line <;> rfl
  · rw [if_neg hname, name?_eq_none hname]
    cases Site.reachesKind false (Site.above lines i Site.metadataReach) <;> rfl

theorem sibling_eq {refLine : Nat} (hi : i < lines.length) :
    sibling lines refLine i
      = .ok (((lines.drop (refLine + 1)).take (i + Site.siblingReach - refLine)).findSome?
          fun line => if Text.has Marker.template line then none else name? line) := by
  have hlast : min (i + Site.siblingReach) (lines.length - 1) + 1
      = min (i + Site.siblingReach + 1) lines.length := by omega
  have hcount : i + Site.siblingReach - refLine
      = i + Site.siblingReach + 1 - (refLine + 1) := by omega
  -- the cursor is on a line, so there is a last one
  rw [sibling, minus_eq (by omega), ok_bind]
  dsimp only
  rw [hlast, hcount]
  apply findSomeM?_between
  intro j line _ hline
  rw [fetch_eq hline, ok_bind, readName_eq]
  by_cases htemplate : Text.has Marker.template line = true
  · simp [htemplate]
  · by_cases hname : Text.has Marker.name line = true
    · simp [htemplate, hname]
    · simp [hname, name?_eq_none hname]

/-- The nearest line above that passes, by its position. -/
theorem findM?_above (hi : i ≤ lines.length) (n : Nat) (test : Text → Bool) :
    (between (i - n) i).reverse.findM? (passes lines test)
      = .ok (((Site.above lines i n).findIdx? test).map (i - 1 - ·)) := by
  have habove := (standAt_above hi n).imp fun k line hline => passes_eq hline test
  rw [findM?_of_forall₂ habove, Option.map_eq_bind]
  congr 1
  apply Option.bind_congr
  intro up hup
  -- as many lines are above as positions
  have hlt : up < (between (i - n) i).length := by
    rw [← List.length_reverse, habove.length_eq]
    exact (List.findIdx?_eq_some_iff_getElem.1 hup).1
  rw [length_between] at hlt
  rw [List.getElem?_reverse (by rw [length_between]; exact hlt), length_between,
    getElem?_between (by omega), Function.comp_apply]
  congr 1
  omega

theorem templateReferenceRule_eq (hline : lines[i]? = some line) :
    templateReferenceRule lines i = .ok (Site.templateReference? lines i line) := by
  have hi : i < lines.length := (List.getElem?_eq_some_iff.1 hline).1
  rw [templateReferenceRule, Site.templateReference?, fetch_eq hline, ok_bind]
  by_cases htemplate : Text.has Marker.template line = true
  · rw [if_pos htemplate, findM?_above (Nat.le_of_lt hi), ok_bind, readTemplate_eq]
    cases hup : (Site.above lines i Site.templateReach).findIdx? (Text.has Marker.templateRef) with
    | none => cases template? line <;> rfl
    | some up =>
      obtain ⟨-, hlt, -⟩ := (Site.findIdx?_above (Nat.le_of_lt hi)).1 hup
      have hfirst : i - 1 - up + 1 = i - up := by omega
      have hcount : i + Site.siblingReach - (i - 1 - up) = up + 1 + Site.siblingReach := by omega
      rw [Option.map_some]
      dsimp only
      rw [sibling_eq hi, ok_bind, hfirst, hcount]
      cases template? line with
      | none =>
        cases ((lines.drop (i - up)).take (up + 1 + Site.siblingReach)).findSome? _ <;> rfl
      | some template =>
        simp only [Option.bind_eq_bind, Option.bind_some]
        cases ((lines.drop (i - up)).take (up + 1 + Site.siblingReach)).findSome? _ <;> rfl
  · rw [if_neg htemplate, template?_eq_none htemplate]
    rfl

theorem referenceFrom_eq {positions : List Nat} {texts : List Text} (current : Text)
    (h : StandAt lines positions texts) :
    referenceFrom lines current positions
      = .ok (if (texts.find? fun line => Text.has Marker.templateRef line || isEntry line).any
          (Text.has Marker.templateRef) then name? current else none) := by
  induction h with
  | nil => rfl
  | @cons i line positions texts hline _ ih =>
    rw [referenceFrom, fetch_eq hline, ok_bind, readName_eq, readEntry_eq, ok_bind, ih]
    by_cases href : Text.has Marker.templateRef line = true
    · simp [href]
    · by_cases hentry : isEntry line = true
      · have hsome : (entryText? line).isSome = true := hentry
        simp [href, hentry, hsome]
      · have hnone : ¬ (entryText? line).isSome = true := hentry
        simp [href, hentry, hnone]

theorem workflowTemplateReferenceRule_eq (hline : lines[i]? = some line) :
    workflowTemplateReferenceRule lines i
      = .ok (Site.workflowTemplateReference? lines i line) := by
  have hi : i < lines.length := (List.getElem?_eq_some_iff.1 hline).1
  have habove := standAt_above (Nat.le_of_lt hi) Site.nameReach
  have hnear : Site.inReference lines i
      = ((Site.above lines i Site.nameReach).find? fun line =>
          Text.has Marker.templateRef line || isEntry line).any (Text.has Marker.templateRef) := by
    rw [Site.inReference]
    cases (Site.above lines i Site.nameReach).find? _ <;> rfl
  rw [workflowTemplateReferenceRule, Site.workflowTemplateReference?, fetch_eq hline, ok_bind,
    referenceFrom_eq line habove, ok_bind, ← hnear]
  cases hname : name? line with
  | none => cases Site.inReference lines i <;> simp
  | some name =>
    have hhas : Text.has Marker.name line = true := has_of_valueOf? hname
    rw [hhas, Bool.true_and]
    cases Text.has Marker.template line <;> cases Site.inReference lines i <;> rfl

theorem wordRule_eq (line : Text) (column : Nat) :
    wordRule line column = .ok (Site.word? line column) := by
  rw [wordRule, readToken_eq, ok_bind]
  rfl

theorem site_eq (hright : helpers.RightBelow) (text : Text) (i column : Nat) :
    site helpers text i column = .ok (Site.ofCursor? text i column) := by
  rw [site, Site.ofCursor?]
  cases hline : (Text.lines text)[i]? with
  | none =>
    rw [Site.at?, hline]
    rfl
  | some line =>
    dsimp only
    rw [Site.at?_eq_findSome?_rules hline]
    apply findSomeM?_of_forall₂
    exact .cons (templateDefinitionRule_eq hright hline)
      (.cons (workflowTemplateDefinitionRule_eq hline) (.cons (templateReferenceRule_eq hline)
        (.cons (workflowTemplateReferenceRule_eq hline) (.cons (wordRule_eq line column) .nil))))

end Rules

/-! ## Searches for definitions -/

section Definitions

variable {helpers : Helpers}

theorem metadataName_eq (lines : List Text) (start : Nat) (name : Text) :
    metadataName lines start name = .ok (metadataName? lines start name) := by
  have hstart : max start 1 - 1 = start - 1 := by omega
  rw [metadataName, metadataName?, ← hstart]
  apply findM?_adjacent (by omega)
  intro i previous line hi hprevious hline
  rw [minus_eq (by omega), ok_bind, fetch_eq hprevious, ok_bind, fetch_eq hline, ok_bind,
    readName_eq, ok_bind]
  by_cases hmetadata : Text.has Marker.metadata previous = true
  · simp [hmetadata]
  · simp [hmetadata]

theorem blockEnd_eq (hright : helpers.RightBelow) (lines : List Text) (kindLine : Nat) :
    blockEnd helpers lines kindLine = .ok (Manifest.blockEnd lines kindLine) := by
  have hfind : (between (kindLine + 1) lines.length).findM? (helpers.opensDocument lines)
      = .ok ((firstIn (adjacent lines) kindLine lines.length fun pair =>
          Manifest.opensDocument (some pair.1) pair.2).map (· + 1)) := by
    apply findM?_adjacent (Nat.zero_lt_succ kindLine)
    intro i previous line hi hprevious hline
    have hlength : i < lines.length := (List.getElem?_eq_some_iff.1 hline).1
    rw [hright.opensDocument lines i hlength, opensDocument_eq hline, if_neg (by omega), hprevious]
  rw [blockEnd, hfind, ok_bind, pure_eq_ok, Manifest.blockEnd]
  congr 1
  cases firstIn (adjacent lines) kindLine lines.length _ with
  | none => rfl
  | some i => rfl

theorem blockEnd_le (lines : List Text) (kindLine : Nat) :
    Manifest.blockEnd lines kindLine ≤ lines.length := by
  rcases blockEnd_cases lines kindLine with ⟨hend, -⟩ | ⟨i, hend, -, hopens, -⟩
  · exact Nat.le_of_eq hend
  · obtain ⟨previous, line, -, hline, -⟩ := hopens
    have hlt : i + 1 < lines.length := (List.getElem?_eq_some_iff.1 hline).1
    rw [hend]
    exact Nat.le_of_lt hlt

theorem entryInBlock_eq (hright : helpers.RightBelow) (lines : List Text) (owner template : Text)
    (kindLine : Nat) :
    entryInBlock helpers lines owner template kindLine
      = .ok (entryInBlock? lines owner template kindLine) := by
  have hstop := blockEnd_le lines kindLine
  have hfind : ∀ lo test, (between lo (Manifest.blockEnd lines kindLine)).findM? (passes lines test)
      = .ok (firstIn lines lo (Manifest.blockEnd lines kindLine) test) := by
    intro lo test
    have hmin := Nat.min_eq_left hstop
    nth_rewrite 1 [← hmin]
    exact findM?_between fun i line _ hline => passes_eq hline test
  rw [entryInBlock, blockEnd_eq hright, ok_bind, metadataName_eq, ok_bind, entryInBlock?]
  cases metadataName? lines kindLine owner with
  | none => rfl
  | some nameLine =>
    dsimp only
    by_cases hlater : Manifest.blockEnd lines kindLine ≤ nameLine
    · rw [if_pos hlater, if_neg (Nat.not_lt.2 hlater)]
      rfl
    · rw [if_neg hlater, if_pos (Nat.not_le.1 hlater), hfind, ok_bind]
      cases firstIn lines kindLine (Manifest.blockEnd lines kindLine) _ with
      | none => rfl
      | some listLine => exact hfind (listLine + 1) (isEntryOf template)

theorem definitions_eq (text name : Text) :
    definitions text name = .ok (Manifest.definitions (Text.lines text) name) := by
  rw [Manifest.definitions, definitionPositions, List.map_filterMap]
  apply filterMapM_eq_ok
  intro kindLine _
  rw [metadataName_eq, ok_bind]
  rfl

theorem templateDefinition_eq (hright : helpers.RightBelow) (text owner template : Text) :
    templateDefinition helpers text owner template
      = .ok (templateDefinition? (Text.lines text) owner template) := by
  have hfound : (kindLines (Text.lines text)).findSomeM?
        (entryInBlock helpers (Text.lines text) owner template)
      = .ok (templatePosition? (Text.lines text) owner template) := by
    apply findSomeM?_of_forall₂
    rw [List.forall₂_same]
    intro kindLine _
    exact entryInBlock_eq hright (Text.lines text) owner template kindLine
  rw [templateDefinition, hfound, ok_bind]
  rfl

end Definitions

/-! ## Searches for references -/

section References

variable {lines : List Text} {refLine : Nat} {block : RefBlock UInt32} {named : Bool}

/-- What a reference block comes to if the lines that are left are these. -/
def completed (block : RefBlock UInt32) (named : Bool) (body : List (Text × Nat)) :
    RefBlock UInt32 where
  owner :=
    if named then block.owner
    else
      (body.find? fun (line, _) => Text.has Marker.name line && !Text.has Marker.template line).bind
        fun (line, i) => (name? line).map fun value => (value, lineNumber i)
  template :=
    block.template.or
      (body.findSome? fun (line, i) => (template? line).map fun value => (value, lineNumber i))

/-- An owner is only there once a name was met. -/
def Started (block : RefBlock UInt32) (named : Bool) : Prop := named = false → block.owner = none

theorem completed_nil (h : Started block named) : completed block named [] = block := by
  cases named with
  | true => simp [completed]
  | false =>
    have hnone : block.owner = none := h rfl
    cases block
    simp_all [completed]

/-- A line is read without a fault, and what is read is part of what the block comes to. -/
theorem readRefLine_eq (h : Started block named) (line : Text) (i : Nat) :
    ∃ block' named', readRefLine block named line i = .ok (block', named')
      ∧ Started block' named'
      ∧ ∀ body, completed block' named' body = completed block named ((line, i) :: body) := by
  rw [readRefLine, readTemplate_eq, readName_eq, ok_bind, ok_bind]
  by_cases htemplate : Text.has Marker.template line = true
  · rw [if_pos htemplate]
    cases htaken : block.template with
    | some taken =>
      refine ⟨block, named, rfl, h, ?_⟩
      intro body
      simp [completed, htaken, htemplate]
    | none =>
      refine ⟨_, _, rfl, h, ?_⟩
      intro body
      cases hvalue : template? line <;> simp [completed, htaken, htemplate, hvalue]
  · have hnone := template?_eq_none htemplate
    rw [if_neg htemplate]
    by_cases hname : (Text.has Marker.name line && !named) = true
    · rw [if_pos hname]
      obtain ⟨hhas, hnamed⟩ : Text.has Marker.name line = true ∧ named = false := by
        simpa using hname
      refine ⟨_, _, rfl, fun hfalse => absurd hfalse (by decide), ?_⟩
      intro body
      simp [completed, htemplate, hnone, hhas, hnamed]
    · rw [if_neg hname]
      refine ⟨block, named, rfl, h, ?_⟩
      intro body
      cases named with
      | true => simp [completed, hnone]
      | false =>
        have hhas : Text.has Marker.name line = false := by simpa using hname
        simp [completed, hnone, hhas]

theorem drop_zipIdx {i : Nat} {line : Text} (hline : lines[i]? = some line) :
    lines.zipIdx.drop i = (line, i) :: lines.zipIdx.drop (i + 1) := by
  have hget : lines.zipIdx[i]? = some (line, i) := by simp [hline]
  rw [List.drop_eq_getElem?_toList_append, hget]
  rfl

theorem drop_zipIdx_eq_nil {i : Nat} (hline : lines[i]? = none) : lines.zipIdx.drop i = [] := by
  apply List.drop_eq_nil_of_le
  rw [List.length_zipIdx]
  exact List.getElem?_eq_none_iff.1 hline

/-- After the first line, up to the next list item. -/
theorem refBlockFrom_eq (h : Started block named) (distance count : Nat) (hfirst : 1 < distance) :
    refBlockFrom lines refLine block named (List.range' distance count)
      = .ok (completed block named (((lines.zipIdx.drop (refLine + distance)).take count).takeWhile
          fun (line, _) => !isNewItem line)) := by
  -- one line at a time: what the block comes to stays the same while lines move into it
  induction count generalizing distance block named with
  | zero => rw [List.range'_zero, refBlockFrom, List.take_zero, List.takeWhile_nil, completed_nil h]
  | succ count ih =>
    rw [List.range'_succ, refBlockFrom]
    cases hline : lines[refLine + distance]? with
    | none =>
      -- the file ends within the block
      rw [drop_zipIdx_eq_nil hline, List.take_nil, List.takeWhile_nil, completed_nil h]
    | some line =>
      rw [drop_zipIdx hline, List.take_succ_cons, List.takeWhile_cons]
      dsimp only
      rw [decide_eq_true hfirst, Bool.true_and]
      by_cases hitem : isNewItem line = true
      · rw [if_pos hitem, if_neg (by simp [hitem]), completed_nil h]
      · rw [if_neg hitem, if_pos (by simp [hitem])]
        obtain ⟨block', named', hread, hstarted, hcompleted⟩ :=
          readRefLine_eq h line (refLine + distance)
        rw [hread, ok_bind, ← hcompleted]
        exact ih hstarted (distance + 1) (by omega)

theorem refBlock_eq_ok (lines : List Text) (refLine : Nat) :
    refBlock lines refLine = .ok (Manifest.refBlock lines refLine) := by
  have hstarted : Started ⟨none, none⟩ false := fun _ => rfl
  have hcompleted : Manifest.refBlock lines refLine
      = completed ⟨none, none⟩ false (refBody lines refLine) := by
    simp only [Manifest.refBlock, refPositions, RefBlock.map, completed, Option.map_bind,
      List.map_findSome?, Option.none_or, Bool.false_eq_true, if_false, Function.comp_def,
      Option.map_map]
  have hdistances : between 1 (refBlockLines + 1) = 1 :: List.range' 2 9 := by decide
  rw [hcompleted, refBlock, hdistances, refBlockFrom, refBody]
  cases hline : lines[refLine + 1]? with
  | none =>
    rw [drop_zipIdx_eq_nil hline, List.take_nil, completed_nil hstarted]
  | some line =>
    -- the first line belongs to the block whatever it is
    obtain ⟨block, named, hread, hmore, hbody⟩ := readRefLine_eq hstarted line (refLine + 1)
    rw [drop_zipIdx hline, refBlockLines, List.take_succ_cons]
    dsimp only
    rw [if_neg (by simp), hread, ok_bind, ← hbody]
    exact refBlockFrom_eq hmore 2 9 (by decide)

theorem templateReferences_eq_ok (text owner template : Text) :
    templateReferences text owner template
      = .ok (Manifest.templateReferences (Text.lines text) owner template) := by
  apply filterMapM_eq_ok
  intro refLine _
  rw [refBlock_eq_ok, ok_bind]
  rfl

theorem wholeRefLine_eq (lines : List Text) (owner : Text) (refLine : Nat) :
    wholeRefLine lines owner refLine = .ok (wholeRefLine? lines owner refLine) := by
  apply findM?_between
  intro i line _ hline
  rw [fetch_eq hline, ok_bind, readName_eq, ok_bind]
  by_cases hname : Text.has Marker.name line = true
  · rw [if_pos hname]
    rfl
  · rw [if_neg hname, name?_eq_none hname]
    rfl

theorem workflowTemplateReferences_eq_ok (text owner : Text) :
    workflowTemplateReferences text owner
      = .ok (Manifest.workflowTemplateReferences (Text.lines text) owner) := by
  apply flatMapM_eq_ok
  rintro ⟨line, i⟩ _
  dsimp only
  rw [refBlock_eq_ok, wholeRefLine_eq, ok_bind]
  cases Text.has Marker.templateRef line <;> cases Text.has Marker.workflowTemplateRef line <;> rfl

end References

/-! ## No step fails -/

/-- A part that is asked about a line at a position has the answer if there is such a line, and
fails if there is none. -/
structure FailsPastEnd {α : Type} (part : List Text → Nat → Checked α)
    (answer? : List Text → Nat → Option α) : Prop where
  below : ∀ lines i, i < lines.length →
    ∃ answer, answer? lines i = some answer ∧ part lines i = .ok answer
  past_end : ∀ lines i, lines.length ≤ i → part lines i = .error .index

/-- With these parts, what stands at a cursor and where names are is always found out. -/
structure NeverFails (helpers : Helpers) : Prop where
  site : ∀ text i column,
    Indexed.site helpers text i column = .ok (Site.ofCursor? text i column)
  definitions : ∀ text name,
    Indexed.definitions text name = .ok (Manifest.definitions (Text.lines text) name)
  templateDefinition : ∀ text owner template,
    Indexed.templateDefinition helpers text owner template
      = .ok (Manifest.templateDefinition? (Text.lines text) owner template)
  templateReferences : ∀ text owner template,
    Indexed.templateReferences text owner template
      = .ok (Manifest.templateReferences (Text.lines text) owner template)
  workflowTemplateReferences : ∀ text owner,
    Indexed.workflowTemplateReferences text owner
      = .ok (Manifest.workflowTemplateReferences (Text.lines text) owner)

theorem neverFails_of_rightBelow {helpers : Helpers} (hright : helpers.RightBelow) :
    NeverFails helpers where
  site := site_eq hright
  definitions := definitions_eq
  templateDefinition := templateDefinition_eq hright
  templateReferences := templateReferences_eq_ok
  workflowTemplateReferences := workflowTemplateReferences_eq_ok

theorem failsPastEnd_inTemplates : FailsPastEnd inTemplates Site.inTemplates? where
  below := by
    intro lines i hi
    exact ⟨Site.inTemplates lines i, if_pos hi, inTemplates_eq hi⟩
  past_end := fun _ _ => inTemplates_eq_error

theorem failsPastEnd_owner : FailsPastEnd owner Site.ownerAt? where
  below := by
    intro lines i hi
    exact ⟨Site.owner? lines i, if_pos hi, owner_eq hi⟩
  past_end := fun _ _ => owner_eq_error

theorem failsPastEnd_opensDocument : FailsPastEnd opensDocument isBoundary? where
  below := by
    intro lines i hi
    obtain ⟨line, hline⟩ := exists_getElem? hi
    refine ⟨_, ?_, opensDocument_eq hline⟩
    rw [isBoundary?, hline]
    rfl
  past_end := fun _ _ => opensDocument_eq_error

/-- **No step fails.** Of the three parts that are asked about a line, each fails just for the
positions that are not below the number of lines. What stands at a cursor, and where a name is
defined or referred to, is nevertheless found out for every text, position and name, without a line
that is not there, a position below zero or a cut through a character. It is found out just the same
with any other three parts that agree with these where there is a line, so none is asked about a
line that is not there. -/
theorem indexed_steps_never_fail :
    FailsPastEnd inTemplates Site.inTemplates? ∧ FailsPastEnd owner Site.ownerAt?
      ∧ FailsPastEnd opensDocument isBoundary? ∧ NeverFails .own
      ∧ ∀ helpers : Helpers, helpers.RightBelow → NeverFails helpers := by
  have hown : Helpers.own.RightBelow :=
    ⟨fun _ _ _ => rfl, fun _ _ _ => rfl, fun _ _ _ => rfl⟩
  exact ⟨failsPastEnd_inTemplates, failsPastEnd_owner, failsPastEnd_opensDocument,
    neverFails_of_rightBelow hown, fun _ => neverFails_of_rightBelow⟩

/-- An entry on the last line, in a letter of two bytes and with no line end after it. -/
def exampleLast : Text :=
  "kind: WorkflowTemplate\nmetadata:\n  name: lib\nspec:\n  templates:\n  - name: é".toList

/-- The three parts, with another fault past the end. -/
def exampleHelpers : Helpers where
  inTemplates lines i := if i < lines.length then inTemplates lines i else .error .cut
  owner lines i := if i < lines.length then owner lines i else .error .cut
  opensDocument lines i := if i < lines.length then opensDocument lines i else .error .cut

/-- The last line can be asked about and the next one cannot. The entry on it is found from the
cursor and by its name, also with parts that have another fault. -/
theorem indexed_steps_never_fail_last :
    exampleHelpers.RightBelow
      ∧ inTemplates (Text.lines exampleLast) 6 = .error .index
      ∧ exampleHelpers.inTemplates (Text.lines exampleLast) 6 = .error .cut
      ∧ site exampleHelpers exampleLast 5 100
        = .ok (some (.templateDefinition "lib".toList "é".toList))
      ∧ templateDefinition exampleHelpers exampleLast "lib".toList "é".toList = .ok (some 5) := by
  have hright : exampleHelpers.RightBelow :=
    ⟨fun _ _ hi => if_pos hi, fun _ _ hi => if_pos hi, fun _ _ hi => if_pos hi⟩
  have hlength : (Text.lines exampleLast).length = 6 := by decide +kernel
  obtain ⟨hinTemplates, -, -, -, hall⟩ := indexed_steps_never_fail
  have hnever := hall exampleHelpers hright
  refine ⟨hright, hinTemplates.past_end _ 6 (Nat.le_of_eq hlength), ?_, ?_, ?_⟩
  · have hpast : ¬ 6 < (Text.lines exampleLast).length := Nat.not_lt.2 (Nat.le_of_eq hlength)
    simp only [exampleHelpers, if_neg hpast]
  · rw [hnever.site]
    decide +kernel
  · rw [hnever.templateDefinition]
    decide +kernel

end WorkflowNav.Indexed
