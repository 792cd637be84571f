/-
The names that a site carries.

A site is turned into a question for the workspace, and the question is asked with the names of the
site. They are of use only if there is something in them. A name that was read as a value is never
empty and is free of quotes, `#` and blanks, whatever was wrapped around it. A word has at least two
characters left when its quotes are gone.

One rule has a second way to a name. An entry whose name cannot be read as a value is taken as it is
written, without the blanks around it. That would do if an entry had something written after its
key. But a blank is enough for a line to be an entry, and when the blanks are taken away nothing is
left. So the names of a site are fit to be looked for, except on an entry that has only blanks after
its key (`usable_iff`), where the name of the template is empty.
-/
import WorkflowNav.Proofs.Table
import WorkflowNav.Proofs.Value

set_option autoImplicit false

namespace WorkflowNav

namespace Manifest

/-! ## Texts of blanks -/

/-- Taking the blanks off the front leaves only blanks if there was nothing else. -/
theorem forall_dropBlanks_iff {text : Text} :
    (∀ c ∈ Text.dropBlanks text, Text.isBlank c = true) ↔ ∀ c ∈ text, Text.isBlank c = true := by
  obtain ⟨blanks, hblanks, htext⟩ := exists_dropBlanks text
  constructor
  · intro h c hc
    rw [htext] at hc
    rcases List.mem_append.1 hc with hc | hc
    · exact hblanks c hc
    · exact h c hc
  · intro h c hc
    apply h
    rw [htext]
    exact List.mem_append_right _ hc

theorem trim_eq_nil_iff {text : Text} :
    Text.trim text = [] ↔ ∀ c ∈ text, Text.isBlank c = true := by
  have hdrop : ∀ other, Text.dropBlanks other = [] ↔ ∀ c ∈ other, Text.isBlank c = true := by
    intro other
    exact List.dropWhile_eq_nil_iff
  rw [Text.trim, List.reverse_eq_nil_iff, hdrop]
  simp only [List.mem_reverse]
  exact forall_dropBlanks_iff

/-- A text of blanks holds no value. -/
theorem value?_eq_none_of_blank {text : Text} (h : ∀ c ∈ text, Text.isBlank c = true) :
    value? text = none := by
  by_contra hsome
  obtain ⟨value, hvalue⟩ := Option.ne_none_iff_exists'.1 hsome
  obtain ⟨hisValue, wrapping, rfl⟩ := value?_eq_some_iff.1 hvalue
  obtain ⟨c, more, rfl⟩ := List.exists_cons_of_ne_nil hisValue.ne_nil
  have hblank := h c (by simp [Wrapping.around])
  rw [not_blank_of_isValueChar (hisValue.all c List.mem_cons_self)] at hblank
  exact absurd hblank (by decide)

/-! ## Entries without a name -/

/-- An entry with nothing but blanks after its key. -/
def IsBlankEntry (line : Text) : Prop :=
  ∃ rest, afterEntryKey? line = some rest ∧ rest ≠ [] ∧ ∀ c ∈ rest, Text.isBlank c = true

instance (line : Text) : Decidable (IsBlankEntry line) :=
  decidable_of_iff ((afterEntryKey? line).any fun rest => rest ≠ [] && rest.all Text.isBlank)
    (by simp [IsBlankEntry, Option.any_eq_true])

section Entry

variable {line rest written : Text}

/-- No name can be read where only blanks follow the key of an entry. -/
theorem name?_eq_none_of_blank (hafter : afterEntryKey? line = some rest)
    (hblank : ∀ c ∈ rest, Text.isBlank c = true) : name? line = none := by
  obtain ⟨front, hfront, rfl⟩ := exists_front_of_afterEntryKey? hafter
  have hcolon : ':' ∉ rest := by
    intro hmem
    exact absurd (hblank _ hmem) (by decide)
  -- after the first character of the key there is no other key
  have hlater : valueOf? Marker.name ("ame:".toList ++ rest) = none := by
    apply valueOf?_eq_none
    rw [Text.has_append_of_notMem (show Marker.name.getLast? = some ':' by decide) hcolon]
    decide
  have hkey : Marker.name ++ rest = 'n' :: ("ame:".toList ++ rest) := rfl
  have hhere : Marker.name.isPrefixOf? (Marker.name ++ rest) = some rest :=
    List.isPrefixOf?_eq_some_iff_append_eq.2 rfl
  rw [name?, valueOf?_front head?_name hfront]
  rw [hkey] at hhere ⊢
  rw [valueOf?, hhere, Option.bind_some, value?_eq_none_of_blank hblank]
  exact hlater

/-- The text of an entry is made of blanks if that is all that follows its key. -/
theorem exists_of_entryText? (h : entryText? line = some written) :
    ∃ rest, afterEntryKey? line = some rest ∧ rest ≠ []
      ∧ ((∀ c ∈ written, Text.isBlank c = true) ↔ ∀ c ∈ rest, Text.isBlank c = true) := by
  obtain ⟨rest, hafter, hwritten⟩ := Option.bind_eq_some_iff.1 h
  refine ⟨rest, hafter, ?_⟩
  split at hwritten
  · next hnil =>
    -- only blanks follow, and the last of them is the text
    have hblank : ∀ c ∈ rest, Text.isBlank c = true := List.dropWhile_eq_nil_iff.1 hnil
    obtain ⟨last, hlast, rfl⟩ := Option.map_eq_some_iff.1 hwritten
    have hmem := List.mem_of_getLast? (Option.filter_eq_some_iff.1 hlast).1
    refine ⟨List.ne_nil_of_mem hmem, fun _ => hblank, ?_⟩
    intro _ c hc
    rw [List.mem_singleton.1 hc]
    exact hblank last hmem
  · next hne =>
    split at hwritten
    · exact absurd hwritten (by simp)
    · obtain rfl := Option.some.inj hwritten
      refine ⟨?_, forall_dropBlanks_iff⟩
      rintro rfl
      exact hne rfl

/-- The name of a template is empty on a blank entry, and on no other. -/
theorem getD_name?_eq_nil_iff (h : entryText? line = some written) :
    (name? line).getD (Text.trim written) = [] ↔ IsBlankEntry line := by
  obtain ⟨rest, hafter, hne, hblank⟩ := exists_of_entryText? h
  constructor
  · intro hnil
    cases hname : name? line with
    | some value =>
      rw [hname, Option.getD_some] at hnil
      exact absurd hnil (isValue_of_valueOf? hname).ne_nil
    | none =>
      rw [hname, Option.getD_none, trim_eq_nil_iff] at hnil
      exact ⟨rest, hafter, hne, hblank.1 hnil⟩
  · rintro ⟨other, hother, -, hall⟩
    obtain rfl : other = rest := Option.some.inj (hother.symm.trans hafter)
    rw [name?_eq_none_of_blank hafter hall, Option.getD_none, trim_eq_nil_iff]
    exact hblank.2 hall

theorem isValue_of_nameAt? {lines : List Text} {n : Nat} {name : Text}
    (h : nameAt? lines n = some name) : IsValue name := by
  obtain ⟨line, -, hname⟩ := Option.bind_eq_some_iff.1 h
  exact isValue_of_valueOf? hname

/-- There are no quotes in the bare text of a token. -/
theorem not_quote_of_at? {name : Text} {offset : Nat} (h : Token.at? line offset = some name) :
    ∀ c ∈ name, isQuote c = false := by
  obtain ⟨token, -, rfl⟩ := Option.map_eq_some_iff.1 h
  intro c hc
  simpa using (List.mem_filter.1 hc).2

end Entry

end Manifest

namespace Site

open Manifest

/-! ## Names that can be looked for -/

/-- The names of a site are fit to be looked for. None is empty. Those that are read as values have
no quote, `#` or blank in them, and a word has two characters and no quote. -/
def Usable : Site → Prop
  | templateDefinition owner template => owner ≠ [] ∧ template ≠ []
  | workflowTemplateDefinition name => IsValue name
  | templateReference owner template => IsValue owner ∧ IsValue template
  | workflowTemplateReference name => IsValue name
  | word name => 2 ≤ name.length ∧ ∀ c ∈ name, isQuote c = false

section Names

variable {lines : List Text} {i column : Nat} {line : Text}

/-- A site that is no entry has names that can be looked for. -/
theorem usable_of_applies {site : Site} (h : Applies lines i column site)
    (hnone : ∀ owner template, site ≠ templateDefinition owner template) : site.Usable := by
  cases site with
  | templateDefinition owner template => exact absurd rfl (hnone owner template)
  | workflowTemplateDefinition name => exact isValue_of_nameAt? h.1
  | templateReference owner template =>
    obtain ⟨htemplate, r, -, n, -, howner⟩ := h
    obtain ⟨line, -, hread⟩ := Option.bind_eq_some_iff.1 htemplate
    exact ⟨isValue_of_nameAt? howner, isValue_of_valueOf? hread⟩
  | workflowTemplateReference name => exact isValue_of_nameAt? h.1
  | word name =>
    obtain ⟨line, -, htoken, hlength⟩ := h
    exact ⟨hlength, not_quote_of_at? htoken⟩

/-- An entry has an owner that can be looked for, and the name that is written in its line. -/
theorem names_of_applies {owner template : Text} (hline : lines[i]? = some line)
    (h : Applies lines i column (templateDefinition owner template)) :
    IsValue owner ∧ (template = [] ↔ IsBlankEntry line) := by
  obtain ⟨⟨other, written, hother, hwritten, rfl⟩, -, k, -, n, -, howner⟩ := h
  obtain rfl : other = line := Option.some.inj (hother.symm.trans hline)
  exact ⟨isValue_of_nameAt? howner, getD_name?_eq_nil_iff hwritten⟩

end Names

/-- **Which names are of use.** The names of the site under a cursor can be looked for, unless the
site is an entry with nothing but blanks after its key. Such an entry has an owner that can be
looked for and a template without a name. -/
theorem usable_iff (text : Text) (i column : Nat) (site : Site)
    (hsite : ofCursor? text i column = some site) :
    ∃ line, (Text.lines text)[i]? = some line
      ∧ (site.Usable ↔ ∀ owner template, site = templateDefinition owner template →
        ¬ IsBlankEntry line)
      ∧ ∀ owner template, site = templateDefinition owner template →
        IsValue owner ∧ (template = [] ↔ IsBlankEntry line) := by
  have happlies : Applies (Text.lines text) i column site := (at?_eq_some_iff_first.1 hsite).1
  obtain ⟨line, hline⟩ : ∃ line, (Text.lines text)[i]? = some line := by
    rw [← Option.ne_none_iff_exists']
    intro hnone
    exact not_applies_of_getElem?_eq_none hnone site happlies
  have hnames : ∀ owner template, site = templateDefinition owner template →
      IsValue owner ∧ (template = [] ↔ IsBlankEntry line) := by
    rintro owner template rfl
    exact names_of_applies hline happlies
  refine ⟨line, hline, ⟨?_, ?_⟩, hnames⟩
  · rintro husable owner template rfl hblank
    exact husable.2 ((hnames owner template rfl).2.2 hblank)
  · intro hentry
    by_cases hdefinition : ∃ owner template, site = templateDefinition owner template
    · obtain ⟨owner, template, rfl⟩ := hdefinition
      obtain ⟨howner, htemplate⟩ := hnames owner template rfl
      exact ⟨howner.ne_nil, mt htemplate.1 (hentry owner template rfl)⟩
    · apply usable_of_applies happlies
      intro owner template heq
      exact hdefinition ⟨owner, template, heq⟩

/-- A library with an entry whose name is no value, and one that has no name. -/
def exampleUnnamed : List Text :=
  ["kind: WorkflowTemplate".toList, "metadata:".toList, "  name: lib".toList,
    "templates:".toList, "- name: 'two words'".toList, "- name: ".toList]

theorem lines_exampleUnnamed :
    Text.lines (exampleUnnamed.flatMap (· ++ ['\n'])) = exampleUnnamed :=
  Text.lines_flatMap_of_all (by decide +kernel)

/-- A name that is no value is taken as it is written, quotes and all. -/
theorem usable_iff_two_words :
    ofCursor? (exampleUnnamed.flatMap (· ++ ['\n'])) 4 0
        = some (.templateDefinition "lib".toList "'two words'".toList)
      ∧ (templateDefinition "lib".toList "'two words'".toList).Usable := by
  have hsite : ofCursor? (exampleUnnamed.flatMap (· ++ ['\n'])) 4 0
      = some (.templateDefinition "lib".toList "'two words'".toList) := by
    rw [ofCursor?, lines_exampleUnnamed]
    decide +kernel
  obtain ⟨line, hline, husable, -⟩ := usable_iff _ 4 0 _ hsite
  refine ⟨hsite, husable.2 ?_⟩
  intro _ _ _
  rw [lines_exampleUnnamed] at hline
  obtain rfl : "- name: 'two words'".toList = line := Option.some.inj hline
  decide +kernel

/-- An entry with a blank after its key is the definition of a template without a name. -/
theorem blank_entry_not_usable :
    ofCursor? "kind: WorkflowTemplate\nmetadata:\n  name: lib\ntemplates:\n- name: \n".toList 4 0
        = some (.templateDefinition "lib".toList [])
      ∧ ¬ (templateDefinition "lib".toList []).Usable := by
  refine ⟨by decide +kernel, ?_⟩
  intro husable
  exact husable.2 rfl

end Site

end WorkflowNav
