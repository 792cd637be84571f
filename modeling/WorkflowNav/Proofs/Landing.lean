/-
Where a search lands, the cursor sees what was searched for.

A search for a definition goes down from a kind line, a search for references down from a
`templateRef:`. The cursor knows nothing of that. It looks around its own line, mostly upwards, over
distances of its own, and gives up at markers of its own. That the two agree is what lets a user go
from a reference to the definition, and back from there.

They agree as long as the stretch between the line and its anchor is short enough for the cursor
and holds nothing that it takes for the start of something else. Each rule is known by positions
(`Proofs.Site`), and so is each search (`Proofs.Position`), so what is left is to compare positions,
and to see that no earlier rule speaks up.

A search tells a line by its number, and the cursor goes there. In a file of more than 2³² lines the
number of a line that is found may be that of another line, and then nothing of this holds.
-/
import Mathlib.Data.Option.Basic
import WorkflowNav.Proofs.Numbering
import WorkflowNav.Proofs.Site

set_option autoImplicit false

namespace WorkflowNav.Site

open Manifest

/-! ## Which rule speaks -/

section Rules

variable {lines : List Text} {i : Nat} {line : Text} (hline : lines[i]? = some line)

include hline

/-- What is not an entry is left to the other rules. -/
theorem templateDefinition?_eq_none_of_lineAt (h : ¬ LineAt isEntry lines i) :
    templateDefinition? lines i line = none := by
  rw [lineAt_iff hline, isEntry, Option.isSome_iff_ne_none, not_not] at h
  rw [templateDefinition?, h]
  rfl

/-- An entry in a list of templates is a template's definition. -/
theorem at?_templateDefinition {owner template : Text} (hentry : isEntry line = true)
    (hname : name? line = some template) (hin : inTemplates lines i = true)
    (howner : owner? lines i = some owner) (column : Nat) :
    at? lines i column = some (.templateDefinition owner template) := by
  obtain ⟨written, hwritten⟩ := Option.isSome_iff_exists.1 hentry
  rw [at?_eq hline, templateDefinition?_eq hwritten hin howner hname]
  rfl

/-- A name in the metadata that is no entry is a WorkflowTemplate's definition. -/
theorem at?_workflowTemplateDefinition {name : Text} (hentry : ¬ LineAt isEntry lines i)
    (hname : name? line = some name) (hin : inMetadata lines i = true) (column : Nat) :
    at? lines i column = some (.workflowTemplateDefinition name) := by
  have hrule : workflowTemplateDefinition? lines i line
      = some (.workflowTemplateDefinition name) := by
    rw [workflowTemplateDefinition?, hin, hname]
    rfl
  rw [at?_eq hline, templateDefinition?_eq_none_of_lineAt hline hentry, hrule]
  rfl

/-- Where no name stands, the `template:` of a reference is one. -/
theorem at?_templateReference {owner template : Text}
    (hnot : ¬ LineAt (Text.has Marker.name) lines i)
    (hrule : templateReference? lines i line = some (.templateReference owner template))
    (column : Nat) : at? lines i column = some (.templateReference owner template) := by
  rw [lineAt_iff hline, Bool.not_eq_true] at hnot
  have hname : name? line = none := valueOf?_eq_none hnot
  have hentry : ¬ LineAt isEntry lines i := by
    rw [lineAt_iff hline]
    intro h
    rw [has_name_of_isEntry h] at hnot
    exact absurd hnot (by decide)
  have hsecond : workflowTemplateDefinition? lines i line = none := by
    rw [workflowTemplateDefinition?, hname]
    simp
  rw [at?_eq hline, templateDefinition?_eq_none_of_lineAt hline hentry, hsecond, hrule]
  rfl

/-- A name in a reference that neither is an entry nor stands in metadata is the reference's. -/
theorem at?_workflowTemplateReference {name : Text} (hentry : ¬ LineAt isEntry lines i)
    (hmetadata : inMetadata lines i = false) (hnot : Text.has Marker.template line = false)
    (hname : name? line = some name) (hin : inReference lines i = true) (column : Nat) :
    at? lines i column = some (.workflowTemplateReference name) := by
  have hrule : workflowTemplateReference? lines i line
      = some (.workflowTemplateReference name) := by
    rw [workflowTemplateReference?, hnot, hin, hname]
    rfl
  rw [at?_eq hline, templateDefinition?_eq_none_of_lineAt hline hentry,
    workflowTemplateDefinition?_eq_none hmetadata, templateReference?_eq_none hnot, hrule]
  rfl

end Rules

/-- On a blank line there is nothing. -/
theorem at?_blank {lines : List Text} {i : Nat} (hline : lines[i]? = some []) :
    at? lines i 0 = none := by
  have hname : name? ([] : Text) = none := by decide
  have hsecond : workflowTemplateDefinition? lines i [] = none := by
    rw [workflowTemplateDefinition?, hname]
    simp
  have hfourth : workflowTemplateReference? lines i [] = none := by
    rw [workflowTemplateReference?, hname]
    simp
  rw [at?_eq hline, templateDefinition?_eq_none (by decide), hsecond,
    templateReference?_eq_none (by decide), hfourth]
  decide

/-! ## Definitions -/

section Definitions

variable {lines : List Text} {k j : Nat}

/-- The line that a search reports for a kind line lies in that kind line's metadata. -/
theorem inMetadata_of_definedVia {name : Text} (h : DefinedVia lines name k j) (hkj : k < j)
    (hreach : j ≤ k + metadataReach)
    (hsection : ∀ m, k ≤ m → m < j → ¬ LineAt (Text.has Marker.spec) lines m
      ∧ ¬ LineAt (Text.has Marker.status) lines m) : inMetadata lines j = true := by
  have hkind : LineAt (Text.has Marker.workflowTemplate) lines k := mem_linesWith.1 h.kind
  obtain ⟨-, -, hmetadata, -, -⟩ := metadataName?_eq_some_iff.1 h.name
  obtain ⟨near, hknear, hnear, hnearKind, hnearest⟩ := hkind.exists_nearest hkj
  have hj : j ≤ lines.length := by
    have := hmetadata.lt_length
    omega
  exact (inMetadata_iff hj).2 ⟨near, hnear, by omega, hnearKind, hnearest,
    fun m hlo hhi => hsection m (by omega) hhi, .inr ⟨j - 1, by omega, by omega, hmetadata⟩⟩

/-- The owner of an entry is the name that led the search to it. -/
theorem owner?_of_entryVia {owner template : Text} {n : Nat}
    (h : EntryVia lines owner template k n j) (hkn : k < n) (hreach : n < k + ownerReach)
    (hnames : ∀ m, k < m → m < n → nameAt? lines m = none)
    (hkinds : ∀ m, k < m → m ≤ j → ¬ LineAt (Text.has Marker.kind) lines m) :
    owner? lines j = some owner := by
  obtain ⟨-, -, -, hname, -⟩ := metadataName?_eq_some_iff.1 h.name
  refine owner?_eq_some_iff.2 ⟨k, Nat.le_of_lt h.lineAt.1, mem_linesWith.1 h.kind,
    ⟨n, hkn, hreach, hname, hnames⟩, fun other hlt hle hother => ?_⟩
  -- the kind line of a WorkflowTemplate is a kind line, and there is no further one
  obtain ⟨line, hline, hhas⟩ := hother
  exact absurd ⟨line, hline, has_kind_of_has_workflowTemplate hhas⟩ (hkinds other hlt hle)

end Definitions

/-- The search for the definitions of a name reports a number for a kind line. -/
def DefinitionReported (lines : List Text) (name : Text) (k : Nat) (j : UInt32) : Prop :=
  ∃ p, DefinedVia lines name k p ∧ lineNumber p = j

/-- The search for a template reports a number for a kind line and the name line of its block. -/
def EntryReported (lines : List Text) (owner template : Text) (k n : Nat) (j : UInt32) : Prop :=
  ∃ p, EntryVia lines owner template k n p ∧ lineNumber p = j

section Reported

variable {lines : List Text} {name owner template : Text} {k n : Nat} {j : UInt32}

theorem mem_definitions : j ∈ definitions lines name ↔ ∃ k, DefinitionReported lines name k j := by
  rw [definitions, List.mem_map]
  simp only [mem_definitionPositions, DefinitionReported]
  constructor
  · rintro ⟨p, ⟨k, hdefined⟩, hnumber⟩
    exact ⟨k, p, hdefined, hnumber⟩
  · rintro ⟨k, p, hdefined, hnumber⟩
    exact ⟨p, ⟨k, hdefined⟩, hnumber⟩

theorem templateDefinition?_eq_some_iff :
    Manifest.templateDefinition? lines owner template = some j
      ↔ ∃ k n, EntryReported lines owner template k n j := by
  rw [Manifest.templateDefinition?, Option.map_eq_some_iff]
  simp only [templatePosition?_eq_some_iff, EntryReported]
  constructor
  · rintro ⟨p, ⟨k, n, hentry⟩, hnumber⟩
    exact ⟨k, n, p, hentry, hnumber⟩
  · rintro ⟨k, n, p, hentry, hnumber⟩
    exact ⟨p, ⟨k, n, hentry⟩, hnumber⟩

variable (hlines : lines.length ≤ UInt32.size)

include hlines

theorem DefinitionReported.definedVia (h : DefinitionReported lines name k j) :
    DefinedVia lines name k j.toNat := by
  obtain ⟨p, hdefined, hnumber⟩ := h
  have hp := lt_length_of_mem_definitionPositions (mem_definitionPositions.2 ⟨k, hdefined⟩)
  rwa [← (lineNumber_eq_iff (by omega)).1 hnumber]

theorem EntryReported.entryVia (h : EntryReported lines owner template k n j) :
    EntryVia lines owner template k n j.toNat := by
  obtain ⟨p, hentry, hnumber⟩ := h
  have hp := hentry.lineAt.2.lt_length
  rwa [← (lineNumber_eq_iff (by omega)).1 hnumber]

end Reported

/-- **A definition is recognised.** In a file of at most 2³² lines the cursor on a line that a
search reports as the definition of a WorkflowTemplate, or of a template, is on that definition.

For a WorkflowTemplate the line is at most twenty lines below its kind line, with no other section
in between, and no entry. For a template the owner's name is less than twenty lines below the kind
line and the first one there, no document opens between the kind line and the entry, and a
`templates:` is at most fifty lines above the entry. -/
theorem definition_recognised (text : Text) (column : Nat)
    (hlines : (Text.lines text).length ≤ UInt32.size) :
    (∀ name (j : UInt32),
      (j ∈ definitions (Text.lines text) name
        ↔ ∃ k, DefinitionReported (Text.lines text) name k j)
      ∧ ∀ k, DefinitionReported (Text.lines text) name k j →
        1 ≤ j.toNat - k → j.toNat - k ≤ 20 →
        (∀ m, k ≤ m → m < j.toNat → ¬ LineAt (Text.has Marker.spec) (Text.lines text) m
          ∧ ¬ LineAt (Text.has Marker.status) (Text.lines text) m) →
        ¬ LineAt isEntry (Text.lines text) j.toNat →
        ofCursor? text j.toNat column = some (.workflowTemplateDefinition name))
    ∧ ∀ owner template (j : UInt32),
      (Manifest.templateDefinition? (Text.lines text) owner template = some j
        ↔ ∃ k n, EntryReported (Text.lines text) owner template k n j)
      ∧ ∀ k n, EntryReported (Text.lines text) owner template k n j →
        IsValue template → k < n → n < k + 20 →
        (∀ m, k < m → m < n → nameAt? (Text.lines text) m = none) →
        (∀ m, k < m → m ≤ j.toNat → ¬ LineAt (Text.has Marker.kind) (Text.lines text) m
          ∧ ¬ LineAt (Text.has Marker.apiVersion) (Text.lines text) m) →
        (∃ s, max k (j.toNat - 50) ≤ s ∧ s ≤ j.toNat
          ∧ LineAt (Text.has Marker.templates) (Text.lines text) s) →
        ofCursor? text j.toNat column = some (.templateDefinition owner template) := by
  refine ⟨fun name j => ⟨mem_definitions, ?_⟩,
    fun owner template j => ⟨templateDefinition?_eq_some_iff, ?_⟩⟩
  · intro k hreported hbelow hreach hsection hentry
    have hdefined := hreported.definedVia hlines
    have hin := inMetadata_of_definedVia hdefined (by omega)
      (show j.toNat ≤ k + metadataReach by rw [metadataReach]; omega) hsection
    obtain ⟨-, -, -, hnameAt, -⟩ := metadataName?_eq_some_iff.1 hdefined.name
    obtain ⟨line, hline, hname⟩ := Option.bind_eq_some_iff.1 hnameAt
    exact at?_workflowTemplateDefinition hline hentry hname hin column
  · intro k n hreported hvalue hkn hreach hnames hopens hsection
    have hvia := hreported.entryVia hlines
    obtain ⟨hkj, line, hline, hentryOf⟩ := hvia.lineAt
    obtain ⟨s, hlow, hsj, htemplates⟩ := hsection
    have hnewline : '\n' ∉ line := Text.newline_notMem_of_mem_lines (List.mem_of_getElem? hline)
    obtain ⟨hname, hentry⟩ := name?_of_isEntryOf hvalue hnewline hentryOf
    have howner := owner?_of_entryVia hvia hkn hreach hnames fun m hlo hhi => (hopens m hlo hhi).1
    have hin : inTemplates (Text.lines text) j.toNat = true :=
      (inTemplates_iff (List.getElem?_eq_some_iff.1 hline).1).2
        ⟨s, hsj, show j.toNat ≤ s + templatesReach by rw [templatesReach]; omega, htemplates,
          fun m hlo hhi => hopens m (by omega) hhi⟩
    exact at?_templateDefinition hline hentry hname hin howner column

/-- The lines of a manifest with two documents. The second is a WorkflowTemplate with quotes and
comments around its names. -/
def exampleLibrary : List Text :=
  ["kind: Workflow".toList, "---".toList, "kind: WorkflowTemplate".toList, "metadata:".toList,
    "  name: 'lib' # shared".toList, "spec:".toList, "  templates:".toList,
    "  - name: greet # says hello".toList]

theorem lines_exampleLibrary :
    Text.lines (exampleLibrary.flatMap (· ++ ['\n'])) = exampleLibrary :=
  Text.lines_flatMap_of_all (by decide +kernel)

theorem definition_recognised_library :
    exampleLibrary.length ≤ UInt32.size
      ∧ DefinitionReported exampleLibrary "lib".toList 2 4
      ∧ ofCursor? (exampleLibrary.flatMap (· ++ ['\n'])) 4 9
        = some (.workflowTemplateDefinition "lib".toList)
      ∧ EntryReported exampleLibrary "lib".toList "greet".toList 2 4 7
      ∧ ofCursor? (exampleLibrary.flatMap (· ++ ['\n'])) 7 0
        = some (.templateDefinition "lib".toList "greet".toList) := by
  have hlines : exampleLibrary.length ≤ UInt32.size := by decide
  have hdefined : DefinitionReported exampleLibrary "lib".toList 2 4 :=
    ⟨4, ⟨by decide +kernel, by decide +kernel⟩, rfl⟩
  have hentry : EntryReported exampleLibrary "lib".toList "greet".toList 2 4 7 :=
    ⟨7, ⟨by decide +kernel, by decide +kernel, by decide +kernel, by decide +kernel⟩, rfl⟩
  have hname := definition_recognised (exampleLibrary.flatMap (· ++ ['\n'])) 9
  have htemplate := definition_recognised (exampleLibrary.flatMap (· ++ ['\n'])) 0
  rw [lines_exampleLibrary] at hname htemplate
  refine ⟨hlines, hdefined, ((hname hlines).1 _ 4).2 _ hdefined (by decide) (by decide)
    (by decide +kernel) (by decide +kernel), hentry, ?_⟩
  refine ((htemplate hlines).2 _ _ 7).2 _ _ hentry (by decide) (by decide) (by decide)
    (fun m hlo hhi => ?_) (fun m hlo hhi => ?_) ⟨6, by decide, by decide, by decide +kernel⟩
  · obtain rfl : m = 3 := by omega
    decide +kernel
  · have hhi : m ≤ 7 := hhi
    obtain rfl | rfl | rfl | rfl | rfl : m = 3 ∨ m = 4 ∨ m = 5 ∨ m = 6 ∨ m = 7 := by omega
    all_goals decide +kernel

/-- A kind line, and its metadata far below it. -/
def exampleApart (blanks : Nat) : List Text :=
  parted ["kind: WorkflowTemplate".toList] blanks ["metadata:".toList, "  name: lib".toList]

theorem definedVia_exampleApart (blanks : Nat) :
    DefinedVia (exampleApart blanks) "lib".toList 0 (1 + blanks + 1) := by
  have hkinds : kindLines (exampleApart blanks) = [0] := linesWith_parted (by decide)
  have hback : ∀ i, (exampleApart blanks)[1 + blanks + i]?
      = ["metadata:".toList, "  name: lib".toList][i]? := parted_back
  refine ⟨by rw [hkinds]; exact List.mem_singleton_self 0, metadataName?_eq_some_iff.2
    ⟨Nat.zero_le _, by omega, ?_, ?_, fun m _ hpos hm hmetadata => ?_⟩⟩
  · exact (lineAt_iff (hback 0)).2 (by decide)
  · rw [nameAt?, hback 1]
    decide
  · -- above the metadata there is only the kind line
    rcases lineAt_parted (by decide) hmetadata with hfront | ⟨p, hp, -⟩
    · obtain rfl : m = 1 := by
        have := hfront.lt_length
        rw [List.length_singleton] at this
        omega
      exact absurd hfront (by decide)
    · rw [List.length_singleton] at hp
      omega

/-- The name line at the position 2³² + 1 is reported as the second line, and there the cursor is on
nothing. -/
theorem definition_recognised_beyond :
    DefinitionReported (Text.lines ((exampleApart (UInt32.size - 1)).flatMap (· ++ ['\n'])))
        "lib".toList 0 1
      ∧ 1 ≤ (1 : UInt32).toNat - 0 ∧ (1 : UInt32).toNat - 0 ≤ 20
      ∧ (∀ m, 0 ≤ m → m < (1 : UInt32).toNat →
        ¬ LineAt (Text.has Marker.spec)
            (Text.lines ((exampleApart (UInt32.size - 1)).flatMap (· ++ ['\n']))) m
          ∧ ¬ LineAt (Text.has Marker.status)
            (Text.lines ((exampleApart (UInt32.size - 1)).flatMap (· ++ ['\n']))) m)
      ∧ ¬ LineAt isEntry (Text.lines ((exampleApart (UInt32.size - 1)).flatMap (· ++ ['\n'])))
        (1 : UInt32).toNat
      ∧ ofCursor? ((exampleApart (UInt32.size - 1)).flatMap (· ++ ['\n'])) (1 : UInt32).toNat 0
        = none := by
  have htext : Text.lines ((exampleApart (UInt32.size - 1)).flatMap (· ++ ['\n']))
      = exampleApart (UInt32.size - 1) := lines_parted (by decide) (by decide)
  have hkind : (exampleApart (UInt32.size - 1))[0]? = some "kind: WorkflowTemplate".toList :=
    parted_front (by decide)
  have hblank : (exampleApart (UInt32.size - 1))[1]? = some [] :=
    parted_blank (by decide) (by decide)
  rw [ofCursor?, htext]
  refine ⟨⟨_, definedVia_exampleApart _, rfl⟩, by decide, by decide, fun m _ hm => ?_, ?_,
    at?_blank hblank⟩
  · obtain rfl : m = 0 := Nat.lt_one_iff.1 hm
    rw [lineAt_iff hkind, lineAt_iff hkind]
    decide
  · rw [show (1 : UInt32).toNat = 1 from rfl, lineAt_iff hblank]
    decide

/-! ## References -/

/-- **A reference is recognised.** In a file of at most 2³² lines the cursor on the `template:` of a
reference block, or on the name beside it, is on a reference to what the block names.

For the template no other `templateRef:` is in between, no name stands in its own line, and the name
is at most three lines below. For the name the `templateRef:` is at most five lines above, neither
it nor a line in between is an entry, and going up twenty lines another section comes no later than
a kind line. -/
theorem reference_recognised (text : Text) (column i : Nat) (n j : UInt32) (owner template : Text)
    (hlines : (Text.lines text).length ≤ UInt32.size)
    (href : LineAt (Text.has Marker.templateRef) (Text.lines text) i)
    (hblock : refBlock (Text.lines text) i
      = { owner := some (owner, n), template := some (template, j) }) :
    ((∀ m, i < m → m < j.toNat → ¬ LineAt (Text.has Marker.templateRef) (Text.lines text) m) →
      ¬ LineAt (Text.has Marker.name) (Text.lines text) j.toNat → n.toNat ≤ j.toNat + 3 →
      ofCursor? text j.toNat column = some (.templateReference owner template))
    ∧ (n.toNat - i ≤ 5 → (∀ m, i < m → m < n.toNat → ¬ LineAt isEntry (Text.lines text) m) →
      ¬ LineAt isEntry (Text.lines text) n.toNat →
      (∀ k, k < n.toNat → n.toNat ≤ k + 20 →
        LineAt (Text.has Marker.workflowTemplate) (Text.lines text) k →
        ∃ s, k ≤ s ∧ s < n.toNat ∧ (LineAt (Text.has Marker.spec) (Text.lines text) s
          ∨ LineAt (Text.has Marker.status) (Text.lines text) s)) →
      ofCursor? text n.toNat column = some (.workflowTemplateReference owner)) := by
  obtain ⟨hin, hni, hsibling, hfirst⟩ :=
    owner_refPositions ((owner_refBlock hlines).1 (congrArg RefBlock.owner hblock))
  obtain ⟨hij, hji, hvalue⟩ :=
    template_refPositions ((template_refBlock hlines).1 (congrArg RefBlock.template hblock))
  constructor
  · intro hbetween hnot hreach
    obtain ⟨line, hline, htemplate⟩ := Option.bind_eq_some_iff.1 hvalue
    have hlength : j.toNat ≤ (Text.lines text).length :=
      Nat.le_of_lt (List.getElem?_eq_some_iff.1 hline).1
    have hrule := (templateReference?_eq_some_iff hlength).2 ⟨htemplate, i, hij,
      show j.toNat ≤ i + templateReach by rw [templateReach]; rw [refBlockLines] at hji; omega,
      href, hbetween, n.toNat, hin, hreach, hsibling, hfirst⟩
    exact at?_templateReference hline hnot hrule column
  · intro hreach hentries hentry hsection
    obtain ⟨line, hline, hnot, hname⟩ := siblingAt?_eq_some hsibling
    have hlength : n.toNat ≤ (Text.lines text).length :=
      Nat.le_of_lt (List.getElem?_eq_some_iff.1 hline).1
    have hmetadata : inMetadata (Text.lines text) n.toNat = false := by
      by_contra hmeta
      obtain ⟨k, habove⟩ := (inMetadata_iff hlength).1 (Bool.not_eq_false _ ▸ hmeta)
      obtain ⟨s, hks, hsn, hends⟩ := hsection k habove.lt habove.reach habove.kind
      exact hends.elim (habove.sections s hks hsn).1 (habove.sections s hks hsn).2
    have hinside : inReference (Text.lines text) n.toNat = true :=
      (inReference_iff hlength).2
        ⟨i, hin, show n.toNat ≤ i + nameReach by rw [nameReach]; omega, href, hentries⟩
    exact at?_workflowTemplateReference hline hentry hmetadata hnot hname hinside column

/-- The lines of a step that refers to a template, with the template before the name. -/
def exampleStep : List Text :=
  ["kind: WorkflowTemplate".toList, "spec:".toList, "  - name: call".toList,
    "    templateRef:".toList, "      template: greet".toList, "      # of the library".toList,
    "      name: lib".toList]

theorem lines_exampleStep : Text.lines (exampleStep.flatMap (· ++ ['\n'])) = exampleStep :=
  Text.lines_flatMap_of_all (by decide +kernel)

theorem reference_recognised_step :
    exampleStep.length ≤ UInt32.size
      ∧ LineAt (Text.has Marker.templateRef) exampleStep 3
      ∧ refBlock exampleStep 3
        = { owner := some ("lib".toList, 6), template := some ("greet".toList, 4) }
      ∧ ofCursor? (exampleStep.flatMap (· ++ ['\n'])) 4 0
        = some (.templateReference "lib".toList "greet".toList)
      ∧ ofCursor? (exampleStep.flatMap (· ++ ['\n'])) 6 0
        = some (.workflowTemplateReference "lib".toList) := by
  have hlines : exampleStep.length ≤ UInt32.size := by decide
  have href : LineAt (Text.has Marker.templateRef) exampleStep 3 := by decide +kernel
  have hblock : refBlock exampleStep 3
      = { owner := some ("lib".toList, 6), template := some ("greet".toList, 4) } := by
    decide +kernel
  have hboth := reference_recognised (exampleStep.flatMap (· ++ ['\n'])) 0 3 6 4 "lib".toList
    "greet".toList
  rw [lines_exampleStep] at hboth
  obtain ⟨htemplate, hname⟩ := hboth hlines href hblock
  refine ⟨hlines, href, hblock, htemplate (fun m hlo hhi => ?_) (by decide +kernel) (by decide), ?_⟩
  · have hhi : m < 4 := hhi
    omega
  · refine hname (by decide) (fun m hlo hhi => ?_) (by decide +kernel) (fun k _ _ hkind => ?_)
    · have hhi : m < 6 := hhi
      obtain rfl | rfl : m = 4 ∨ m = 5 := by omega
      all_goals decide +kernel
    · -- the only kind line is the first line, and a section comes right after it
      have hkinds : kindLines exampleStep = [0] := by decide +kernel
      have hmem : k ∈ kindLines exampleStep := mem_linesWith.2 hkind
      rw [hkinds, List.mem_singleton] at hmem
      exact ⟨1, by omega, by decide, by decide +kernel⟩

/-- A reference far below the top. -/
def exampleLow (blanks : Nat) : List Text :=
  parted [] blanks ["templateRef:".toList, "  name: lib".toList, "  template: greet".toList]

theorem refPositions_exampleLow (blanks : Nat) :
    refPositions (exampleLow blanks) (0 + blanks + 0)
      = ⟨some ("lib".toList, 0 + blanks + 1), some ("greet".toList, 0 + blanks + 2)⟩ :=
  refPositions_eq rfl rfl (parted_back 1) (parted_back 2) (by decide) (by decide) (by decide)
    (by decide)

/-- The lines of the reference at the position 2³² are reported as the second and the third line,
and there the cursor is on nothing. -/
theorem reference_recognised_beyond :
    LineAt (Text.has Marker.templateRef)
        (Text.lines ((exampleLow UInt32.size).flatMap (· ++ ['\n']))) UInt32.size
      ∧ refBlock (Text.lines ((exampleLow UInt32.size).flatMap (· ++ ['\n']))) UInt32.size
        = { owner := some ("lib".toList, 1), template := some ("greet".toList, 2) }
      ∧ (∀ m, UInt32.size < m → m < (2 : UInt32).toNat → ¬ LineAt (Text.has Marker.templateRef)
        (Text.lines ((exampleLow UInt32.size).flatMap (· ++ ['\n']))) m)
      ∧ ¬ LineAt (Text.has Marker.name)
        (Text.lines ((exampleLow UInt32.size).flatMap (· ++ ['\n']))) (2 : UInt32).toNat
      ∧ (1 : UInt32).toNat ≤ (2 : UInt32).toNat + 3
      ∧ ofCursor? ((exampleLow UInt32.size).flatMap (· ++ ['\n'])) (2 : UInt32).toNat 0 = none := by
  have htext : Text.lines ((exampleLow UInt32.size).flatMap (· ++ ['\n']))
      = exampleLow UInt32.size := lines_parted (by decide) (by decide)
  have hmarker : (exampleLow UInt32.size)[0 + UInt32.size + 0]? = some "templateRef:".toList :=
    parted_back 0
  have hblank : (exampleLow UInt32.size)[2]? = some [] := parted_blank (by decide) (by decide)
  rw [ofCursor?, htext]
  refine ⟨?_, ?_, fun m hlo hhi => ?_, ?_, by decide, at?_blank hblank⟩
  · exact (lineAt_iff hmarker).2 (by decide)
  · exact congrArg (RefBlock.map lineNumber) (refPositions_exampleLow UInt32.size)
  · exact absurd (Nat.lt_trans hlo hhi) (by decide)
  · rw [show (2 : UInt32).toNat = 2 from rfl, lineAt_iff hblank]
    decide

end WorkflowNav.Site
