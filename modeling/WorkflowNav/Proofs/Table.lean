/-
The rules of the cursor as a table.

The program goes through its rules one after the other, each with loops up and down the lines.
`Applies` is the table that these loops amount to: for each kind of site, the lines there have to be
around the cursor, by their positions and distances, without saying how they are looked for. Nearest
and first lines are greatest and least positions.

A site belongs to one rule (`rank`), and each rule gives the site that its row of the table asks
for, if any (`rules_eq_some_iff`). So what stands under the cursor is the site of the first row that
applies.
-/
import Mathlib.Data.Option.Basic
import Mathlib.Order.Bounds.Defs
import WorkflowNav.Proofs.Site

set_option autoImplicit false

namespace WorkflowNav.Site

open Manifest

/-! ## The table -/

/-- The rule that a site belongs to. -/
def rank : Site → Nat
  | templateDefinition _ _ => 0
  | workflowTemplateDefinition _ => 1
  | templateReference _ _ => 2
  | workflowTemplateReference _ => 3
  | word _ => 4

/-- What the lines around a cursor have to be for a site. -/
def Applies (lines : List Text) (i column : Nat) : Site → Prop
  -- an entry whose `templates:` is at most fifty lines above, with no document opened since, below
  -- the nearest kind line that has a name less than twenty lines further down
  | templateDefinition owner template =>
    (∃ line written, lines[i]? = some line ∧ entryText? line = some written
      ∧ template = (name? line).getD (Text.trim written))
    ∧ (∃ s, i - 50 ≤ s ∧ s ≤ i ∧ LineAt (Text.has Marker.templates) lines s
      ∧ ∀ m, s < m → m ≤ i → ¬ LineAt (Text.has Marker.kind) lines m
        ∧ ¬ LineAt (Text.has Marker.apiVersion) lines m)
    ∧ ∃ k, IsGreatest {k | k ≤ i ∧ LineAt (Text.has Marker.workflowTemplate) lines k
        ∧ ∃ m, k < m ∧ m < k + 20 ∧ nameAt? lines m ≠ none} k
      ∧ ∃ n, IsLeast {n | k < n ∧ n < k + 20 ∧ nameAt? lines n ≠ none} n
        ∧ nameAt? lines n = some owner
  -- a name whose nearest kind line is at most twenty lines above, with a `metadata:` and no other
  -- section since
  | workflowTemplateDefinition name =>
    nameAt? lines i = some name
    ∧ ∃ k, i - 20 ≤ k ∧ k < i ∧ LineAt (Text.has Marker.workflowTemplate) lines k
      ∧ (∀ m, k < m → m < i → ¬ LineAt (Text.has Marker.workflowTemplate) lines m)
      ∧ (∀ m, k ≤ m → m < i → ¬ LineAt (Text.has Marker.spec) lines m
        ∧ ¬ LineAt (Text.has Marker.status) lines m)
      ∧ ∃ m, k ≤ m ∧ m < i ∧ LineAt (Text.has Marker.metadata) lines m
  -- a template whose nearest `templateRef:` is at most fifteen lines above; the owner is the first
  -- name after that, in a line without `template:` and at most three lines below the cursor
  | templateReference owner template =>
    lines[i]?.bind template? = some template
    ∧ ∃ r, IsGreatest {r | i - 15 ≤ r ∧ r < i ∧ LineAt (Text.has Marker.templateRef) lines r} r
      ∧ ∃ n, IsLeast {n | r < n ∧ n ≤ i + 3 ∧ ¬ LineAt (Text.has Marker.template) lines n
          ∧ nameAt? lines n ≠ none} n
        ∧ nameAt? lines n = some owner
  -- a name in a line without `template:` that has a `templateRef:` at most five lines above and no
  -- entry since
  | workflowTemplateReference name =>
    nameAt? lines i = some name ∧ ¬ LineAt (Text.has Marker.template) lines i
    ∧ ∃ r, i - 5 ≤ r ∧ r < i ∧ LineAt (Text.has Marker.templateRef) lines r
      ∧ ∀ m, r < m → m < i → ¬ LineAt isEntry lines m
  -- a token at the column that has two characters
  | word name =>
    ∃ line, lines[i]? = some line
      ∧ Token.at? line (Text.byteOffset line column) = some name ∧ 2 ≤ name.length

/-! ## Nearest and first -/

/-- The first position from which something can be read. -/
theorem exists_isLeast_iff {β : Type} {read : Nat → Option β} {lo hi : Nat} {b : β} :
    (∃ n, lo < n ∧ n < hi ∧ read n = some b ∧ ∀ m, lo < m → m < n → read m = none)
      ↔ ∃ n, IsLeast {n | lo < n ∧ n < hi ∧ read n ≠ none} n ∧ read n = some b := by
  refine exists_congr fun n => ?_
  constructor
  · rintro ⟨hlo, hhi, hread, hbefore⟩
    refine ⟨⟨⟨hlo, hhi, by simp [hread]⟩, ?_⟩, hread⟩
    rintro m ⟨hlom, -, hsome⟩
    by_contra hlt
    exact hsome (hbefore m hlom (by omega))
  · rintro ⟨⟨⟨hlo, hhi, -⟩, hleast⟩, hread⟩
    refine ⟨hlo, hhi, hread, ?_⟩
    intro m hlom hmn
    by_contra hsome
    have hle : n ≤ m := hleast ⟨hlom, by omega, hsome⟩
    omega

section Rows

variable {lines : List Text} {i column : Nat} {line : Text}

/-- The nearest line above that passes a test, if it is within reach. -/
theorem isGreatest_lineAt_iff {test : Text → Bool} {r n : Nat} :
    IsGreatest {r | i - n ≤ r ∧ r < i ∧ LineAt test lines r} r
      ↔ r < i ∧ i ≤ r + n ∧ LineAt test lines r
        ∧ ∀ m, r < m → m < i → ¬ LineAt test lines m := by
  constructor
  · rintro ⟨⟨hreach, hri, hpass⟩, hgreatest⟩
    refine ⟨hri, Nat.sub_le_iff_le_add.1 hreach, hpass, ?_⟩
    intro m hrm hmi hother
    have hle : m ≤ r := hgreatest ⟨by omega, hmi, hother⟩
    omega
  · rintro ⟨hri, hreach, hpass, hnearest⟩
    refine ⟨⟨Nat.sub_le_iff_le_add.2 hreach, hri, hpass⟩, ?_⟩
    rintro m ⟨-, hmi, hother⟩
    by_contra hlt
    exact hnearest m (by omega) hmi hother

/-- The owner of an entry, told by the greatest kind line and the least name. -/
theorem owner?_eq_some_iff_isGreatest {owner : Text} :
    owner? lines i = some owner
      ↔ ∃ k, IsGreatest {k | k ≤ i ∧ LineAt (Text.has Marker.workflowTemplate) lines k
          ∧ ∃ m, k < m ∧ m < k + 20 ∧ nameAt? lines m ≠ none} k
        ∧ ∃ n, IsLeast {n | k < n ∧ n < k + 20 ∧ nameAt? lines n ≠ none} n
          ∧ nameAt? lines n = some owner := by
  rw [owner?_eq_some_iff]
  simp only [ownerReach, exists_isLeast_iff]
  refine exists_congr fun k => ?_
  constructor
  · rintro ⟨hki, hkind, ⟨n, hleast, hname⟩, hlast⟩
    refine ⟨⟨⟨hki, hkind, n, hleast.1⟩, ?_⟩, n, hleast, hname⟩
    rintro k' ⟨hk'i, hkind', m, hk'm, hm, hsome⟩
    by_contra hlt
    exact hsome (hlast k' (by omega) hk'i hkind' m hk'm hm)
  · rintro ⟨⟨⟨hki, hkind, -⟩, hgreatest⟩, hname⟩
    refine ⟨hki, hkind, hname, ?_⟩
    intro k' hlt hk'i hkind' m hk'm hm
    by_contra hsome
    have hle : k' ≤ k := hgreatest ⟨hk'i, hkind', m, hk'm, hm, hsome⟩
    omega

/-- Reading beside a template, told by the line. -/
theorem siblingAt?_eq_some_iff {n : Nat} {owner : Text} :
    siblingAt? lines n = some owner
      ↔ ¬ LineAt (Text.has Marker.template) lines n ∧ nameAt? lines n = some owner := by
  rw [siblingAt?, nameAt?]
  cases hline : lines[n]? with
  | none => simp
  | some other => simp [lineAt_iff hline]

theorem siblingAt?_ne_none_iff {n : Nat} :
    siblingAt? lines n ≠ none
      ↔ ¬ LineAt (Text.has Marker.template) lines n ∧ nameAt? lines n ≠ none := by
  simp only [Option.ne_none_iff_exists', siblingAt?_eq_some_iff, exists_and_left]

/-- The first name beside a template, told by the least position. -/
theorem exists_sibling_iff {r : Nat} {owner : Text} :
    (∃ n, r < n ∧ n ≤ i + siblingReach ∧ siblingAt? lines n = some owner
        ∧ ∀ m, r < m → m < n → siblingAt? lines m = none)
      ↔ ∃ n, IsLeast {n | r < n ∧ n ≤ i + 3 ∧ ¬ LineAt (Text.has Marker.template) lines n
          ∧ nameAt? lines n ≠ none} n
        ∧ nameAt? lines n = some owner := by
  have hbound : ∀ n, n ≤ i + siblingReach ↔ n < i + 3 + 1 := fun n => Nat.lt_succ_iff.symm
  simp only [hbound]
  rw [exists_isLeast_iff]
  simp only [siblingAt?_ne_none_iff, siblingAt?_eq_some_iff, Nat.lt_succ_iff]
  refine exists_congr fun n => and_congr_right fun hleast => ?_
  -- that the line has no `template:` is known from the set already
  exact ⟨fun h => h.2, fun h => ⟨hleast.1.2.2.1, h⟩⟩

/-! ## One rule, one row -/

variable (hline : lines[i]? = some line)

include hline

/-- The first rule. What it is made of is known by positions, so only the distances differ. -/
theorem templateDefinition?_eq_some_iff_applies {site : Site} :
    templateDefinition? lines i line = some site ↔ site.rank = 0 ∧ Applies lines i column site := by
  have hi : i < lines.length := (List.getElem?_eq_some_iff.1 hline).1
  have hform : templateDefinition? lines i line = some site
      ↔ ∃ written, entryText? line = some written ∧ inTemplates lines i = true
        ∧ ∃ owner, owner? lines i = some owner
          ∧ templateDefinition owner ((name? line).getD (Text.trim written)) = site := by
    simp [templateDefinition?, Option.bind_eq_some_iff]
  rw [hform, inTemplates_iff hi]
  simp only [owner?_eq_some_iff_isGreatest, templatesReach]
  cases site with
  | templateDefinition owner template =>
    simp only [rank, true_and, Applies, hline, Option.some.injEq, exists_and_left, exists_eq_left',
      templateDefinition.injEq, Nat.sub_le_iff_le_add]
    constructor
    · rintro ⟨written, hwritten, ⟨s, hsi, hreach, hs⟩, _, howner, rfl, rfl⟩
      exact ⟨⟨written, hwritten, rfl⟩, ⟨s, hreach, hsi, hs⟩, howner⟩
    · rintro ⟨⟨written, hwritten, rfl⟩, ⟨s, hreach, hsi, hs⟩, howner⟩
      exact ⟨written, hwritten, ⟨s, hsi, hreach, hs⟩, _, howner, rfl, rfl⟩
  -- the rule gives no other kind of site, and no other kind has its rank
  | _ => simp [rank]

theorem workflowTemplateDefinition?_eq_some_iff_applies {site : Site} :
    workflowTemplateDefinition? lines i line = some site
      ↔ site.rank = 1 ∧ Applies lines i column site := by
  have hi : i ≤ lines.length := Nat.le_of_lt (List.getElem?_eq_some_iff.1 hline).1
  have hform : workflowTemplateDefinition? lines i line = some site
      ↔ inMetadata lines i = true
        ∧ ∃ name, name? line = some name ∧ workflowTemplateDefinition name = site := by
    simp [workflowTemplateDefinition?, Option.bind_eq_some_iff]
  rw [hform, inMetadata_iff hi]
  cases site with
  | workflowTemplateDefinition name =>
    simp only [rank, true_and, Applies, nameAt?, hline, Option.bind_some,
      workflowTemplateDefinition.injEq, exists_eq_right, Nat.sub_le_iff_le_add]
    rw [and_comm]
    refine and_congr_right fun _ => exists_congr fun k => ?_
    constructor
    · rintro ⟨hlt, hreach, hkind, hnearest, hsections, hmetadata⟩
      -- nothing is known of the metadata before the first line is read
      exact ⟨hreach, hlt, hkind, hnearest, hsections, hmetadata.resolve_left (by decide)⟩
    · rintro ⟨hreach, hlt, hkind, hnearest, hsections, hmetadata⟩
      exact ⟨hlt, hreach, hkind, hnearest, hsections, .inr hmetadata⟩
  | _ => simp [rank]

theorem templateReference?_eq_some_iff_applies {site : Site} :
    templateReference? lines i line = some site ↔ site.rank = 2 ∧ Applies lines i column site := by
  have hi : i ≤ lines.length := Nat.le_of_lt (List.getElem?_eq_some_iff.1 hline).1
  cases site with
  | templateReference owner template =>
    rw [templateReference?_eq_some_iff hi]
    simp only [rank, true_and, Applies, hline, Option.bind_some]
    refine and_congr_right fun _ => exists_congr fun r => ?_
    rw [isGreatest_lineAt_iff, exists_sibling_iff, templateReach, and_assoc, and_assoc, and_assoc]
  | _ => simp [templateReference?, Option.bind_eq_some_iff, rank]

theorem workflowTemplateReference?_eq_some_iff_applies {site : Site} :
    workflowTemplateReference? lines i line = some site
      ↔ site.rank = 3 ∧ Applies lines i column site := by
  have hi : i ≤ lines.length := Nat.le_of_lt (List.getElem?_eq_some_iff.1 hline).1
  have hform : workflowTemplateReference? lines i line = some site
      ↔ (Text.has Marker.template line = false ∧ inReference lines i = true)
        ∧ ∃ name, name? line = some name ∧ workflowTemplateReference name = site := by
    simp [workflowTemplateReference?, Option.bind_eq_some_iff]
  rw [hform, inReference_iff hi]
  cases site with
  | workflowTemplateReference name =>
    simp only [rank, true_and, Applies, nameAt?, hline, Option.bind_some, nameReach,
      workflowTemplateReference.injEq, exists_eq_right, Nat.sub_le_iff_le_add, lineAt_iff hline,
      Bool.not_eq_true]
    constructor
    · rintro ⟨⟨hnot, r, hri, hreach, hr⟩, hname⟩
      exact ⟨hname, hnot, r, hreach, hri, hr⟩
    · rintro ⟨hname, hnot, r, hreach, hri, hr⟩
      exact ⟨⟨hnot, r, hri, hreach, hr⟩, hname⟩
  | _ => simp [rank]

theorem word?_eq_some_iff_applies {site : Site} :
    word? line column = some site ↔ site.rank = 4 ∧ Applies lines i column site := by
  have hform : word? line column = some site
      ↔ ∃ name, (Token.at? line (Text.byteOffset line column) = some name
        ∧ wordLength ≤ name.length) ∧ word name = site := by
    simp only [word?, Option.map_eq_some_iff, Option.filter_eq_some_iff, decide_eq_true_eq]
  rw [hform]
  cases site with
  | word name => simp [rank, Applies, hline, wordLength]
  | _ => simp [rank]

end Rows

/-! ## The first row that applies -/

/-- What the rules give at a line, in their order. -/
def rules (lines : List Text) (i column : Nat) (line : Text) : List (Option Site) :=
  [templateDefinition? lines i line, workflowTemplateDefinition? lines i line,
    templateReference? lines i line, workflowTemplateReference? lines i line, word? line column]

section First

variable {lines : List Text} {i column : Nat} {line : Text}

theorem at?_eq_findSome?_rules (hline : lines[i]? = some line) :
    at? lines i column = (rules lines i column line).findSome? id := by
  have hcons : ∀ (first : Option Site) (rest : List (Option Site)),
      (first :: rest).findSome? id = (first <|> rest.findSome? id) := by
    intro first rest
    cases first <;> rfl
  rw [at?_eq hline, rules, hcons, hcons, hcons, hcons, hcons, List.findSome?_nil]
  simp

/-- **Each rule gives what its row of the table says.** -/
theorem rules_eq_some_iff (hline : lines[i]? = some line) (n : Nat) (site : Site) :
    (rules lines i column line)[n]?.bind id = some site
      ↔ site.rank = n ∧ Applies lines i column site := by
  match n with
  | 0 => exact templateDefinition?_eq_some_iff_applies hline
  | 1 => exact workflowTemplateDefinition?_eq_some_iff_applies hline
  | 2 => exact templateReference?_eq_some_iff_applies hline
  | 3 => exact workflowTemplateReference?_eq_some_iff_applies hline
  | 4 => exact word?_eq_some_iff_applies hline
  | n + 5 =>
    -- there are five rules, and five ranks
    have hrank : site.rank ≠ n + 5 := by
      cases site <;> simp [rank]
    simp [rules, hrank]

/-- No site applies where there is no line. -/
theorem not_applies_of_getElem?_eq_none (hline : lines[i]? = none) (site : Site) :
    ¬ Applies lines i column site := by
  cases site <;> simp [Applies, nameAt?, hline]

/-- What stands at a position, by the table. -/
theorem at?_eq_some_iff_first {site : Site} :
    at? lines i column = some site
      ↔ Applies lines i column site
        ∧ ∀ other, Applies lines i column other → site.rank ≤ other.rank := by
  cases hline : lines[i]? with
  | none =>
    have hnone : at? lines i column = none := by
      rw [at?, hline]
      rfl
    rw [hnone]
    exact ⟨fun h => absurd h (by simp), fun h =>
      absurd h.1 (not_applies_of_getElem?_eq_none hline site)⟩
  | some line =>
    rw [at?_eq_findSome?_rules hline, findSome?_eq_some_iff_getElem?]
    constructor
    · rintro ⟨n, hsite, hbefore⟩
      obtain ⟨rfl, happlies⟩ := (rules_eq_some_iff hline n site).1 hsite
      refine ⟨happlies, ?_⟩
      intro other hother
      by_contra hlt
      -- an earlier rule would have given the other site
      have hnone := hbefore other.rank (by omega)
      rw [(rules_eq_some_iff hline _ other).2 ⟨rfl, hother⟩] at hnone
      exact absurd hnone (by simp)
    · rintro ⟨happlies, hfirst⟩
      refine ⟨site.rank, (rules_eq_some_iff hline _ site).2 ⟨rfl, happlies⟩, ?_⟩
      intro n hn
      by_contra hsome
      obtain ⟨other, hgiven⟩ := Option.ne_none_iff_exists'.1 hsome
      obtain ⟨hrank, hother⟩ := (rules_eq_some_iff hline n other).1 hgiven
      have hle := hfirst other hother
      omega

/-- Nothing stands at a position where no row applies. -/
theorem at?_eq_none_iff_not_applies :
    at? lines i column = none ↔ ∀ site, ¬ Applies lines i column site := by
  constructor
  · intro hnone site happlies
    cases hline : lines[i]? with
    | none => exact not_applies_of_getElem?_eq_none hline site happlies
    | some line =>
      rw [at?_eq_findSome?_rules hline, List.findSome?_eq_none_iff] at hnone
      have hsite := (rules_eq_some_iff hline _ site).2 ⟨rfl, happlies⟩
      obtain ⟨found, hfound, hid⟩ := Option.bind_eq_some_iff.1 hsite
      rw [hnone found (List.mem_of_getElem? hfound)] at hid
      exact absurd hid (by simp)
  · intro hempty
    cases hsite : at? lines i column with
    | none => rfl
    | some site => exact absurd (at?_eq_some_iff_first.1 hsite).1 (hempty site)

end First

/-- **The rules of the cursor are the table.** What stands under the cursor is the site of the first
row that applies, and nothing only if no row does. -/
theorem ofCursor?_eq_first (text : Text) (i column : Nat) :
    (∀ site, ofCursor? text i column = some site
      ↔ Applies (Text.lines text) i column site
        ∧ ∀ other, Applies (Text.lines text) i column other → site.rank ≤ other.rank)
    ∧ (ofCursor? text i column = none ↔ ∀ site, ¬ Applies (Text.lines text) i column site) :=
  ⟨fun _ => at?_eq_some_iff_first, at?_eq_none_iff_not_applies⟩

/-- The lines of a WorkflowTemplate with a template that refers to another. -/
def exampleCall : List Text :=
  ["kind: WorkflowTemplate".toList, "metadata:".toList, "  name: lib".toList, "spec:".toList,
    "  templates:".toList, "  - name: hi".toList, "    templateRef:".toList,
    "      template: greet".toList, "      name: shop".toList]

theorem lines_exampleCall : Text.lines (exampleCall.flatMap (· ++ ['\n'])) = exampleCall :=
  Text.lines_flatMap_of_all (by decide +kernel)

/-- Each row applies at one of the lines, and none does below the last. -/
theorem ofCursor?_eq_first_call :
    Applies exampleCall 5 0 (.templateDefinition "lib".toList "hi".toList)
      ∧ Applies exampleCall 2 0 (.workflowTemplateDefinition "lib".toList)
      ∧ Applies exampleCall 7 0 (.templateReference "shop".toList "greet".toList)
      ∧ Applies exampleCall 8 0 (.workflowTemplateReference "shop".toList)
      ∧ Applies exampleCall 3 1 (.word "spec".toList)
      ∧ ∀ site, ¬ Applies exampleCall 9 0 site := by
  have htable := ofCursor?_eq_first (exampleCall.flatMap (· ++ ['\n']))
  simp only [ofCursor?, lines_exampleCall] at htable
  refine ⟨?_, ?_, ?_, ?_, ?_, ?_⟩
  · exact (((htable 5 0).1 _).1 (by decide +kernel)).1
  · exact (((htable 2 0).1 _).1 (by decide +kernel)).1
  · exact (((htable 7 0).1 _).1 (by decide +kernel)).1
  · exact (((htable 8 0).1 _).1 (by decide +kernel)).1
  · exact (((htable 3 1).1 _).1 (by decide +kernel)).1
  · exact (htable 9 0).2.1 rfl

end WorkflowNav.Site
