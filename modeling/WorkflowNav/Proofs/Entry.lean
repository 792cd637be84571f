/-
Where a template is listed, without any search.

The search for a template is four searches in a row: for a kind line, for the name in the metadata,
for the start of the list, and for the entry. Each stops at the first line that passes. The search
for the name runs past its block and is rejected afterwards, and the search for the entry starts
after the first `templates:` there is. It is not plain that such a search misses nothing.

`Lists` says what the search is for by four positions and no order among them: a kind line `k`, a
name line and a list line in the block of `k`, and an entry `j` after the list line. Stopping at the
first line does no harm, because a later name or list line allows no entry that an earlier one does
not. So a block is searched for the least `j` with `Lists k j`, and a file for the least pair of a
kind line and an entry.
-/
import Mathlib.Data.Prod.Lex
import Mathlib.Order.Nat
import WorkflowNav.Proofs.Documents

set_option autoImplicit false

namespace WorkflowNav.Manifest

/-! ## First positions are least positions -/

/-- A search for the first position gives the least one that passes. -/
theorem firstIn_eq_some_iff_isLeast {lines : List Text} {lo hi i : Nat} {test : Text → Bool} :
    firstIn lines lo hi test = some i
      ↔ IsLeast {i | lo ≤ i ∧ i < hi ∧ LineAt test lines i} i := by
  rw [firstIn_eq_some_iff]
  constructor
  · rintro ⟨hlo, hhi, hpass, hbefore⟩
    refine ⟨⟨hlo, hhi, hpass⟩, ?_⟩
    rintro j ⟨hloj, -, line, hline, htest⟩
    by_contra hlt
    rw [hbefore j line hloj (by omega) hline] at htest
    exact absurd htest (by decide)
  · rintro ⟨⟨hlo, hhi, hpass⟩, hleast⟩
    refine ⟨hlo, hhi, hpass, ?_⟩
    intro j line hloj hji hline
    by_contra htest
    rw [Bool.not_eq_false] at htest
    have hle : i ≤ j := hleast ⟨hloj, by omega, line, hline, htest⟩
    omega

/-- What gives the least element of a set gives nothing only if there is none. -/
theorem eq_none_iff_of_isLeast {found : Option Nat} {wanted : Set Nat}
    (h : ∀ i, found = some i ↔ IsLeast wanted i) : found = none ↔ ∀ i, i ∉ wanted := by
  constructor
  · intro hnone i hi
    classical
    have hsome : wanted.Nonempty := ⟨i, hi⟩
    have hleast := hsome.isLeast_natFind
    rw [← h, hnone] at hleast
    exact absurd hleast (by simp)
  · intro hempty
    cases hfound : found with
    | none => rfl
    | some i => exact absurd ((h i).1 hfound).1 (hempty i)

/-! ## The lines of a block -/

/-- A document opens at a position: a kind line stands there, or a version line right after a
separator. -/
def Boundary (lines : List Text) (i : Nat) : Prop :=
  LineAt Marker.kind.isPrefixOf lines i
    ∨ (LineAt Marker.apiVersion.isPrefixOf lines i ∧ 0 < i
      ∧ lines[i - 1]? = some Marker.separator)

section Block

variable {lines : List Text} {owner template : Text} {k j : Nat}

theorem boundary_iff {i : Nat} : Boundary lines i ↔ isBoundary? lines i = some true := by
  rw [isBoundary?]
  cases hline : lines[i]? with
  | none => simp [Boundary, LineAt, hline]
  | some line =>
    by_cases hi : i = 0
    · subst hi
      simp [Boundary, lineAt_iff hline, opensDocument]
    · have hpos : 0 < i := Nat.pos_of_ne_zero hi
      simp [Boundary, lineAt_iff hline, opensDocument, hi, hpos]

theorem boundary_succ_iff {i : Nat} : Boundary lines (i + 1) ↔ OpensAfter lines i := by
  constructor
  · intro h
    cases hline : lines[i + 1]? with
    | none => simp [Boundary, LineAt, hline] at h
    | some line =>
      have hlt : i < lines.length := by
        have := (List.getElem?_eq_some_iff.1 hline).1
        omega
      refine ⟨lines[i], line, List.getElem?_eq_getElem hlt, hline, ?_⟩
      simpa [Boundary, lineAt_iff hline, opensDocument, List.getElem?_eq_getElem hlt] using h
  · rintro ⟨previous, line, hprevious, hline, hopens⟩
    simpa [Boundary, lineAt_iff hline, opensDocument, hprevious] using hopens

/-- A line lies in the block of a kind line above it if no document opens on the way there. -/
theorem lt_blockEnd_iff {i : Nat} :
    i < blockEnd lines k
      ↔ i < lines.length ∧ ∀ b, k < b → b ≤ i → ¬ Boundary lines b := by
  rcases blockEnd_cases lines k with ⟨hend, hnone⟩ | ⟨e, hend, hke, hopens, hbefore⟩
  · rw [hend]
    refine ⟨fun hlt => ⟨hlt, fun b hkb _ hb => ?_⟩, fun h => h.1⟩
    obtain ⟨p, rfl⟩ : ∃ p, b = p + 1 := ⟨b - 1, by omega⟩
    exact hnone p (by omega) (boundary_succ_iff.1 hb)
  · rw [hend]
    constructor
    · intro hlt
      have hlength : e + 1 < lines.length := by
        obtain ⟨previous, line, -, hline, -⟩ := hopens
        exact (List.getElem?_eq_some_iff.1 hline).1
      refine ⟨by omega, fun b hkb hbi hb => ?_⟩
      obtain ⟨p, rfl⟩ : ∃ p, b = p + 1 := ⟨b - 1, by omega⟩
      exact hbefore p (by omega) (by omega) (boundary_succ_iff.1 hb)
    · rintro ⟨-, hinside⟩
      by_contra hge
      exact hinside (e + 1) (by omega) (by omega) (boundary_succ_iff.2 hopens)

/-- The block of a kind line belongs to an owner and lists a template at a line. -/
structure Lists (lines : List Text) (owner template : Text) (k j : Nat) : Prop where
  kind : LineAt (Text.has Marker.workflowTemplate) lines k
  /-- The entry lies in the block. -/
  inside : ∀ b, k < b → b ≤ j → ¬ Boundary lines b
  /-- A name in the block is the owner's. -/
  named : ∃ n, max k 1 ≤ n ∧ (∀ b, k < b → b ≤ n → ¬ Boundary lines b)
    ∧ LineAt (Text.has Marker.metadata) lines (n - 1) ∧ nameAt? lines n = some owner
  /-- A list of templates starts before the entry. -/
  list : ∃ s, k ≤ s ∧ s < j ∧ LineAt (Text.has Marker.templates) lines s
  entry : LineAt (isEntryOf template) lines j

/-- A block is named as `Lists` asks if the search for a template finds its name. -/
theorem exists_namedAt_iff :
    (∃ n, NamedAt lines owner k n)
      ↔ ∃ n, max k 1 ≤ n ∧ (∀ b, k < b → b ≤ n → ¬ Boundary lines b)
        ∧ LineAt (Text.has Marker.metadata) lines (n - 1) ∧ nameAt? lines n = some owner := by
  refine exists_congr fun n => ?_
  constructor
  · rintro ⟨hle, hpos, hlt, hmetadata, hname⟩
    exact ⟨by omega, (lt_blockEnd_iff.1 hlt).2, hmetadata, hname⟩
  · rintro ⟨hmax, hinside, hmetadata, hname⟩
    have hkn : k ≤ n := by omega
    have hlength : n < lines.length := by
      obtain ⟨line, hline, -⟩ := Option.bind_eq_some_iff.1 hname
      exact (List.getElem?_eq_some_iff.1 hline).1
    exact ⟨hkn, by omega, lt_blockEnd_iff.2 ⟨hlength, hinside⟩, hmetadata, hname⟩

/-- The entry in a block is the first one that any list line of the block comes before. -/
theorem listed?_eq_some_iff_isLeast :
    listed? lines template k = some j
      ↔ IsLeast {j | j < blockEnd lines k ∧ LineAt (isEntryOf template) lines j
        ∧ ∃ s, k ≤ s ∧ s < j ∧ LineAt (Text.has Marker.templates) lines s} j := by
  rw [listed?, Option.bind_eq_some_iff]
  simp only [firstIn_eq_some_iff_isLeast]
  constructor
  · rintro ⟨s, ⟨⟨hks, hs, hlist⟩, hfirst⟩, ⟨hsj, hj, hentry⟩, hleast⟩
    refine ⟨⟨hj, hentry, s, hks, hsj, hlist⟩, ?_⟩
    rintro i ⟨hi, hother, t, hkt, hti, hlater⟩
    -- the list line that was found comes no later than any other
    have hst : s ≤ t := hfirst ⟨hkt, by omega, hlater⟩
    exact hleast ⟨by omega, hi, hother⟩
  · rintro ⟨⟨hj, hentry, t, hkt, htj, hlater⟩, hleast⟩
    have hsome : firstIn lines k (blockEnd lines k) (Text.has Marker.templates) ≠ none := by
      intro hnone
      rw [eq_none_iff_of_isLeast fun _ => firstIn_eq_some_iff_isLeast] at hnone
      exact hnone t ⟨hkt, by omega, hlater⟩
    obtain ⟨s, hs⟩ := Option.ne_none_iff_exists'.1 hsome
    have hfirst := firstIn_eq_some_iff_isLeast.1 hs
    obtain ⟨hks, -, hlist⟩ := hfirst.1
    have hst : s ≤ t := hfirst.2 ⟨hkt, by omega, hlater⟩
    refine ⟨s, hfirst, ⟨by omega, hj, hentry⟩, ?_⟩
    rintro i ⟨hsi, hi, hother⟩
    exact hleast ⟨hi, hother, s, hks, hsi, hlist⟩

/-- **A block is searched for the first line at which it lists the template.** -/
theorem entryInBlock?_eq_some_iff_isLeast
    (hkind : LineAt (Text.has Marker.workflowTemplate) lines k) :
    entryInBlock? lines owner template k = some j
      ↔ IsLeast {j | Lists lines owner template k j} j := by
  by_cases hnamed : ∃ n, NamedAt lines owner k n
  · obtain ⟨n, hn⟩ := hnamed
    have hname := exists_namedAt_iff.1 ⟨n, hn⟩
    rw [entryInBlock?_of_named hn, listed?_eq_some_iff_isLeast]
    -- given the kind line and the name, the two sets are the same
    have hsame : {j | j < blockEnd lines k ∧ LineAt (isEntryOf template) lines j
          ∧ ∃ s, k ≤ s ∧ s < j ∧ LineAt (Text.has Marker.templates) lines s}
        = {j | Lists lines owner template k j} := by
      ext i
      constructor
      · rintro ⟨hi, hentry, s, hks, hsi, hlist⟩
        exact ⟨hkind, (lt_blockEnd_iff.1 hi).2, hname, ⟨s, hks, hsi, hlist⟩, hentry⟩
      · rintro ⟨-, hinside, -, ⟨s, hks, hsi, hlist⟩, hentry⟩
        exact ⟨lt_blockEnd_iff.2 ⟨hentry.lt_length, hinside⟩, hentry, s, hks, hsi,
          hlist⟩
    rw [hsame]
  · rw [entryInBlock?_of_unnamed (not_exists.1 hnamed)]
    have hempty : ∀ i, ¬ Lists lines owner template k i := fun i hi =>
      hnamed (exists_namedAt_iff.2 hi.named)
    exact ⟨fun h => absurd h (by simp), fun h => absurd h.1 (hempty j)⟩

theorem entryInBlock?_eq_none_iff
    (hkind : LineAt (Text.has Marker.workflowTemplate) lines k) :
    entryInBlock? lines owner template k = none ↔ ∀ j, ¬ Lists lines owner template k j :=
  eq_none_iff_of_isLeast fun _ => entryInBlock?_eq_some_iff_isLeast hkind

end Block

/-! ## The search in a file -/

/-- Of pairs in the order of their first parts, the least has the least second part for its first,
and there is none with a smaller first part. -/
theorem isLeast_toLex_iff {P : Nat → Nat → Prop} {k j : Nat} :
    IsLeast {pair : ℕ ×ₗ ℕ | P (ofLex pair).1 (ofLex pair).2} (toLex (k, j))
      ↔ IsLeast {j | P k j} j ∧ ∀ k' j', k' < k → ¬ P k' j' := by
  constructor
  · rintro ⟨hmem, hleast⟩
    have hlex : ∀ k' j', P k' j' → k < k' ∨ k = k' ∧ j ≤ j' := by
      intro k' j' hother
      have hle : toLex (k, j) ≤ toLex (k', j') := hleast hother
      rwa [Prod.Lex.toLex_le_toLex] at hle
    refine ⟨⟨hmem, ?_⟩, ?_⟩
    · intro j' hother
      have := hlex k j' hother
      omega
    · intro k' j' hlt hother
      have := hlex k' j' hother
      omega
  · rintro ⟨⟨hmem, hleast⟩, hbefore⟩
    refine ⟨hmem, ?_⟩
    intro pair hpair
    obtain ⟨⟨k', j'⟩, rfl⟩ := toLex.surjective pair
    have hother : P k' j' := hpair
    rw [Prod.Lex.toLex_le_toLex]
    rcases Nat.lt_trichotomy k' k with hlt | rfl | hgt
    · exact absurd hother (hbefore k' j' hlt)
    · exact .inr ⟨rfl, hleast hother⟩
    · exact .inl hgt

section File

variable {lines : List Text} {owner template : Text} {j : Nat}

theorem templatePosition?_eq_some_iff_isLeast :
    templatePosition? lines owner template = some j
      ↔ ∃ k, IsLeast {j | Lists lines owner template k j} j
        ∧ ∀ k' j', k' < k → ¬ Lists lines owner template k' j' := by
  rw [templatePosition?, kindLines,
    findSome?_of_pairwise (pairwise_linesWith _ lines) fun a b hab hba => by omega]
  constructor
  · rintro ⟨k, hkind, hfound, hbefore⟩
    refine ⟨k, (entryInBlock?_eq_some_iff_isLeast (mem_linesWith.1 hkind)).1 hfound, ?_⟩
    -- an earlier block gave nothing, so it lists nothing
    intro k' j' hlt hother
    have hnone := hbefore k' (mem_linesWith.2 hother.kind) hlt
    exact (entryInBlock?_eq_none_iff hother.kind).1 hnone j' hother
  · rintro ⟨k, hleast, hbefore⟩
    have hkind := hleast.1.kind
    refine ⟨k, mem_linesWith.2 hkind, (entryInBlock?_eq_some_iff_isLeast hkind).2 hleast, ?_⟩
    intro k' hkind' hlt
    exact (entryInBlock?_eq_none_iff (mem_linesWith.1 hkind')).2 fun j' => hbefore k' j' hlt

theorem templatePosition?_eq_none_iff :
    templatePosition? lines owner template = none
      ↔ ∀ k j, ¬ Lists lines owner template k j := by
  rw [templatePosition?, List.findSome?_eq_none_iff]
  constructor
  · intro hnone k j hlists
    have hblock := hnone k (mem_linesWith.2 hlists.kind)
    exact (entryInBlock?_eq_none_iff hlists.kind).1 hblock j hlists
  · intro hempty k hkind
    exact (entryInBlock?_eq_none_iff (mem_linesWith.1 hkind)).2 (hempty k)

end File

/-- **The search for a template is sound, complete, and picks the first.** In a file of at most 2³²
lines it gives the entry of the least pair of a kind line and an entry, by the kind line first, and
nothing only if no block of the owner lists the template. -/
theorem templateDefinition?_eq_least (lines : List Text) (owner template : Text)
    (hlines : lines.length ≤ UInt32.size) :
    (∀ j : UInt32, templateDefinition? lines owner template = some j
      ↔ ∃ k, IsLeast {pair : ℕ ×ₗ ℕ | Lists lines owner template (ofLex pair).1 (ofLex pair).2}
        (toLex (k, j.toNat)))
    ∧ (templateDefinition? lines owner template = none
      ↔ ∀ k j, ¬ Lists lines owner template k j) := by
  refine ⟨fun j => ?_, ?_⟩
  · rw [templateDefinition?_eq_some hlines, templatePosition?_eq_some_iff_isLeast]
    exact exists_congr fun k => isLeast_toLex_iff.symm
  · rw [templateDefinition?, Option.map_eq_none_iff, templatePosition?_eq_none_iff]

/-- Two blocks of one owner. The first has its name after its list and lacks an entry that the
second has three times, first before any list. -/
def exampleShelf : List Text :=
  ["kind: WorkflowTemplate".toList, "  templates:".toList, "  - name: hi".toList,
    "metadata:".toList, "  name: lib".toList, "kind: WorkflowTemplate".toList,
    "  - name: bye".toList, "metadata:".toList, "  name: lib".toList, "  templates:".toList,
    "  - name: bye".toList, "  templates:".toList, "  - name: bye # again".toList]

theorem templateDefinition?_eq_least_shelf :
    exampleShelf.length ≤ UInt32.size
      ∧ templateDefinition? exampleShelf "lib".toList "bye".toList = some 10
      ∧ (∃ k, IsLeast {pair : ℕ ×ₗ ℕ | Lists exampleShelf "lib".toList "bye".toList
          (ofLex pair).1 (ofLex pair).2} (toLex (k, 10)))
      ∧ templateDefinition? exampleShelf "shop".toList "hi".toList = none
      ∧ ∀ k j, ¬ Lists exampleShelf "shop".toList "hi".toList k j := by
  have hlines : exampleShelf.length ≤ UInt32.size := by decide
  have hfound : templateDefinition? exampleShelf "lib".toList "bye".toList = some 10 := by
    decide +kernel
  have hnone : templateDefinition? exampleShelf "shop".toList "hi".toList = none := by
    decide +kernel
  exact ⟨hlines, hfound, ((templateDefinition?_eq_least _ _ _ hlines).1 10).1 hfound,
    hnone, (templateDefinition?_eq_least _ _ _ hlines).2.1 hnone⟩

/-- Behind 2³² lines an entry is reported as a line further up, where no entry is. -/
theorem templateDefinition?_eq_least_beyond :
    templateDefinition? (exampleBlanks ++ [Marker.separator] ++ exampleBack) "lib".toList
        "hi".toList = some 6
      ∧ ¬ ∃ k, IsLeast {pair : ℕ ×ₗ ℕ |
          Lists (exampleBlanks ++ [Marker.separator] ++ exampleBack) "lib".toList "hi".toList
            (ofLex pair).1 (ofLex pair).2} (toLex (k, (6 : UInt32).toNat)) := by
  constructor
  · rw [templateDefinition?, templatePosition?_distant, Option.map_some, lineNumber_beyond]
    rfl
  · rintro ⟨k, hlists, -⟩
    have hlength : 6 < exampleBlanks.length := by
      rw [exampleBlanks, length_parted]
      decide
    have hblank : (together exampleBlanks exampleBack)[6]? = some [] := by
      rw [together_front hlength]
      exact parted_blank (Nat.zero_le 6) (by decide)
    have hentry : LineAt (isEntryOf "hi".toList) (together exampleBlanks exampleBack) 6 :=
      hlists.entry
    rw [lineAt_iff hblank] at hentry
    exact absurd hentry (by decide)

end WorkflowNav.Manifest
