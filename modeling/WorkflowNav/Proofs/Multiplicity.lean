/-
How often a definition is reported.

Every kind line looks down for the name of a WorkflowTemplate and does not stop at the end of its
document. So a name line is reported by each kind line that has no matching name line before it: by
those that come after the last matching name line further up, and not after the name line itself.
The kind lines after the last matching name line report nothing. That fixes how often each line is
reported, and how many reports there are in all.

What is counted are kind lines, by their positions (`card_filter_kindPositions`). Which of them
report a line is said by `metadataName?_eq_some_iff_isLeast`.
-/
import Mathlib.Data.Finset.Card
import Mathlib.Data.Finset.Max
import Mathlib.Order.Nat
import WorkflowNav.Proofs.Numbering

set_option autoImplicit false

namespace WorkflowNav.Manifest

/-- The positions of the kind lines of WorkflowTemplates. -/
def kindPositions (lines : List Text) : Finset Nat :=
  (Finset.range lines.length).filter (LineAt (Text.has Marker.workflowTemplate) lines)

/-- The positions of the lines that follow a `metadata:` line and name `name`. -/
def namePositions (lines : List Text) (name : Text) : Finset Nat :=
  (Finset.range lines.length).filter fun m =>
    1 ≤ m ∧ LineAt (Text.has Marker.metadata) lines (m - 1) ∧ nameAt? lines m = some name

section Positions

variable {lines : List Text} {name : Text} {k m : Nat}

theorem mem_kindPositions :
    k ∈ kindPositions lines ↔ LineAt (Text.has Marker.workflowTemplate) lines k := by
  rw [kindPositions, Finset.mem_filter, Finset.mem_range]
  exact ⟨fun h => h.2, fun h => ⟨h.lt_length, h⟩⟩

theorem mem_namePositions :
    m ∈ namePositions lines name
      ↔ 1 ≤ m ∧ LineAt (Text.has Marker.metadata) lines (m - 1) ∧ nameAt? lines m = some name := by
  rw [namePositions, Finset.mem_filter, Finset.mem_range]
  constructor
  · exact fun h => h.2
  · intro h
    obtain ⟨line, hline, -⟩ := Option.bind_eq_some_iff.1 h.2.2
    exact ⟨(List.getElem?_eq_some_iff.1 hline).1, h⟩

theorem nodup_kindLines (lines : List Text) : (kindLines lines).Nodup :=
  (pairwise_linesWith _ lines).imp Nat.ne_of_lt

theorem toFinset_kindLines (lines : List Text) :
    (kindLines lines).toFinset = kindPositions lines := by
  ext k
  rw [List.mem_toFinset, mem_kindPositions, kindLines, mem_linesWith]
  rfl

/-- Kind lines are counted by their positions. -/
theorem card_filter_kindPositions (lines : List Text) (p : Nat → Prop) [DecidablePred p] :
    ((kindPositions lines).filter p).card = (kindLines lines).countP fun k => decide (p k) := by
  have hfilter : (kindPositions lines).filter p
      = ((kindLines lines).filter fun k => decide (p k)).toFinset := by
    rw [List.toFinset_filter, toFinset_kindLines]
    simp
  rw [hfilter, List.toFinset_card_of_nodup ((nodup_kindLines lines).filter _),
    List.countP_eq_length_filter]

/-! ## What a kind line reports -/

/-- A kind line reports the first matching name line that is not above it. -/
theorem metadataName?_eq_some_iff_isLeast :
    metadataName? lines k name = some m
      ↔ IsLeast {m | m ∈ namePositions lines name ∧ k ≤ m} m := by
  rw [metadataName?_eq_some_iff]
  constructor
  · rintro ⟨hkm, hpos, hmetadata, hname, hbefore⟩
    refine ⟨⟨mem_namePositions.2 ⟨hpos, hmetadata, hname⟩, hkm⟩, ?_⟩
    rintro p ⟨hp, hkp⟩
    obtain ⟨hpos', hmetadata', hname'⟩ := mem_namePositions.1 hp
    by_contra hlt
    exact hbefore p hkp hpos' (by omega) hmetadata' hname'
  · rintro ⟨⟨hm, hkm⟩, hleast⟩
    obtain ⟨hpos, hmetadata, hname⟩ := mem_namePositions.1 hm
    refine ⟨hkm, hpos, hmetadata, hname, ?_⟩
    intro p hkp hpos' hlt hmetadata' hname'
    have hle : m ≤ p := hleast ⟨mem_namePositions.2 ⟨hpos', hmetadata', hname'⟩, hkp⟩
    omega

/-- A kind line reports something if a matching name line is not above it. -/
theorem isSome_metadataName?_iff :
    (metadataName? lines k name).isSome ↔ ∃ m ∈ namePositions lines name, k ≤ m := by
  rw [Option.isSome_iff_exists]
  simp only [metadataName?_eq_some_iff_isLeast]
  constructor
  · rintro ⟨m, ⟨hm, hkm⟩, -⟩
    exact ⟨m, hm, hkm⟩
  · rintro ⟨m, hm, hkm⟩
    classical
    have hsome : {m | m ∈ namePositions lines name ∧ k ≤ m}.Nonempty := ⟨m, hm, hkm⟩
    exact ⟨_, hsome.isLeast_natFind⟩

/-- Of the kind lines, a name line is reported by those between it and the matching name line
before. -/
theorem metadataName?_eq_some_iff_between (hm : m ∈ namePositions lines name) :
    metadataName? lines k name = some m
      ↔ ((namePositions lines name).filter (· < m)).max < WithBot.some k ∧ k ≤ m := by
  have hbelow : ((namePositions lines name).filter (· < m)).max < WithBot.some k
      ↔ ∀ p ∈ namePositions lines name, p < m → p < k := by
    rw [Finset.max_eq_sup_withBot, Finset.sup_lt_iff (WithBot.bot_lt_coe k)]
    simp only [Finset.mem_filter, and_imp, WithBot.coe_lt_coe]
  rw [metadataName?_eq_some_iff_isLeast, hbelow]
  constructor
  · rintro ⟨⟨-, hkm⟩, hleast⟩
    refine ⟨?_, hkm⟩
    intro p hp hpm
    by_contra hkp
    have hle : m ≤ p := hleast ⟨hp, by omega⟩
    omega
  · rintro ⟨hbetween, hkm⟩
    refine ⟨⟨hm, hkm⟩, ?_⟩
    rintro p ⟨hp, hkp⟩
    by_contra hlt
    have := hbetween p hp (by omega)
    omega

theorem le_max_iff {positions : Finset Nat} :
    WithBot.some k ≤ positions.max ↔ ∃ m ∈ positions, k ≤ m := by
  rw [Finset.max_eq_sup_withBot, Finset.le_sup_iff (WithBot.bot_lt_coe k)]
  simp only [WithBot.coe_le_coe]

/-- A kind line further down reports a line that is no further up. -/
theorem metadataName?_mono {k' m' : Nat} (hkk' : k ≤ k')
    (h : metadataName? lines k name = some m) (h' : metadataName? lines k' name = some m') :
    m ≤ m' := by
  rw [metadataName?_eq_some_iff_isLeast] at h h'
  obtain ⟨hm', hkm'⟩ := h'.1
  exact h.2 ⟨hm', Nat.le_trans hkk' hkm'⟩

/-- A file with one kind line and one matching name line after it. -/
theorem definitionPositions_eq_singleton (hkind : kindPositions lines = {k})
    (hname : (namePositions lines name).filter (k ≤ ·) = {m}) :
    definitionPositions lines name = [m] := by
  have hkinds : kindLines lines = [k] := by
    refine linesWith_eq (List.pairwise_singleton _ k) fun i => ?_
    have hmem : i ∈ kindPositions lines ↔ i = k := by rw [hkind, Finset.mem_singleton]
    rw [List.mem_singleton, ← hmem, mem_kindPositions]
    rfl
  have hmem : ∀ p, p ∈ namePositions lines name ∧ k ≤ p ↔ p = m := fun p => by
    rw [← Finset.mem_filter, hname, Finset.mem_singleton]
  have hfound : metadataName? lines k name = some m := by
    refine metadataName?_eq_some_iff_isLeast.2 ⟨(hmem m).2 rfl, ?_⟩
    intro p hp
    exact Nat.le_of_eq ((hmem p).1 hp).symm
  simp [definitionPositions, hkinds, hfound]

/-! ## All reports -/

/-- Reports come in order. -/
theorem pairwise_definitionPositions (lines : List Text) (name : Text) :
    (definitionPositions lines name).Pairwise (· ≤ ·) := by
  rw [definitionPositions, List.pairwise_filterMap]
  refine (pairwise_linesWith _ lines).imp ?_
  intro k k' hlt m hm m' hm'
  exact metadataName?_mono (Nat.le_of_lt hlt) hm hm'

theorem mem_namePositions_of_mem (h : m ∈ definitionPositions lines name) :
    m ∈ namePositions lines name := by
  obtain ⟨k, -, hfound⟩ := mem_definitionPositions.1 h
  exact (metadataName?_eq_some_iff_isLeast.1 hfound).1.1

/-- A matching name line is reported once for every kind line between it and the one before. -/
theorem count_definitionPositions (hm : m ∈ namePositions lines name) :
    (definitionPositions lines name).count m
      = ((kindPositions lines).filter fun k : Nat =>
        ((namePositions lines name).filter (· < m)).max < WithBot.some k ∧ k ≤ m).card := by
  rw [definitionPositions, List.count_filterMap, card_filter_kindPositions]
  refine List.countP_congr fun k _ => ?_
  rw [beq_iff_eq, decide_eq_true_iff]
  exact metadataName?_eq_some_iff_between hm

/-- There are as many reports as kind lines that are not after the last matching name line. -/
theorem length_definitionPositions (lines : List Text) (name : Text) :
    (definitionPositions lines name).length
      = ((kindPositions lines).filter fun k : Nat =>
        WithBot.some k ≤ (namePositions lines name).max).card := by
  rw [definitionPositions, List.length_filterMap_eq_countP, card_filter_kindPositions]
  refine List.countP_congr fun k _ => ?_
  rw [decide_eq_true_iff, le_max_iff]
  exact isSome_metadataName?_iff

end Positions

/-- **How often a definition is reported.** In a file of at most 2³² lines the reports of a name
come in order, and are all of matching name lines. Each such line is reported once for every kind
line between it and the one before, and there are as many reports as there are kind lines not after
the last one. So one kind line and one matching name line after it give that line. -/
theorem definitions_multiplicity (lines : List Text) (name : Text)
    (hlines : lines.length ≤ UInt32.size) :
    (definitions lines name).Pairwise (· ≤ ·)
    ∧ (∀ m ∈ definitions lines name, m.toNat ∈ namePositions lines name)
    ∧ (∀ m ∈ namePositions lines name, (definitions lines name).count (lineNumber m)
      = ((kindPositions lines).filter fun k : Nat =>
        ((namePositions lines name).filter (· < m)).max < WithBot.some k ∧ k ≤ m).card)
    ∧ (definitions lines name).length
      = ((kindPositions lines).filter fun k : Nat =>
        WithBot.some k ≤ (namePositions lines name).max).card
    ∧ ∀ k m, kindPositions lines = {k} → (namePositions lines name).filter (k ≤ ·) = {m} →
      (definitions lines name).map UInt32.toNat = [m] := by
  have hbound : ∀ i ∈ definitionPositions lines name, i < UInt32.size := fun i hi =>
    Nat.lt_of_lt_of_le (lt_length_of_mem_definitionPositions hi) hlines
  refine ⟨?_, fun m hm => ?_, fun m hm => ?_, ?_, fun k m hkind hname => ?_⟩
  · exact (pairwise_map_lineNumber hbound).2 (pairwise_definitionPositions lines name)
  · exact mem_namePositions_of_mem ((mem_map_lineNumber hbound).1 hm)
  · have hlt : m < lines.length := Finset.mem_range.1 (Finset.mem_filter.1 hm).1
    rw [definitions, count_map_lineNumber hbound (by omega), count_definitionPositions hm]
  · rw [definitions, List.length_map, length_definitionPositions]
  · have hfound := definitionPositions_eq_singleton hkind hname
    have hm : m < UInt32.size := hbound m (by rw [hfound]; exact List.mem_singleton_self m)
    rw [definitions, hfound, List.map_singleton, List.map_singleton, toNat_lineNumber hm]

/-- A kind line without a name of its own, two definitions of one name, and a kind line after them.
-/
def exampleReports : List Text :=
  ["kind: WorkflowTemplate".toList, "kind: WorkflowTemplate".toList, "metadata:".toList,
    "  name: lib".toList, "kind: WorkflowTemplate".toList, "metadata:".toList,
    "  name: lib".toList, "kind: WorkflowTemplate".toList]

/-- The first definition is reported twice, the last kind line reports nothing, and the first
definition alone is reported once. -/
theorem definitions_multiplicity_repeated :
    exampleReports.length ≤ UInt32.size
      ∧ 3 ∈ namePositions exampleReports "lib".toList
      ∧ (definitions exampleReports "lib".toList).count 3 = 2
      ∧ (definitions exampleReports "lib".toList).length = 3
      ∧ (definitions ((exampleReports.drop 1).take 3) "lib".toList).map UInt32.toNat = [2] := by
  have hlines : exampleReports.length ≤ UInt32.size := by decide
  obtain ⟨-, -, hcount, hlength, -⟩ := definitions_multiplicity exampleReports "lib".toList hlines
  obtain ⟨-, -, -, -, hone⟩ :=
    definitions_multiplicity ((exampleReports.drop 1).take 3) "lib".toList (by decide)
  have hmem : 3 ∈ namePositions exampleReports "lib".toList := by decide +kernel
  refine ⟨hlines, hmem, ?_, ?_, hone 0 2 (by decide +kernel) (by decide +kernel)⟩
  · exact (hcount 3 hmem).trans (by decide +kernel)
  · rw [hlength]
    decide +kernel

/-! One definition at the top of a file, and one so far down that its name line has no number of its
own. -/

/-- The lines of a definition. -/
def exampleDefinition : List Text :=
  ["kind: WorkflowTemplate".toList, "metadata:".toList, "  name: lib".toList]

theorem lineAt_metadata_exampleDefinition {i : Nat}
    (h : LineAt (Text.has Marker.metadata) exampleDefinition i) : i = 1 := by
  have hall : ∀ i < exampleDefinition.length,
      LineAt (Text.has Marker.metadata) exampleDefinition i → i = 1 := by decide
  exact hall i h.lt_length h

/-- Each is found by its own kind line. -/
theorem definitionPositions_parted (blanks : Nat) :
    definitionPositions (parted exampleDefinition blanks exampleDefinition) "lib".toList
      = [2, 3 + blanks + 2] := by
  let lines := parted exampleDefinition blanks exampleDefinition
  have hkinds : kindLines lines = [0, 3 + blanks + 0] := linesWith_parted (by decide)
  have hmetadata : ∀ i, LineAt (Text.has Marker.metadata) lines i → i = 1 ∨ i = 3 + blanks + 1 := by
    intro i hi
    rcases lineAt_parted (by decide) hi with hfront | ⟨p, rfl, hback⟩
    · exact .inl (lineAt_metadata_exampleDefinition hfront)
    · rw [lineAt_metadata_exampleDefinition hback]
      exact .inr rfl
  have hfront : ∀ i, i < 3 → lines[i]? = exampleDefinition[i]? := fun i hi => parted_front hi
  have hback : ∀ i, lines[3 + blanks + i]? = exampleDefinition[i]? := parted_back
  have hfirst : metadataName? lines 0 "lib".toList = some 2 := by
    refine metadataName?_eq_some_iff.2 ⟨by decide, by decide, ?_, ?_, fun m _ hpos hm hmeta => ?_⟩
    · exact (lineAt_iff (hfront 1 (by decide))).2 (by decide)
    · rw [nameAt?, hfront 2 (by decide)]
      decide
    · have := hmetadata _ hmeta
      omega
  have hsecond : metadataName? lines (3 + blanks + 0) "lib".toList = some (3 + blanks + 2) := by
    refine metadataName?_eq_some_iff.2 ⟨by omega, by omega, ?_, ?_, fun m hlo _ hm hmeta => ?_⟩
    · exact (lineAt_iff (hback 1)).2 (by decide)
    · rw [nameAt?, hback 2]
      decide
    · have := hmetadata _ hmeta
      omega
  change (kindLines lines).filterMap (fun k => metadataName? lines k "lib".toList) = _
  simp only [hkinds, List.filterMap_cons, List.filterMap_nil, hfirst, hsecond]

/-- The second name line, at the position 2³², is reported as the first line, which is no name line:
the reports go back, and not to a definition. -/
theorem definitions_multiplicity_beyond :
    definitions (parted exampleDefinition (UInt32.size - 5) exampleDefinition) "lib".toList = [2, 0]
      ∧ ¬ (definitions (parted exampleDefinition (UInt32.size - 5) exampleDefinition)
        "lib".toList).Pairwise (· ≤ ·)
      ∧ (0 : UInt32).toNat ∉
        namePositions (parted exampleDefinition (UInt32.size - 5) exampleDefinition)
          "lib".toList := by
  have hreports : definitions (parted exampleDefinition (UInt32.size - 5) exampleDefinition)
      "lib".toList = [2, 0] := by
    rw [definitions, definitionPositions_parted]
    rfl
  refine ⟨hreports, ?_, fun hmem => ?_⟩
  · rw [hreports]
    decide
  · exact absurd (mem_namePositions.1 hmem).1 (by decide)

end WorkflowNav.Manifest
