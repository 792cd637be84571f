/-
Which lines refer to a template or its owner, and in what order they are reported.

A `templateRef:` is read together with its block, and two things are looked for there, each by a
rule of its own: the template is the first that can be read, while the owner is decided by the first
line with a `name:` and no `template:`, whether its name can be read or not. Blocks of
`templateRef:`s that stand close together overlap. All the same the reports come in order: what is
first in a block comes no later than anything of its kind further down, in this block or after it
(`le_of_isLeast_refBlock`). A block names one template, so it is counted for one of them, and its
owner's name is reported too.

References to an owner come from two kinds of marker, and here the order can fail. Each kind keeps
its own order, and a `templateRef:` is never reported too early. But the block of a `templateRef:`
passes over lines with a `template:`, and a `workflowTemplateRef:` further down does not. If it
finds the owner's name in such a line, it reports a line above the one that was reported before it.
Nothing else disturbs the order.
-/
import Mathlib.Algebra.GroupWithZero.Nat
import Mathlib.Algebra.Order.BigOperators.Group.List
import Mathlib.Algebra.Order.Group.Nat
import Mathlib.Data.List.Forall2
import Mathlib.Data.List.Nodup
import Mathlib.Data.List.Perm.Subperm
import Mathlib.Order.Bounds.Basic
import WorkflowNav.Proofs.Entry

set_option autoImplicit false

namespace WorkflowNav.Manifest

/-! ## What a marker names -/

/-- A `templateRef:` names an owner, at a line of its block: the first one with a `name:` and no
`template:`. -/
structure NamesOwner (lines : List Text) (owner : Text) (i n : Nat) : Prop where
  marker : LineAt (Text.has Marker.templateRef) lines i
  first : IsLeast {n | InRefBlock lines i n ∧ LineAt (Text.has Marker.name) lines n
    ∧ ¬ LineAt (Text.has Marker.template) lines n} n
  name : nameAt? lines n = some owner

/-- A `templateRef:` refers to a template of an owner, at a line of its block: the first one from
which a template can be read. -/
structure RefersTo (lines : List Text) (owner template : Text) (i j : Nat) : Prop where
  owner : ∃ n, NamesOwner lines owner i n
  first : IsLeast {j | InRefBlock lines i j ∧ templateAt? lines j ≠ none} j
  template : templateAt? lines j = some template

/-- A `workflowTemplateRef:` names an owner, at the first of the next five lines with that name. -/
structure NamesWhole (lines : List Text) (owner : Text) (r j : Nat) : Prop where
  marker : LineAt (Text.has Marker.workflowTemplateRef) lines r
  first : IsLeast {j | r < j ∧ j ≤ r + 5 ∧ nameAt? lines j = some owner} j

section Markers

variable {lines : List Text} {owner template : Text} {i j n r : Nat}

theorem lineAt_name_of_nameAt? (h : nameAt? lines n = some owner) :
    LineAt (Text.has Marker.name) lines n := by
  obtain ⟨line, hline, hname⟩ := Option.bind_eq_some_iff.1 h
  exact ⟨line, hline, has_of_valueOf? hname⟩

/-- What is first in a block comes no later than anything of its kind below the marker. -/
theorem le_of_isLeast_refBlock {P : Nat → Prop} {p : Nat}
    (h : IsLeast {j | InRefBlock lines i j ∧ P j} j) (hip : i < p) (hp : P p) : j ≤ p := by
  by_contra hlt
  -- a line between the marker and the first one lies in the block as well
  have hblock : InRefBlock lines i p := h.1.1.of_le hip (by omega)
  have hle : j ≤ p := h.2 ⟨hblock, hp⟩
  omega

/-- The name that a `workflowTemplateRef:` finds comes no later than the same name anywhere below.
-/
theorem NamesWhole.le {p : Nat} (h : NamesWhole lines owner r j) (hrp : r < p)
    (hp : nameAt? lines p = some owner) : j ≤ p := by
  obtain ⟨⟨-, hreach, -⟩, hleast⟩ := h.first
  by_cases hpr : p ≤ r + 5
  · exact hleast ⟨hrp, hpr, hp⟩
  · omega

/-- What a `templateRef:` names is what is found in its block. -/
theorem namesOwner_iff :
    NamesOwner lines owner i n
      ↔ i ∈ linesWith Marker.templateRef lines
        ∧ (refPositions lines i).ownerLine? owner = some n := by
  have hblock : (refPositions lines i).ownerLine? owner = some n
      ↔ (refPositions lines i).owner = some (owner, n) := by
    unfold RefBlock.ownerLine?
    cases (refPositions lines i).owner with
    | none => simp
    | some pair =>
      by_cases howner : pair.1 = owner
      · simp [Prod.ext_iff, howner]
      · simp [Prod.ext_iff, howner]
  rw [hblock, owner_refPositions_iff, mem_linesWith]
  exact ⟨fun h => ⟨h.marker, h.first, h.name⟩, fun h => ⟨h.1, h.2.1, h.2.2⟩⟩

/-- What a `workflowTemplateRef:` names is what is found close below. -/
theorem namesWhole_iff :
    NamesWhole lines owner r j
      ↔ r ∈ linesWith Marker.workflowTemplateRef lines ∧ wholeRefLine? lines owner r = some j := by
  have hname : ∀ m, LineAt (fun line => name? line == some owner) lines m
      ↔ nameAt? lines m = some owner := by
    intro m
    simp only [LineAt, nameAt?, Option.bind_eq_some_iff, beq_iff_eq]
  have hset : {j | r + 1 ≤ j ∧ j < r + 1 + workflowTemplateRefLines
        ∧ LineAt (fun line => name? line == some owner) lines j}
      = {j | r < j ∧ j ≤ r + 5 ∧ nameAt? lines j = some owner} := by
    ext m
    simp only [hname, workflowTemplateRefLines]
    constructor
    · rintro ⟨hlo, hhi, h⟩
      exact ⟨hlo, by omega, h⟩
    · rintro ⟨hlo, hhi, h⟩
      exact ⟨hlo, by omega, h⟩
  rw [wholeRefLine?, firstIn_eq_some_iff_isLeast, hset, mem_linesWith]
  exact ⟨fun h => ⟨h.marker, h.first⟩, fun h => ⟨h.1, h.2⟩⟩

end Markers

/-! ## References to a template -/

section Templates

variable {lines : List Text} {owner template : Text} {i j : Nat}

/-- What a `templateRef:` refers to is what is found in its block. -/
theorem refersTo_iff :
    RefersTo lines owner template i j
      ↔ i ∈ linesWith Marker.templateRef lines
        ∧ (refPositions lines i).templateLine? owner template = some j := by
  have hblock : (refPositions lines i).templateLine? owner template = some j
      ↔ (∃ n, (refPositions lines i).owner = some (owner, n))
        ∧ (refPositions lines i).template = some (template, j) := by
    unfold RefBlock.templateLine?
    split
    · next howner htemplate =>
      rw [howner, htemplate]
      simp [and_assoc]
    · next hnone =>
      refine ⟨fun h => absurd h (by simp), ?_⟩
      rintro ⟨⟨n, howner⟩, htemplate⟩
      exact absurd htemplate (hnone _ _ _ _ howner)
  rw [hblock, template_refPositions_iff, mem_linesWith]
  simp only [owner_refPositions_iff]
  constructor
  · rintro ⟨⟨n, howner⟩, hleast, hvalue⟩
    exact ⟨howner.marker, ⟨n, howner.first, howner.name⟩, hleast, hvalue⟩
  · rintro ⟨hmarker, ⟨n, hfirst, hname⟩, hleast, hvalue⟩
    exact ⟨⟨n, hmarker, hfirst, hname⟩, hleast, hvalue⟩

theorem mem_templateReferencePositions :
    j ∈ templateReferencePositions lines owner template
      ↔ ∃ i, RefersTo lines owner template i j := by
  rw [templateReferencePositions, List.mem_filterMap]
  exact exists_congr fun i => refersTo_iff.symm

theorem RefersTo.lt_length (h : RefersTo lines owner template i j) : j < lines.length := by
  obtain ⟨line, hline, -⟩ := Option.bind_eq_some_iff.1 h.template
  exact (List.getElem?_eq_some_iff.1 hline).1

/-- The elements for which something is found, beside what is found for them. -/
theorem forall₂_filterMap {α β : Type} {R : α → β → Prop} {find : α → Option β} {xs : List α}
    (h : ∀ x ∈ xs, ∀ y, find x = some y → R x y) :
    List.Forall₂ R (xs.filter fun x => (find x).isSome) (xs.filterMap find) := by
  induction xs with
  | nil => exact .nil
  | cons x xs ih =>
    have hrest := ih fun other hother => h other (List.mem_cons_of_mem _ hother)
    cases hx : find x with
    | none => simpa [hx] using hrest
    | some y => simpa [hx] using ⟨h x List.mem_cons_self y hx, hrest⟩

/-- The `templateRef:`s that refer to a template, in order. -/
def referring (lines : List Text) (owner template : Text) : List Nat :=
  (linesWith Marker.templateRef lines).filter fun i =>
    ((refPositions lines i).templateLine? owner template).isSome

theorem mem_referring :
    i ∈ referring lines owner template ↔ ∃ j, RefersTo lines owner template i j := by
  rw [referring, List.mem_filter, Option.isSome_iff_exists]
  simp only [refersTo_iff, exists_and_left]

theorem pairwise_referring (lines : List Text) (owner template : Text) :
    (referring lines owner template).Pairwise (· < ·) :=
  (pairwise_linesWith _ lines).filter _

/-- Every `templateRef:` that refers to a template is found, with its own line. -/
theorem forall₂_referring (lines : List Text) (owner template : Text) :
    List.Forall₂ (RefersTo lines owner template) (referring lines owner template)
      (templateReferencePositions lines owner template) :=
  forall₂_filterMap fun _ hi _ hj => refersTo_iff.2 ⟨hi, hj⟩

/-- References to a template are found in order. -/
theorem pairwise_templateReferencePositions (lines : List Text) (owner template : Text) :
    (templateReferencePositions lines owner template).Pairwise (· ≤ ·) := by
  rw [templateReferencePositions, List.pairwise_filterMap]
  refine (pairwise_linesWith _ lines).imp_of_mem ?_
  intro i i' hi hi' hlt j hj j' hj'
  have hearlier := refersTo_iff.2 ⟨hi, hj⟩
  have hlater := refersTo_iff.2 ⟨hi', hj'⟩
  obtain ⟨⟨hblock, hread⟩, -⟩ := hlater.first
  exact le_of_isLeast_refBlock hearlier.first (Nat.lt_trans hlt hblock.below) hread

/-! ## References to an owner -/

/-- A `templateRef:` refers to one template. -/
theorem RefersTo.unique {template' : Text} {j' : Nat} (h : RefersTo lines owner template i j)
    (h' : RefersTo lines owner template' i j') : template = template' := by
  obtain rfl : j = j' := h.first.unique h'.first
  exact Option.some.inj (h.template.symm.trans h'.template)

/-- The `templateRef:`s that name an owner, in order. -/
def naming (lines : List Text) (owner : Text) : List Nat :=
  (linesWith Marker.templateRef lines).filter fun i =>
    ((refPositions lines i).ownerLine? owner).isSome

theorem mem_naming : i ∈ naming lines owner ↔ ∃ n, NamesOwner lines owner i n := by
  rw [naming, List.mem_filter, Option.isSome_iff_exists]
  simp only [namesOwner_iff, exists_and_left]

/-- Each `templateRef:` that names an owner is reported for it. -/
theorem length_naming_le (lines : List Text) (owner : Text) :
    (naming lines owner).length ≤ (ownerReferencePositions lines owner).length := by
  have hline : ∀ pair : Text × Nat,
      ((if Text.has Marker.templateRef pair.1 then some pair.2 else none).bind
        fun i => (refPositions lines i).ownerLine? owner).toList.length
        ≤ (ownerPositionsAt lines owner pair.2 pair.1).length := by
    intro pair
    rw [ownerPositionsAt, List.length_append]
    by_cases hhas : Text.has Marker.templateRef pair.1 = true
    · simp [hhas]
    · simp [hhas]
  rw [naming, ← List.countP_eq_length_filter, ← List.length_filterMap_eq_countP, linesWith,
    List.filterMap_filterMap, List.filterMap_eq_flatMap_toList, ownerReferencePositions,
    List.length_flatMap, List.length_flatMap]
  exact List.sum_le_sum fun pair _ => hline pair

/-- Different templates of an owner are referred to by different `templateRef:`s, each of which
names the owner. -/
theorem sum_length_templateReferences_le {templates : List Text} (h : templates.Nodup) :
    (templates.map fun t => (templateReferences lines owner t).length).sum
      ≤ (workflowTemplateReferences lines owner).length := by
  have hlength : ∀ t,
      (templateReferences lines owner t).length = (referring lines owner t).length := by
    intro t
    rw [templateReferences_eq_map, List.length_map, (forall₂_referring lines owner t).length_eq]
  have hnodup : (templates.flatMap (referring lines owner)).Nodup := by
    refine List.nodup_flatMap.2 ⟨fun t _ => (pairwise_referring lines owner t).imp Nat.ne_of_lt, ?_⟩
    refine h.imp ?_
    intro t t' hne i hi hi'
    obtain ⟨j, hj⟩ := mem_referring.1 hi
    obtain ⟨j', hj'⟩ := mem_referring.1 hi'
    exact hne (hj.unique hj')
  have hsubset : templates.flatMap (referring lines owner) ⊆ naming lines owner := by
    intro i hi
    obtain ⟨t, -, hmem⟩ := List.mem_flatMap.1 hi
    obtain ⟨j, hj⟩ := mem_referring.1 hmem
    exact mem_naming.2 hj.owner
  calc (templates.map fun t => (templateReferences lines owner t).length).sum
      = (templates.flatMap (referring lines owner)).length := by
        simp only [hlength, List.length_flatMap]
    _ ≤ (naming lines owner).length := (hnodup.subperm hsubset).length_le
    _ ≤ (ownerReferencePositions lines owner).length := length_naming_le lines owner
    _ = (workflowTemplateReferences lines owner).length := by
        rw [workflowTemplateReferences_eq_map, List.length_map]

end Templates

/-- **References to a template are exact and in order.** In a file of at most 2³² lines the reports
of a template are, over the `templateRef:`s that refer to it and in their order, the lines at which
they do so. They never go back, and each is a line with that template. Different templates of an
owner together have no more reports than the owner itself. -/
theorem templateReferences_exact (lines : List Text) (owner template : Text)
    (hlines : lines.length ≤ UInt32.size) :
    (∃ markers : List Nat, markers.Pairwise (· < ·)
      ∧ (∀ i, i ∈ markers ↔ ∃ j, RefersTo lines owner template i j)
      ∧ List.Forall₂ (fun i (j : UInt32) => RefersTo lines owner template i j.toNat) markers
        (templateReferences lines owner template))
    ∧ (templateReferences lines owner template).Pairwise (· ≤ ·)
    ∧ (∀ j ∈ templateReferences lines owner template,
      templateAt? lines j.toNat = some template)
    ∧ ∀ templates : List Text, templates.Nodup →
      (templates.map fun t => (templateReferences lines owner t).length).sum
        ≤ (workflowTemplateReferences lines owner).length := by
  have hbound : ∀ j ∈ templateReferencePositions lines owner template, j < UInt32.size := by
    intro j hj
    obtain ⟨i, h⟩ := mem_templateReferencePositions.1 hj
    exact Nat.lt_of_lt_of_le h.lt_length hlines
  rw [templateReferences_eq_map]
  refine ⟨⟨referring lines owner template, pairwise_referring lines owner template,
    fun i => mem_referring, ?_⟩, ?_, fun j hj => ?_,
    fun templates => sum_length_templateReferences_le⟩
  · rw [List.forall₂_map_right_iff]
    refine (forall₂_referring lines owner template).imp fun i j h => ?_
    rwa [toNat_lineNumber (Nat.lt_of_lt_of_le h.lt_length hlines)]
  · exact (pairwise_map_lineNumber hbound).2 (pairwise_templateReferencePositions _ _ _)
  · obtain ⟨i, h⟩ := mem_templateReferencePositions.1 ((mem_map_lineNumber hbound).1 hj)
    exact h.template

/-- The blocks of the first two `templateRef:`s overlap; the third has its template before its
owner. -/
def exampleReferences : List Text :=
  ["templateRef:".toList, "templateRef:".toList, "  name: lib".toList, "  template: hi".toList,
    "templateRef:".toList, "  template: bye".toList, "  name: lib".toList]

theorem templateReferences_exact_overlapping :
    exampleReferences.length ≤ UInt32.size
      ∧ templateReferences exampleReferences "lib".toList "hi".toList = [3, 3]
      ∧ (∃ markers : List Nat, markers.Pairwise (· < ·)
        ∧ List.Forall₂ (fun i (j : UInt32) =>
            RefersTo exampleReferences "lib".toList "hi".toList i j.toNat) markers [3, 3])
      ∧ ["hi".toList, "bye".toList].Nodup
      ∧ (["hi".toList, "bye".toList].map fun t =>
          (templateReferences exampleReferences "lib".toList t).length).sum
        ≤ (workflowTemplateReferences exampleReferences "lib".toList).length := by
  have hlines : exampleReferences.length ≤ UInt32.size := by decide
  have hfound : templateReferences exampleReferences "lib".toList "hi".toList = [3, 3] := by
    decide +kernel
  have hnodup : ["hi".toList, "bye".toList].Nodup := by decide
  obtain ⟨⟨markers, hpairwise, -, hreports⟩, -, -, hcount⟩ :=
    templateReferences_exact exampleReferences "lib".toList "hi".toList hlines
  rw [hfound] at hreports
  exact ⟨hlines, hfound, ⟨markers, hpairwise, hreports⟩, hnodup, hcount _ hnodup⟩

/-! One reference at the top of a file, and one so far down that its template line has no number of
its own. -/

/-- The lines of a reference. -/
def exampleReference : List Text :=
  ["templateRef:".toList, "  name: lib".toList, "  template: hi".toList]

theorem templateReferencePositions_parted (blanks : Nat) :
    templateReferencePositions (parted exampleReference blanks exampleReference) "lib".toList
      "hi".toList = [2, 3 + blanks + 2] := by
  let lines := parted exampleReference blanks exampleReference
  have hmarkers : linesWith Marker.templateRef lines = [0, 3 + blanks + 0] :=
    linesWith_parted (by decide)
  have hfront : ∀ i, i < 3 → lines[i]? = exampleReference[i]? := fun i hi => parted_front hi
  have hback : ∀ i, lines[3 + blanks + i]? = exampleReference[i]? := parted_back
  have hfirst : refPositions lines 0 = ⟨some ("lib".toList, 1), some ("hi".toList, 2)⟩ :=
    refPositions_eq rfl rfl (hfront 1 (by decide)) (hfront 2 (by decide)) (by decide) (by decide)
      (by decide) (by decide)
  have hsecond : refPositions lines (3 + blanks + 0)
      = ⟨some ("lib".toList, 3 + blanks + 1), some ("hi".toList, 3 + blanks + 2)⟩ :=
    refPositions_eq rfl rfl (hback 1) (hback 2) (by decide) (by decide) (by decide) (by decide)
  change (linesWith Marker.templateRef lines).filterMap
    (fun i => (refPositions lines i).templateLine? "lib".toList "hi".toList) = _
  simp only [hmarkers, List.filterMap_cons, List.filterMap_nil, hfirst, hsecond,
    RefBlock.templateLine?, and_self, if_true]

/-- The second template line, at the position 2³², is reported as the first line, which has no
template: the reports go back, and not to a reference. -/
theorem templateReferences_exact_beyond :
    templateReferences (parted exampleReference (UInt32.size - 5) exampleReference) "lib".toList
        "hi".toList = [2, 0]
      ∧ ¬ (templateReferences (parted exampleReference (UInt32.size - 5) exampleReference)
        "lib".toList "hi".toList).Pairwise (· ≤ ·)
      ∧ templateAt? (parted exampleReference (UInt32.size - 5) exampleReference) (0 : UInt32).toNat
        ≠ some "hi".toList := by
  have hreports : templateReferences (parted exampleReference (UInt32.size - 5) exampleReference)
      "lib".toList "hi".toList = [2, 0] := by
    rw [templateReferences_eq_map, templateReferencePositions_parted]
    rfl
  refine ⟨hreports, ?_, ?_⟩
  · rw [hreports]
    decide
  · have hline : (parted exampleReference (UInt32.size - 5) exampleReference)[(0 : UInt32).toNat]?
        = exampleReference[0]? := parted_front (by decide)
    rw [templateAt?, hline]
    decide

/-! ## The order of references to an owner -/

section Order

variable {lines : List Text} {owner : Text} {i j n r : Nat}

/-- A `workflowTemplateRef:` overtakes a `templateRef:` that does not come after it: it finds the
owner's name in a line with a `template:`, which the block of the `templateRef:` has passed over on
the way to a name further down. -/
structure Overtakes (lines : List Text) (owner : Text) (i n r j : Nat) : Prop where
  overtaken : NamesOwner lines owner i n
  marker : LineAt (Text.has Marker.workflowTemplateRef) lines r
  below : i ≤ r
  near : r < j ∧ j ≤ r + 5
  name : nameAt? lines j = some owner
  passedOver : LineAt (Text.has Marker.template) lines j
  above : j < n

/-- Two lines with what stands in them, in order. -/
theorem pairwise_zipIdx_iff {R : Text × Nat → Text × Nat → Prop} :
    lines.zipIdx.Pairwise R
      ↔ ∀ i i' line line', i < i' → lines[i]? = some line → lines[i']? = some line' →
        R (line, i) (line', i') := by
  rw [List.pairwise_iff_getElem]
  constructor
  · intro h i i' line line' hlt hline hline'
    obtain ⟨hi, rfl⟩ := List.getElem?_eq_some_iff.1 hline
    obtain ⟨hi', rfl⟩ := List.getElem?_eq_some_iff.1 hline'
    have hpair := h i i' (by rwa [List.length_zipIdx]) (by rwa [List.length_zipIdx]) hlt
    simpa only [List.getElem_zipIdx, Nat.zero_add] using hpair
  · intro h i i' hi hi' hlt
    rw [List.length_zipIdx] at hi hi'
    have hpair := h i i' _ _ hlt (List.getElem?_eq_getElem hi) (List.getElem?_eq_getElem hi')
    simpa only [List.getElem_zipIdx, Nat.zero_add] using hpair

section PositionsAt

variable {line : Text} {x : Nat} (hline : lines[i]? = some line)

include hline

/-- What is reported for a marker, if the line has it. -/
theorem mem_report {marker : Text} {found : Option Nat} :
    x ∈ (if Text.has marker line then found.toList else [])
      ↔ i ∈ linesWith marker lines ∧ found = some x := by
  rw [mem_linesWith]
  by_cases hhas : Text.has marker line = true
  · simp [hline, hhas]
  · simp [hline, hhas]

theorem mem_ownerPositionsAt :
    x ∈ ownerPositionsAt lines owner i line
      ↔ NamesOwner lines owner i x ∨ NamesWhole lines owner i x := by
  rw [ownerPositionsAt, List.mem_append, mem_report hline, mem_report hline, namesOwner_iff,
    namesWhole_iff]

/-- A line with both markers reports the block first. -/
theorem pairwise_ownerPositionsAt_iff :
    (ownerPositionsAt lines owner i line).Pairwise (· ≤ ·)
      ↔ ∀ n j, NamesOwner lines owner i n → NamesWhole lines owner i j → n ≤ j := by
  have hone : ∀ (p : Prop) [Decidable p] (found : Option Nat),
      (if p then found.toList else []).Pairwise (· ≤ ·) := by
    intro p _ found
    by_cases hp : p
    · cases found <;> simp [hp]
    · simp [hp]
  rw [ownerPositionsAt, List.pairwise_append]
  simp only [hone, true_and, mem_report hline, ← namesOwner_iff, ← namesWhole_iff]
  exact ⟨fun h n j hn hj => h n hn j hj, fun h n hn j hj => h n j hn hj⟩

end PositionsAt

theorem lt_length_of_mem_ownerReferencePositions (h : j ∈ ownerReferencePositions lines owner) :
    j < lines.length := by
  obtain ⟨⟨line, i⟩, hmem, hj⟩ := List.mem_flatMap.1 h
  have hline := List.mem_zipIdx_iff_getElem?.1 hmem
  rcases (mem_ownerPositionsAt hline).1 hj with hn | hj
  · exact (lineAt_name_of_nameAt? hn.name).lt_length
  · exact (lineAt_name_of_nameAt? hj.first.1.2.2).lt_length

/-- References to an owner are found in order if no `workflowTemplateRef:` finds a line above what a
`templateRef:` before it has found: the other three ways to meet keep the order. -/
theorem pairwise_ownerReferencePositions_iff :
    (ownerReferencePositions lines owner).Pairwise (· ≤ ·)
      ↔ ∀ i n r j, i ≤ r → NamesOwner lines owner i n → NamesWhole lines owner r j → n ≤ j := by
  rw [ownerReferencePositions, List.pairwise_flatMap, pairwise_zipIdx_iff]
  constructor
  · rintro ⟨hsame, hlater⟩ i n r j hir hn hj
    obtain ⟨line, hline, -⟩ := hn.marker
    obtain ⟨line', hline', -⟩ := hj.marker
    rcases Nat.eq_or_lt_of_le hir with rfl | hlt
    · have hmem : (line, i) ∈ lines.zipIdx := List.mem_zipIdx_iff_getElem?.2 hline
      exact (pairwise_ownerPositionsAt_iff hline).1 (hsame _ hmem) n j hn hj
    · exact hlater i r line line' hlt hline hline' n ((mem_ownerPositionsAt hline).2 (.inl hn)) j
        ((mem_ownerPositionsAt hline').2 (.inr hj))
  · intro h
    refine ⟨?_, ?_⟩
    · rintro ⟨line, i⟩ hmem
      have hline := List.mem_zipIdx_iff_getElem?.1 hmem
      exact (pairwise_ownerPositionsAt_iff hline).2 fun n j => h i n i j (Nat.le_refl i)
    · intro i r line line' hlt hline hline' x hx y hy
      rcases (mem_ownerPositionsAt hline).1 hx with hx | hx
      · rcases (mem_ownerPositionsAt hline').1 hy with hy | hy
        · obtain ⟨⟨hblock, hplain⟩, -⟩ := hy.first
          exact le_of_isLeast_refBlock hx.first (Nat.lt_trans hlt hblock.below) hplain
        · exact h i x r y (Nat.le_of_lt hlt) hx hy
      · -- a `workflowTemplateRef:` takes the first line with the name, and both kinds report such
        -- lines below their marker
        rcases (mem_ownerPositionsAt hline').1 hy with hy | hy
        · exact hx.le (Nat.lt_trans hlt hy.first.1.1.below) hy.name
        · exact hx.le (Nat.lt_trans hlt hy.first.1.1) hy.first.1.2.2

/-- A report out of order comes from a line that one kind of marker passes over and the other does
not. -/
theorem overtakes_of_lt (hir : i ≤ r) (hn : NamesOwner lines owner i n)
    (hj : NamesWhole lines owner r j) (hlt : j < n) : Overtakes lines owner i n r j := by
  obtain ⟨hrj, hreach, hname⟩ := hj.first.1
  refine ⟨hn, hj.marker, hir, ⟨hrj, hreach⟩, hname, ?_, hlt⟩
  by_contra hplain
  have hle := le_of_isLeast_refBlock hn.first (Nat.lt_of_le_of_lt hir hrj)
    ⟨lineAt_name_of_nameAt? hname, hplain⟩
  omega

/-- Where something overtakes, the first name below the `workflowTemplateRef:` does. -/
theorem Overtakes.exists_namesWhole (h : Overtakes lines owner i n r j) :
    ∃ first, NamesWhole lines owner r first ∧ first < n := by
  classical
  have hsome : {j | r < j ∧ j ≤ r + 5 ∧ nameAt? lines j = some owner}.Nonempty :=
    ⟨j, h.near.1, h.near.2, h.name⟩
  have hleast := hsome.isLeast_natFind
  refine ⟨_, ⟨h.marker, hleast⟩, ?_⟩
  exact Nat.lt_of_le_of_lt (hleast.2 ⟨h.near.1, h.near.2, h.name⟩) h.above

end Order

/-- **When references to an owner are in order.** In a file of at most 2³² lines they are, exactly
if no `workflowTemplateRef:` overtakes a `templateRef:`. So they are if the owner's name is never
read from a line that has a `template:` as well. -/
theorem workflowTemplateReferences_in_order_iff (lines : List Text) (owner : Text)
    (hlines : lines.length ≤ UInt32.size) :
    ((workflowTemplateReferences lines owner).Pairwise (· ≤ ·)
      ↔ ∀ i n r j, ¬ Overtakes lines owner i n r j)
    ∧ ((∀ j, nameAt? lines j = some owner → ¬ LineAt (Text.has Marker.template) lines j) →
      (workflowTemplateReferences lines owner).Pairwise (· ≤ ·)) := by
  have hbound : ∀ j ∈ ownerReferencePositions lines owner, j < UInt32.size := fun j hj =>
    Nat.lt_of_lt_of_le (lt_length_of_mem_ownerReferencePositions hj) hlines
  have hiff : (workflowTemplateReferences lines owner).Pairwise (· ≤ ·)
      ↔ ∀ i n r j, ¬ Overtakes lines owner i n r j := by
    rw [workflowTemplateReferences_eq_map, pairwise_map_lineNumber hbound,
      pairwise_ownerReferencePositions_iff]
    constructor
    · intro h i n r j hover
      obtain ⟨first, hfirst, hlt⟩ := hover.exists_namesWhole
      have hle := h i n r first hover.below hover.overtaken hfirst
      omega
    · intro h i n r j hir hn hj
      by_contra hlt
      exact h i n r j (overtakes_of_lt hir hn hj (by omega))
  refine ⟨hiff, fun hplain => hiff.2 ?_⟩
  intro i n r j hover
  exact hplain j hover.name hover.passedOver

/-- A `workflowTemplateRef:` that finds its name in the block of a `templateRef:`. -/
def exampleShared : List Text :=
  ["workflowTemplateRef:".toList, "  x: 1".toList, "templateRef:".toList, "  name: lib".toList,
    "  template: hi".toList]

theorem workflowTemplateReferences_in_order_iff_shared :
    exampleShared.length ≤ UInt32.size
      ∧ workflowTemplateReferences exampleShared "lib".toList = [3, 3]
      ∧ (∀ j, nameAt? exampleShared j = some "lib".toList →
        ¬ LineAt (Text.has Marker.template) exampleShared j)
      ∧ (workflowTemplateReferences exampleShared "lib".toList).Pairwise (· ≤ ·)
      ∧ ∀ i n r j, ¬ Overtakes exampleShared "lib".toList i n r j := by
  have hplain : ∀ j, nameAt? exampleShared j = some "lib".toList →
      ¬ LineAt (Text.has Marker.template) exampleShared j := by
    have hall : ∀ j < exampleShared.length, nameAt? exampleShared j = some "lib".toList →
        ¬ LineAt (Text.has Marker.template) exampleShared j := by decide +kernel
    exact fun j hname => hall j (lineAt_name_of_nameAt? hname).lt_length hname
  have hlines : exampleShared.length ≤ UInt32.size := by decide
  obtain ⟨hiff, hin⟩ := workflowTemplateReferences_in_order_iff exampleShared "lib".toList hlines
  exact ⟨hlines, by decide +kernel, hplain, hin hplain, hiff.1 (hin hplain)⟩

/-- A `templateRef:` without a name of its own, and a `workflowTemplateRef:` whose name is followed
by a comment on a `template:`. -/
def exampleOvertaking : Text :=
  ("templateRef:\n  clusterScope: true\nworkflowTemplateRef:\n  name: lib # template: hi\n"
    ++ "name: lib\n").toList

/-- The name that is in the block is reported before the one above it. -/
theorem workflowTemplateReferences_out_of_order :
    workflowTemplateReferences (Text.lines exampleOvertaking) "lib".toList = [4, 3]
      ∧ ¬ (workflowTemplateReferences (Text.lines exampleOvertaking) "lib".toList).Pairwise
        (· ≤ ·) := by
  have hreports :
      workflowTemplateReferences (Text.lines exampleOvertaking) "lib".toList = [4, 3] := by
    decide +kernel
  rw [hreports]
  decide

end WorkflowNav.Manifest
