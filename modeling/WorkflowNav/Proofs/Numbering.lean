/-
Line numbers and positions.

A search goes by positions, and what it finds is reported by numbers of 32 bits. In a file of at
most 2³² lines that makes no difference: each position has a number of its own, and the numbers are
in the order of the positions. So what holds of the positions that are found holds of the numbers
that are reported, and a statement about numbers is one about positions with these few lemmas in
between.

In a longer file it does. The line at position 2³² has the number 0, so that a report leads to
another line than the one that was found, and reports no longer rise. Files that long are told as
`parted`: a few lines, as many blank ones as it takes, and a few more lines. What stands in a parted
file, and where, does not depend on how many blank lines there are.
-/
import Mathlib.Data.List.Basic
import Mathlib.Data.List.Count
import Mathlib.Data.Option.Basic
import WorkflowNav.Proofs.Position

set_option autoImplicit false

namespace WorkflowNav

namespace Manifest

/-! ## Numbers of positions -/

section Numbers

variable {i j : Nat} {n : UInt32}

theorem toNat_lineNumber (h : i < UInt32.size) : (lineNumber i).toNat = i := by
  rw [lineNumber, UInt32.toNat_ofNat']
  exact Nat.mod_eq_of_lt h

theorem lineNumber_toNat (n : UInt32) : lineNumber n.toNat = n := UInt32.ofNat_toNat

theorem lineNumber_eq_iff (h : i < UInt32.size) : lineNumber i = n ↔ i = n.toNat := by
  constructor
  · rintro rfl
    exact (toNat_lineNumber h).symm
  · rintro rfl
    exact lineNumber_toNat n

theorem lineNumber_le_iff (hi : i < UInt32.size) (hj : j < UInt32.size) :
    lineNumber i ≤ lineNumber j ↔ i ≤ j := by
  rw [UInt32.le_iff_toNat_le, toNat_lineNumber hi, toNat_lineNumber hj]

theorem lineNumber_add (i j : Nat) : lineNumber (i + j) = lineNumber i + lineNumber j :=
  UInt32.ofNat_add i j

/-- The numbers start again after the last one. -/
theorem lineNumber_beyond (i : Nat) : lineNumber (UInt32.size + i) = lineNumber i := by
  rw [lineNumber_add]
  exact UInt32.zero_add _

end Numbers

section Reports

variable {positions : List Nat} (h : ∀ i ∈ positions, i < UInt32.size)

include h

theorem mem_map_lineNumber {n : UInt32} : n ∈ positions.map lineNumber ↔ n.toNat ∈ positions := by
  rw [List.mem_map]
  constructor
  · rintro ⟨i, hi, hn⟩
    rwa [← (lineNumber_eq_iff (h i hi)).1 hn]
  · intro hn
    exact ⟨n.toNat, hn, lineNumber_toNat n⟩

/-- Reports rise with the positions. -/
theorem pairwise_map_lineNumber :
    (positions.map lineNumber).Pairwise (· ≤ ·) ↔ positions.Pairwise (· ≤ ·) := by
  rw [List.pairwise_map]
  exact List.Pairwise.iff_of_mem fun hi hj => lineNumber_le_iff (h _ hi) (h _ hj)

/-- A line is reported as often as it is found. -/
theorem count_map_lineNumber {i : Nat} (hi : i < UInt32.size) :
    (positions.map lineNumber).count (lineNumber i) = positions.count i := by
  rw [List.count, List.countP_map, List.count]
  -- `lineNumber` is injective only below 2³², so `List.count_map_of_injective` does not apply
  refine List.countP_congr fun j hj => ?_
  rw [Function.comp_apply, beq_iff_eq, beq_iff_eq, lineNumber_eq_iff (h j hj), toNat_lineNumber hi]

end Reports

/-! ## The reports of a search -/

section Searches

variable {lines : List Text} {owner template : Text}

/-- The positions of the `template:` lines of the reference blocks that name `owner` and `template`.
-/
def templateReferencePositions (lines : List Text) (owner template : Text) : List Nat :=
  (linesWith Marker.templateRef lines).filterMap fun refLine =>
    (refPositions lines refLine).templateLine? owner template

/-- What is found for a line: the owner's name in its block, and the one it refers to as a whole. -/
def ownerPositionsAt (lines : List Text) (owner : Text) (i : Nat) (line : Text) : List Nat :=
  (if Text.has Marker.templateRef line then ((refPositions lines i).ownerLine? owner).toList
    else [])
    ++ (if Text.has Marker.workflowTemplateRef line then (wholeRefLine? lines owner i).toList
        else [])

/-- The positions of the `name:` lines of references of both kinds that name `owner`. -/
def ownerReferencePositions (lines : List Text) (owner : Text) : List Nat :=
  lines.zipIdx.flatMap fun (line, i) => ownerPositionsAt lines owner i line

theorem lt_length_of_mem_definitionPositions {name : Text} {j : Nat}
    (h : j ∈ definitionPositions lines name) : j < lines.length := by
  obtain ⟨k, hdefined⟩ := mem_definitionPositions.1 h
  obtain ⟨-, -, -, hname, -⟩ := metadataName?_eq_some_iff.1 hdefined.name
  obtain ⟨line, hline, -⟩ := Option.bind_eq_some_iff.1 hname
  exact (List.getElem?_eq_some_iff.1 hline).1

theorem lt_length_of_templatePosition? {j : Nat}
    (h : templatePosition? lines owner template = some j) : j < lines.length := by
  obtain ⟨k, n, hentry⟩ := templatePosition?_eq_some_iff.1 h
  exact hentry.lineAt.2.lt_length

/-- In a file that is not too long, the number that is reported for a template is its position. -/
theorem map_toNat_templateDefinition? (hlines : lines.length ≤ UInt32.size)
    (owner template : Text) :
    (templateDefinition? lines owner template).map UInt32.toNat
      = templatePosition? lines owner template := by
  rw [templateDefinition?]
  cases hposition : templatePosition? lines owner template with
  | none => rfl
  | some j =>
    have hj : j < UInt32.size :=
      Nat.lt_of_lt_of_le (lt_length_of_templatePosition? hposition) hlines
    rw [Option.map_some, Option.map_some, toNat_lineNumber hj]

theorem templateDefinition?_eq_some (hlines : lines.length ≤ UInt32.size) {j : UInt32} :
    templateDefinition? lines owner template = some j
      ↔ templatePosition? lines owner template = some j.toNat := by
  rw [← map_toNat_templateDefinition? hlines]
  exact ((Option.map_injective fun _ _ => UInt32.toNat_inj.1).eq_iff' rfl).symm

theorem RefBlock.ownerLine?_map {ι κ : Type} (tell : ι → κ) (block : RefBlock ι) (owner : Text) :
    (block.map tell).ownerLine? owner = (block.ownerLine? owner).map tell := by
  unfold ownerLine? map
  cases block.owner with
  | none => rfl
  | some pair =>
    by_cases howner : pair.1 = owner
    · simp [howner]
    · simp [howner]

theorem RefBlock.templateLine?_map {ι κ : Type} (tell : ι → κ) (block : RefBlock ι)
    (owner template : Text) :
    (block.map tell).templateLine? owner template
      = (block.templateLine? owner template).map tell := by
  unfold templateLine? map
  cases block.owner with
  | none => rfl
  | some pair =>
    cases block.template with
    | none => rfl
    | some other =>
      by_cases hboth : pair.1 = owner ∧ other.1 = template
      · simp [hboth]
      · simp [hboth]

theorem map_lineNumber_eq_some {found : Option (Text × Nat)} {name : Text} {n : UInt32}
    (h : ∀ w i, found = some (w, i) → i < UInt32.size) :
    (found.map fun (w, i) => (w, lineNumber i)) = some (name, n)
      ↔ found = some (name, n.toNat) := by
  rw [Option.map_eq_some_iff]
  constructor
  · rintro ⟨⟨w, i⟩, hfound, heq⟩
    obtain ⟨rfl, hi⟩ := Prod.mk.inj heq
    rw [hfound, (lineNumber_eq_iff (h w i hfound)).1 hi]
  · intro hfound
    exact ⟨_, hfound, by simp only [lineNumber_toNat]⟩

/-- In a file that is not too long, a block is reported by its positions. -/
theorem owner_refBlock (hlines : lines.length ≤ UInt32.size) {i : Nat} {n : UInt32} :
    (refBlock lines i).owner = some (owner, n)
      ↔ (refPositions lines i).owner = some (owner, n.toNat) :=
  map_lineNumber_eq_some fun _ _ hfound =>
    Nat.lt_of_lt_of_le (owner_refPositions_iff.1 hfound).1.1.1.lt_length hlines

theorem template_refBlock (hlines : lines.length ≤ UInt32.size) {i : Nat} {j : UInt32} :
    (refBlock lines i).template = some (template, j)
      ↔ (refPositions lines i).template = some (template, j.toNat) :=
  map_lineNumber_eq_some fun _ _ hfound =>
    Nat.lt_of_lt_of_le (template_refPositions_iff.1 hfound).1.1.1.lt_length hlines

/-- References to a template are reported by the numbers of their positions. -/
theorem templateReferences_eq_map (lines : List Text) (owner template : Text) :
    templateReferences lines owner template
      = (templateReferencePositions lines owner template).map lineNumber := by
  rw [templateReferences, templateReferencePositions, List.map_filterMap]
  refine List.filterMap_congr fun refLine _ => ?_
  rw [refBlock, RefBlock.templateLine?_map]

/-- References to an owner are reported by the numbers of their positions. -/
theorem workflowTemplateReferences_eq_map (lines : List Text) (owner : Text) :
    workflowTemplateReferences lines owner
      = (ownerReferencePositions lines owner).map lineNumber := by
  -- the number is taken inside each branch there, and of the whole list here
  have hif : ∀ (p : Prop) [Decidable p] (found : Option Nat),
      (if p then (found.map lineNumber).toList else [])
        = (if p then found.toList else []).map lineNumber := by
    intro p _ found
    by_cases hp : p
    · cases found <;> simp [hp]
    · simp [hp]
  rw [workflowTemplateReferences, ownerReferencePositions, List.map_flatMap]
  refine List.flatMap_congr ?_
  rintro ⟨line, i⟩ -
  dsimp only
  rw [ownerPositionsAt, List.map_append, ← hif, ← hif, ← RefBlock.ownerLine?_map, refBlock]

end Searches

/-! ## Parted files -/

/-- A few lines, some blank ones, and a few more lines. -/
def parted (front : List Text) (blanks : Nat) (back : List Text) : List Text :=
  front ++ List.replicate blanks [] ++ back

section Parted

variable {front back : List Text} {blanks : Nat}

theorem length_parted :
    (parted front blanks back).length = front.length + blanks + back.length := by
  rw [parted, List.length_append, List.length_append, List.length_replicate]

theorem parted_front {i : Nat} (h : i < front.length) :
    (parted front blanks back)[i]? = front[i]? := by
  rw [parted, List.append_assoc, List.getElem?_append_left h]

theorem parted_blank {i : Nat} (hlo : front.length ≤ i) (hhi : i < front.length + blanks) :
    (parted front blanks back)[i]? = some [] := by
  rw [parted, List.append_assoc, List.getElem?_append_right hlo, List.getElem?_append_left,
    List.getElem?_replicate_of_lt]
  · omega
  · rw [List.length_replicate]
    omega

theorem parted_back (i : Nat) :
    (parted front blanks back)[front.length + blanks + i]? = back[i]? := by
  have hlength : (front ++ List.replicate blanks ([] : Text)).length = front.length + blanks := by
    rw [List.length_append, List.length_replicate]
  rw [parted, List.getElem?_append_right (by omega), hlength, Nat.add_sub_cancel_left]

/-- What passes a test that blank lines fail stands in front or at the back. -/
theorem lineAt_parted {test : Text → Bool} (hblank : test [] = false) {i : Nat}
    (h : LineAt test (parted front blanks back) i) :
    LineAt test front i ∨ ∃ p, i = front.length + blanks + p ∧ LineAt test back p := by
  obtain ⟨line, hline, htest⟩ := h
  rcases Nat.lt_or_ge i front.length with hfront | hge
  · rw [parted_front hfront] at hline
    exact .inl ⟨line, hline, htest⟩
  · rcases Nat.lt_or_ge i (front.length + blanks) with hlt | hback
    · rw [parted_blank hge hlt] at hline
      rw [← Option.some.inj hline, hblank] at htest
      exact absurd htest (by decide)
    · obtain ⟨p, rfl⟩ : ∃ p, i = front.length + blanks + p := ⟨_, (Nat.add_sub_cancel' hback).symm⟩
      rw [parted_back] at hline
      exact .inr ⟨p, rfl, line, hline, htest⟩

/-- Blank lines have no marker. -/
theorem linesWith_parted {marker : Text} (hblank : Text.has marker [] = false) :
    linesWith marker (parted front blanks back)
      = linesWith marker front ++ (linesWith marker back).map (front.length + blanks + ·) := by
  have hnone : linesWith marker (List.replicate blanks []) = [] :=
    linesWith_eq_nil fun line hline => by rw [List.eq_of_mem_replicate hline, hblank]
  rw [parted, linesWith_append, linesWith_append, hnone, List.map_nil, List.append_nil,
    List.length_append, List.length_replicate]

/-- The text of a parted file has its lines. -/
theorem lines_parted (hfront : front.all (·.all Text.isKey) = true)
    (hback : back.all (·.all Text.isKey) = true) :
    Text.lines ((parted front blanks back).flatMap (· ++ ['\n'])) = parted front blanks back := by
  refine Text.lines_flatMap_of_all ?_
  have hblanks : (List.replicate blanks ([] : Text)).all (·.all Text.isKey) = true :=
    List.all_eq_true.2 fun line hline => by rw [List.eq_of_mem_replicate hline]; rfl
  rw [parted, List.all_append, List.all_append, hfront, hblanks, hback]
  rfl

end Parted

end Manifest

end WorkflowNav
