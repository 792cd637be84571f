/-
Searches over lines, told by positions.

Every search over the lines of a manifest takes a stretch of them, goes through it and stops at the
first line that passes a test. Here each is told by positions in the whole file: where the search
stops, and that no line before it passes. Nothing after this module opens a stretch again.
-/
import Mathlib.Data.List.Basic
import WorkflowNav.Proofs.Line
import WorkflowNav.Site

set_option autoImplicit false

namespace WorkflowNav

namespace Manifest

/-! ## First positions -/

section First

variable {α : Type} {xs : List α} {lo hi i : Nat} {test : α → Bool}

/-- What stands in the stretch that is searched. -/
theorem getElem?_stretch (j : Nat) :
    ((xs.take hi).drop lo)[j]? = if lo + j < hi then xs[lo + j]? else none := by
  rw [List.getElem?_drop, List.getElem?_take]

theorem firstIn_eq_some {x : α} (hx : xs[i]? = some x) (hlo : lo ≤ i) (hhi : i < hi)
    (htest : test x = true)
    (hbefore : ∀ j y, lo ≤ j → j < i → xs[j]? = some y → test y = false) :
    firstIn xs lo hi test = some i := by
  have hfound : ((xs.take hi).drop lo).findIdx? test = some (i - lo) := by
    have hget : ((xs.take hi).drop lo)[i - lo]? = some x := by
      rw [getElem?_stretch, Nat.add_sub_cancel' hlo, if_pos hhi, hx]
    obtain ⟨hlt, hgetElem⟩ := List.getElem?_eq_some_iff.1 hget
    refine List.findIdx?_eq_some_iff_getElem.2 ⟨hlt, by rw [hgetElem, htest], ?_⟩
    intro j hj
    have hother : xs[lo + j]? = some (((xs.take hi).drop lo)[j]) := by
      rw [← List.getElem?_eq_getElem, getElem?_stretch, if_pos (by omega)]
    rw [hbefore (lo + j) _ (Nat.le_add_right _ _) (by omega) hother]
    decide
  rw [firstIn, hfound, Option.map_some, Nat.add_sub_cancel' hlo]

/-- The first position in a stretch, told by positions. -/
theorem firstIn_eq_some_iff :
    firstIn xs lo hi test = some i
      ↔ lo ≤ i ∧ i < hi ∧ (∃ x, xs[i]? = some x ∧ test x = true)
        ∧ ∀ j y, lo ≤ j → j < i → xs[j]? = some y → test y = false := by
  constructor
  · intro h
    obtain ⟨q, hfind, rfl⟩ := Option.map_eq_some_iff.1 h
    obtain ⟨hq, htest, hbefore⟩ := List.findIdx?_eq_some_iff_getElem.1 hfind
    have hstretch : ∀ q, ((xs.take hi).drop lo)[q]? = if lo + q < hi then xs[lo + q]? else none :=
      getElem?_stretch
    have hget := hstretch q
    rw [List.getElem?_eq_getElem hq] at hget
    split at hget
    · next hlt =>
      refine ⟨Nat.le_add_right _ _, hlt, ⟨_, hget.symm, htest⟩, fun j y hlo hj hy => ?_⟩
      have hother := hstretch (j - lo)
      rw [Nat.add_sub_cancel' hlo, if_pos (by omega), hy] at hother
      obtain ⟨_, rfl⟩ := List.getElem?_eq_some_iff.1 hother
      exact Bool.eq_false_iff.2 (hbefore (j - lo) (by omega))
    · exact absurd hget (by simp)
  · rintro ⟨hlo, hhi, ⟨x, hx, htest⟩, hbefore⟩
    exact firstIn_eq_some hx hlo hhi htest hbefore

theorem firstIn_eq_none (h : ∀ j y, lo ≤ j → xs[j]? = some y → test y = false) :
    firstIn xs lo hi test = none := by
  rw [firstIn, Option.map_eq_none_iff, List.findIdx?_eq_none_iff]
  intro y hy
  obtain ⟨j, hj⟩ := List.getElem?_of_mem hy
  rw [getElem?_stretch] at hj
  split at hj
  · exact h (lo + j) y (Nat.le_add_right _ _) hj
  · exact absurd hj (by simp)

end First

theorem getElem?_adjacent {lines : List Text} {i : Nat} {previous line : Text} :
    (adjacent lines)[i]? = some (previous, line)
      ↔ lines[i]? = some previous ∧ lines[i + 1]? = some line := by
  rw [adjacent, List.getElem?_zip_eq_some, List.getElem?_tail]

theorem mem_linesWith {marker : Text} {lines : List Text} {i : Nat} :
    i ∈ linesWith marker lines ↔ ∃ line, lines[i]? = some line ∧ Text.has marker line = true := by
  unfold linesWith
  rw [List.mem_filterMap]
  constructor
  · rintro ⟨⟨line, j⟩, hmem, hsome⟩
    dsimp only at hsome
    split at hsome
    · next hhas =>
      obtain rfl : j = i := by simpa using hsome
      exact ⟨line, List.mem_zipIdx_iff_getElem?.1 hmem, hhas⟩
    · exact absurd hsome (by simp)
  · rintro ⟨line, hline, hhas⟩
    exact ⟨(line, i), List.mem_zipIdx_iff_getElem?.2 hline, by simp [hhas]⟩

theorem pairwise_linesWith (marker : Text) (lines : List Text) :
    (linesWith marker lines).Pairwise (· < ·) := by
  unfold linesWith
  rw [List.pairwise_filterMap]
  have hidx : lines.zipIdx.Pairwise fun a b => a.2 < b.2 := by
    rw [← List.pairwise_map, List.zipIdx_map_snd]
    exact List.pairwise_lt_range'
  refine hidx.imp fun {a b} hab i hi j hj => ?_
  obtain ⟨-, rfl⟩ : Text.has marker a.1 = true ∧ a.2 = i := by simpa using hi
  obtain ⟨-, rfl⟩ : Text.has marker b.1 = true ∧ b.2 = j := by simpa using hj
  exact hab

/-- The lines with a marker are any positions in order that have it and leave none out. -/
theorem linesWith_eq {marker : Text} {lines : List Text} {positions : List Nat}
    (hpairwise : positions.Pairwise (· < ·))
    (hmem : ∀ i, i ∈ positions ↔ ∃ line, lines[i]? = some line ∧ Text.has marker line = true) :
    linesWith marker lines = positions := by
  -- two lists that rise and have the same elements are the same
  have hnodup : ∀ {l : List Nat}, l.Pairwise (· < ·) → l.Nodup := fun h => h.imp Nat.ne_of_lt
  have hperm : (linesWith marker lines).Perm positions :=
    (List.perm_ext_iff_of_nodup (hnodup (pairwise_linesWith _ _)) (hnodup hpairwise)).2 fun i => by
      rw [mem_linesWith, hmem]
  have hasymm : ∀ i j : Nat, i < j → j < i → i = j := fun i j hij hji =>
    absurd hji (Nat.lt_asymm hij)
  exact hperm.eq_of_pairwise (fun i j _ _ => hasymm i j) (pairwise_linesWith _ _) hpairwise

theorem linesWith_eq_nil {marker : Text} {lines : List Text}
    (h : ∀ line ∈ lines, Text.has marker line = false) : linesWith marker lines = [] := by
  refine List.eq_nil_iff_forall_not_mem.2 fun i hi => ?_
  obtain ⟨line, hline, hhas⟩ := mem_linesWith.1 hi
  rw [h line (List.mem_of_getElem? hline)] at hhas
  exact absurd hhas (by decide)

theorem linesWith_append (marker : Text) (front back : List Text) :
    linesWith marker (front ++ back)
      = linesWith marker front ++ (linesWith marker back).map (front.length + ·) := by
  unfold linesWith
  rw [List.zipIdx_append, List.filterMap_append, Nat.zero_add,
    List.zipIdx_eq_map_add (i := front.length), List.filterMap_map, List.map_filterMap]
  congr 1
  apply List.filterMap_congr
  rintro ⟨line, i⟩ -
  by_cases hhas : Text.has marker line = true
  · simp [hhas]
  · simp [hhas]

/-! ## Reference blocks -/

/-- A `templateRef:` whose next two lines are a name and a template names these two. -/
theorem refPositions_eq {lines : List Text} {refLine n t : Nat}
    {nameLine templateLine owner template : Text} (hn : n = refLine + 1) (ht : t = refLine + 2)
    (hname : lines[n]? = some nameLine) (htemplate : lines[t]? = some templateLine)
    (hnot : Text.has Marker.template nameLine = false) (howner : name? nameLine = some owner)
    (hitem : isNewItem templateLine = false) (hvalue : template? templateLine = some template) :
    refPositions lines refLine = { owner := some (owner, n), template := some (template, t) } := by
  -- the body of the block starts with these two lines: neither is a new item
  have hbody : ∃ more, refBody lines refLine = (nameLine, n) :: (templateLine, t) :: more := by
    have hdrop : lines.zipIdx.drop (refLine + 1)
        = (nameLine, n) :: (templateLine, t) :: lines.zipIdx.drop (refLine + 3) := by
      have hfirst : lines.zipIdx[refLine + 1]? = some (nameLine, n) := by simp [← hn, hname]
      have hsecond : lines.zipIdx[refLine + 2]? = some (templateLine, t) := by
        simp [← ht, htemplate]
      rw [List.drop_eq_getElem?_toList_append, hfirst, List.drop_eq_getElem?_toList_append, hsecond]
      rfl
    refine ⟨((lines.zipIdx.drop (refLine + 3)).take 8).takeWhile fun pair => !isNewItem pair.1, ?_⟩
    rw [refBody, hdrop]
    simp [refBlockLines, hitem]
  obtain ⟨more, hmore⟩ := hbody
  -- a line that has a name also has its marker
  have hhas : Text.has Marker.name nameLine = true := has_of_valueOf? howner
  have hnone : template? nameLine = none := valueOf?_eq_none hnot
  simp [refPositions, hmore, hhas, hnot, howner, hnone, hvalue]

end Manifest

namespace Site

open Manifest

/-! ## Looking up -/

theorem above_succ {lines : List Text} {i : Nat} {line : Text} (hline : lines[i]? = some line)
    (n : Nat) : above lines (i + 1) (n + 1) = line :: above lines i n := by
  have htake : lines.take (i + 1) = lines.take i ++ [line] := by
    rw [List.take_add_one, hline]
    rfl
  rw [above, htake, List.reverse_append]
  rfl

/-- Going up from a line, the nearest one that decides is found if it is within reach. -/
theorem find?_above {lines : List Text} {decides : Text → Bool} {i k n : Nat} {line : Text}
    (hline : lines[k]? = some line) (hdecides : decides line = true) (hki : k < i)
    (hreach : i ≤ k + n) (hlength : i ≤ lines.length)
    (hbetween : ∀ j other, k < j → j < i → lines[j]? = some other → decides other = false) :
    (above lines i n).find? decides = some line := by
  -- one line up at a time, down to the one that decides
  induction i generalizing n with
  | zero => exact absurd hki (Nat.not_lt_zero k)
  | succ i ih =>
    obtain ⟨n, rfl⟩ : ∃ m, n = m + 1 := ⟨n - 1, by omega⟩
    obtain rfl | hlt := Nat.eq_or_lt_of_le (Nat.le_of_lt_succ hki)
    · rw [above_succ hline, List.find?_cons_of_pos hdecides]
    · have hi : lines[i]? = some lines[i] := List.getElem?_eq_getElem hlength
      have hpass := hbetween i _ hlt (Nat.lt_succ_self i) hi
      rw [above_succ hi, List.find?_cons_of_neg (by simp [hpass])]
      exact ih hlt (by omega) (by omega)
        fun j other hkj hji => hbetween j other hkj (Nat.lt_succ_of_lt hji)

theorem mem_of_mem_above {lines : List Text} {i n : Nat} {line : Text}
    (h : line ∈ above lines i n) : line ∈ lines :=
  List.mem_of_mem_take (List.mem_reverse.1 (List.mem_of_mem_take h))

/-- No kind line, no metadata of a WorkflowTemplate. -/
theorem reachesKind_eq_false {texts : List Text} (seen : Bool)
    (h : ∀ line ∈ texts, Text.has Marker.workflowTemplate line = false) :
    reachesKind seen texts = false := by
  induction texts generalizing seen with
  | nil => rfl
  | cons line texts ih =>
    rw [reachesKind]
    split
    · rfl
    · simp only [h line List.mem_cons_self]
      exact ih _ fun other hother => h other (List.mem_cons_of_mem _ hother)

/-! ## The rules on lines that were written for them -/

theorem at?_eq {lines : List Text} {i : Nat} {line : Text} (hline : lines[i]? = some line)
    (column : Nat) :
    at? lines i column
      = (templateDefinition? lines i line <|> workflowTemplateDefinition? lines i line
        <|> templateReference? lines i line <|> workflowTemplateReference? lines i line
        <|> word? line column) := by
  rw [at?, hline]
  rfl

/-- Below the cursor, lines matter only to the two rules that look for a name there. -/
theorem at?_congr {one two : List Text} {i : Nat} (hagree : one.take (i + 1) = two.take (i + 1))
    (howner : owner? one i = owner? two i)
    (hreference : ∀ line, templateReference? one i line = templateReference? two i line)
    (column : Nat) : at? one i column = at? two i column := by
  have habove : ∀ k, k ≤ i + 1 → ∀ n, above one k n = above two k n := by
    intro k hk n
    have htake : one.take k = two.take k := by
      rw [← Nat.min_eq_left hk, ← List.take_take, hagree, List.take_take]
    rw [above, above, htake]
  have hin : inTemplates one i = inTemplates two i := by
    rw [inTemplates, inTemplates, habove (i + 1) (Nat.le_refl _)]
  have hmetadata : inMetadata one i = inMetadata two i := by
    rw [inMetadata, inMetadata, habove i (Nat.le_succ i)]
  have hnear : inReference one i = inReference two i := by
    rw [inReference, inReference, habove i (Nat.le_succ i)]
  have hline : one[i]? = two[i]? := by
    rw [← List.getElem?_take_of_lt (Nat.lt_succ_self i), hagree,
      List.getElem?_take_of_lt (Nat.lt_succ_self i)]
  have hnamed : templateReference? one i = templateReference? two i := funext hreference
  rw [at?, at?, hline, hnamed]
  unfold templateDefinition? workflowTemplateDefinition? workflowTemplateReference?
  rw [hin, hmetadata, hnear, howner]

/-- What is no list item is no entry. -/
theorem templateDefinition?_eq_none {line : Text} (hitem : itemBody? line = none)
    (lines : List Text) (i : Nat) : templateDefinition? lines i line = none := by
  rw [templateDefinition?, entryText?_eq_none hitem]
  rfl

/-- An entry below `templates:` in a WorkflowTemplate. -/
theorem templateDefinition?_eq {lines : List Text} {i : Nat} {line written owner template : Text}
    (htext : entryText? line = some written) (hin : inTemplates lines i = true)
    (howner : owner? lines i = some owner) (hname : name? line = some template) :
    templateDefinition? lines i line = some (.templateDefinition owner template) := by
  rw [templateDefinition?, htext, hin, howner, hname]
  rfl

theorem workflowTemplateDefinition?_eq_none {lines : List Text} {i : Nat}
    (hmetadata : inMetadata lines i = false) (line : Text) :
    workflowTemplateDefinition? lines i line = none := by
  rw [workflowTemplateDefinition?, hmetadata]
  rfl

/-- A line without `template:` is not the template of a reference. -/
theorem templateReference?_eq_none {line : Text} (hnot : Text.has Marker.template line = false)
    (lines : List Text) (i : Nat) : templateReference? lines i line = none := by
  have hvalue : template? line = none := valueOf?_eq_none hnot
  rw [templateReference?, hvalue]
  rfl

section Reference

variable {lines : List Text} {r i : Nat} {reference line : Text}
variable (hreference : lines[r]? = some reference)
variable (hhas : Text.has Marker.templateRef reference = true)

include hreference hhas

/-- A `template:` two lines below its `templateRef:`, with the name in between. -/
theorem templateReference?_eq {nameLine owner template : Text} (hi : i = r + 1 + 1)
    (hname : lines[r + 1]? = some nameLine) (hnoRef : Text.has Marker.templateRef nameLine = false)
    (hnot : Text.has Marker.template nameLine = false) (howner : name? nameLine = some owner)
    (hvalue : template? line = some template) :
    templateReference? lines i line = some (.templateReference owner template) := by
  subst hi
  have hup : (above lines (r + 1 + 1) templateReach).findIdx? (Text.has Marker.templateRef)
      = some 1 := by
    rw [templateReach, above_succ hname, above_succ hreference]
    simp [List.findIdx?_cons, hnoRef, hhas]
  have hdrop : lines.drop (r + 1) = nameLine :: lines.drop (r + 2) := by
    rw [List.drop_eq_getElem?_toList_append, hname]
    rfl
  simp [templateReference?, hvalue, hup, hdrop, siblingReach, hnot, howner]

/-- A `name:` right below its `templateRef:`. -/
theorem workflowTemplateReference?_eq {name : Text} (hi : i = r + 1)
    (hnot : Text.has Marker.template line = false) (hname : name? line = some name) :
    workflowTemplateReference? lines i line = some (.workflowTemplateReference name) := by
  subst hi
  have hin : inReference lines (r + 1) = true := by
    rw [inReference, nameReach, above_succ hreference]
    simp [hhas]
  rw [workflowTemplateReference?, hnot, hin, hname]
  rfl

end Reference

end Site

end WorkflowNav
