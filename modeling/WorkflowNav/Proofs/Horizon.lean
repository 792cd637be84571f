/-
How far below the cursor the rules look.

The rules mostly look upwards. Two of them look down as well. The name beside a template may stand
three lines below the cursor. The owner of an entry is named up to nineteen lines below a kind line,
and the nearest kind line may be the line of the cursor itself. So the line twenty lines below the
cursor has no say, and none after it, whatever stands there and however long the file is.

Two texts that agree up to there are both compared with what they have in common. All lemmas are
therefore about one list of lines and the same list cut off (`at?_take`), and none about two.

The column has a say in the last rule only, so a site that another rule gives is the same for the
whole line.
-/
import WorkflowNav.Proofs.Position

set_option autoImplicit false

namespace WorkflowNav.Site

open Manifest

/-! ## Lines cut off below the cursor -/

section Cut

variable {lines : List Text} {line : Text} {i n : Nat}

theorem above_take (h : i ≤ n) (count : Nat) :
    above (lines.take n) i count = above lines i count := by
  rw [above, above, List.take_take, Nat.min_eq_left h]

/-- A stretch that ends before the cut is the same. -/
theorem stretch_take {lo count : Nat} (h : lo + count ≤ n) :
    ((lines.take n).drop lo).take count = (lines.drop lo).take count := by
  rw [List.drop_take, List.take_take, Nat.min_eq_left (by omega)]

/-- The kind lines down to the cursor are the same. -/
theorem filter_kindLines_take (h : i < n) :
    (kindLines (lines.take n)).filter (· ≤ i) = (kindLines lines).filter (· ≤ i) := by
  have hsplit : kindLines lines = kindLines (lines.take n)
      ++ (kindLines (lines.drop n)).map ((lines.take n).length + ·) := by
    rw [kindLines, kindLines, kindLines, ← linesWith_append, List.take_append_drop]
  have hbelow : ((kindLines (lines.drop n)).map ((lines.take n).length + ·)).filter (· ≤ i)
      = [] := by
    rw [List.filter_eq_nil_iff]
    intro k hk
    obtain ⟨q, hq, rfl⟩ := List.mem_map.1 hk
    -- where something is cut off, all `n` lines before it are there
    obtain ⟨other, hother, -⟩ := mem_linesWith.1 hq
    have hlength := (List.getElem?_eq_some_iff.1 hother).1
    rw [List.length_drop] at hlength
    rw [decide_eq_true_eq, List.length_take_of_le (by omega)]
    omega
  rw [hsplit, List.filter_append, hbelow, List.append_nil]

theorem owner?_take (h : i + ownerReach ≤ n) : owner? (lines.take n) i = owner? lines i := by
  rw [ownerReach] at h
  unfold owner?
  rw [filter_kindLines_take (by omega)]
  apply findSome?_congr
  intro k hk
  have hki : k ≤ i := by simpa using (List.mem_filter.1 (List.mem_reverse.1 hk)).2
  rw [stretch_take (by rw [ownerReach]; omega)]

theorem templateReference?_take (h : i + siblingReach < n) :
    templateReference? (lines.take n) i line = templateReference? lines i line := by
  unfold templateReference?
  rw [above_take (by omega)]
  cases template? line with
  | none => rfl
  | some template =>
    cases hup : (above lines i templateReach).findIdx? (Text.has Marker.templateRef) with
    | none => rfl
    | some up =>
      -- the `templateRef:` is above the cursor, so the stretch ends where it ends below it
      have hui : up < i := by
        obtain ⟨hlt, -⟩ := List.findIdx?_eq_some_iff_getElem.1 hup
        rw [above, List.length_take, List.length_reverse, List.length_take] at hlt
        omega
      have hsame : ((lines.take n).drop (i - up)).take (up + 1 + siblingReach)
          = (lines.drop (i - up)).take (up + 1 + siblingReach) := stretch_take (by omega)
      simp only [Option.bind_eq_bind, Option.bind_some, hsame]

/-- **The rules look less than twenty lines down.** What stands at a line is decided on the lines up
to there. -/
theorem at?_take (h : i + 20 ≤ n) (column : Nat) :
    at? (lines.take n) i column = at? lines i column := by
  apply at?_congr
  · rw [List.take_take, Nat.min_eq_left (by omega)]
  · exact owner?_take h
  · intro line
    exact templateReference?_take (by rw [siblingReach]; omega)

end Cut

/-! ## The column -/

/-- What the rules say of a line as a whole: all but the last of them, in their order. -/
def ofLine? (lines : List Text) (i : Nat) (line : Text) : Option Site :=
  templateDefinition? lines i line
    <|> workflowTemplateDefinition? lines i line
    <|> templateReference? lines i line
    <|> workflowTemplateReference? lines i line

section Column

variable {lines : List Text} {line : Text} {i column : Nat} {site : Site}

/-- Only where no rule says anything of the line, the column is looked at. -/
theorem at?_eq_or (hline : lines[i]? = some line) (column : Nat) :
    at? lines i column = (ofLine? lines i line).or (word? line column) := by
  have hor : ∀ one two : Option Site, (one <|> two) = one.or two := by
    intro one two
    cases one <;> rfl
  rw [at?_eq hline, ofLine?]
  simp only [hor, Option.or_assoc]

theorem exists_word_of_word? (h : word? line column = some site) : ∃ name, site = word name := by
  obtain ⟨name, -, hname⟩ := Option.map_eq_some_iff.1 h
  exact ⟨name, hname.symm⟩

/-- A site that is no word is the same at every column. -/
theorem at?_of_not_word (h : at? lines i column = some site) (hword : ∀ name, site ≠ word name)
    (other : Nat) : at? lines i other = some site := by
  cases hline : lines[i]? with
  | none =>
    rw [at?, hline] at h
    exact absurd h (by simp)
  | some line =>
    rw [at?_eq_or hline] at h ⊢
    cases hwhole : ofLine? lines i line with
    | some whole =>
      rw [hwhole] at h
      exact h
    | none =>
      rw [hwhole, Option.none_or] at h
      obtain ⟨name, hname⟩ := exists_word_of_word? h
      exact absurd hname (hword name)

end Column

/-! ## Texts that agree up to the horizon -/

/-- **What stands under the cursor does not depend on later text.** Two texts whose first `i + 20`
lines are the same have the same site at line `i`, for every column. And a site that is no word is
the site of the whole line. -/
theorem ofCursor?_within_horizon (i : Nat) :
    (∀ one two : Text, (Text.lines one).take (i + 20) = (Text.lines two).take (i + 20) →
      ∀ column, ofCursor? one i column = ofCursor? two i column)
    ∧ ∀ (text : Text) (column : Nat) (site : Site), ofCursor? text i column = some site →
      (∀ name, site ≠ word name) → ∀ other, ofCursor? text i other = some site := by
  constructor
  · intro one two hagree column
    calc ofCursor? one i column
        = at? ((Text.lines one).take (i + 20)) i column := (at?_take (Nat.le_refl _) column).symm
      _ = at? ((Text.lines two).take (i + 20)) i column := by rw [hagree]
      _ = ofCursor? two i column := at?_take (Nat.le_refl _) column
  · intro text column site hsite hword other
    exact at?_of_not_word hsite hword other

/-- An entry that is its own kind line and has its owner named nineteen lines below, as far down as
a rule looks. -/
def exampleFar : List Text :=
  "- name: hi # templates: kind: WorkflowTemplate".toList
    :: (List.replicate 18 "x".toList ++ ["name: lib".toList])

/-- What is added below makes no difference, and neither does the column. -/
theorem ofCursor?_within_horizon_far :
    let one := exampleFar.flatMap (· ++ ['\n'])
    let two := (exampleFar ++ ["kind: WorkflowTemplate".toList]).flatMap (· ++ ['\n'])
    (Text.lines one).take 20 = (Text.lines two).take 20
      ∧ ofCursor? one 0 3 = some (.templateDefinition "lib".toList "hi".toList)
      ∧ ofCursor? two 0 3 = some (.templateDefinition "lib".toList "hi".toList)
      ∧ ofCursor? one 0 40 = some (.templateDefinition "lib".toList "hi".toList) := by
  intro one two
  have hone : Text.lines one = exampleFar := Text.lines_flatMap_of_all (by decide +kernel)
  have htwo : Text.lines two = exampleFar ++ ["kind: WorkflowTemplate".toList] :=
    Text.lines_flatMap_of_all (by decide +kernel)
  have hagree : (Text.lines one).take 20 = (Text.lines two).take 20 := by
    rw [hone, htwo]
    rfl
  have hsite : ofCursor? one 0 3 = some (.templateDefinition "lib".toList "hi".toList) := by
    rw [ofCursor?, hone]
    decide +kernel
  obtain ⟨hbelow, hcolumn⟩ := ofCursor?_within_horizon 0
  refine ⟨hagree, hsite, ?_, ?_⟩
  · rw [← hbelow one two hagree 3]
    exact hsite
  · exact hcolumn one 3 _ hsite (by simp) 40

-- one line less would not do
example : at? (exampleFar.take 19) 0 3 ≠ at? exampleFar 0 3 := by decide +kernel

end WorkflowNav.Site
