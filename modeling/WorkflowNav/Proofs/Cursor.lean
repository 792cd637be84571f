/-
The line under the cursor.

An editor tells where its cursor is by a line and a column, and counts lines by its own rule: a line
ends at a line feed, at a carriage return, or at both together. What stands under the cursor is
decided on the lines of a manifest as they are read, and reading ends a line at a line feed only. A
carriage return goes with the line feed after it, but one that stands alone is part of a line. So
after a lone carriage return all lines have other numbers than the editor's.

Nothing else goes wrong. The line at the cursor is the editor's line for every line number exactly
if no carriage return stands alone (`cursorLine?_eq_iff`), except that reading has no line after a
final line feed. That line is empty and no rule looks for an empty line, so without lone carriage
returns the rules say what they say of the editor's own lines.
-/
import WorkflowNav.Proofs.Block
import WorkflowNav.Proofs.Sync

set_option autoImplicit false

namespace WorkflowNav

/-! ## The lines of an editor -/

/-- The lines of a text as an editor counts them, without their ends. After the last end there is
one more line. -/
def Editor.lines : Text → List Text
  | [] => [[]]
  | '\r' :: '\n' :: rest => [] :: lines rest
  | c :: rest => if isEnd c then [] :: lines rest else Text.consRow c (lines rest)

namespace Text

/-- Whether a carriage return has no line feed right after it. -/
def hasLoneReturn : Text → Bool
  | [] => false
  | '\r' :: '\n' :: rest => hasLoneReturn rest
  | c :: rest => c == '\r' || hasLoneReturn rest

theorem lines_crlf (rest : Text) : lines ('\r' :: '\n' :: rest) = [] :: lines rest := by
  rw [lines]

theorem lines_newline (rest : Text) : lines ('\n' :: rest) = [] :: lines rest := by
  rw [lines]

/-- In reading, what is no part of a line end goes to the front of the first line. -/
theorem lines_cons {c : Char} {rest : Text} (hnewline : c ≠ '\n')
    (hcrlf : ∀ more, c = '\r' → rest ≠ '\n' :: more) :
    lines (c :: rest) = consRow c (lines rest) := by
  rw [lines]
  · cases lines rest <;> rfl
  · exact hnewline
  · exact hcrlf

theorem hasLoneReturn_cons {c : Char} {rest : Text}
    (hcrlf : ∀ more, c = '\r' → rest ≠ '\n' :: more) :
    hasLoneReturn (c :: rest) = (c == '\r' || hasLoneReturn rest) := by
  rw [hasLoneReturn]
  exact hcrlf

theorem consRow_append {c : Char} {rows : List Text} (h : rows ≠ []) (more : List Text) :
    consRow c (rows ++ more) = consRow c rows ++ more := by
  cases rows with
  | nil => exact absurd rfl h
  | cons row rows => rfl

/-- Without lone carriage returns, the editor has the lines that are read, and perhaps an empty one
after them. -/
theorem editorLines_cases {text : Text} (h : hasLoneReturn text = false) :
    Editor.lines text = lines text ∨ Editor.lines text = lines text ++ [[]] := by
  fun_induction Editor.lines text with
  | case1 => exact .inr rfl
  | case2 rest ih =>
    rw [hasLoneReturn] at h
    rw [lines_crlf]
    exact (ih h).imp (congrArg ([] :: ·)) (congrArg ([] :: ·))
  | case3 c rest hcrlf hend ih =>
    rw [hasLoneReturn_cons hcrlf, Bool.or_eq_false_iff, beq_eq_false_iff_ne] at h
    -- a line end that is no carriage return is a line feed
    obtain rfl : c = '\n' := by simpa [Editor.isEnd, h.1] using hend
    rw [lines_newline]
    exact (ih h.2).imp (congrArg ([] :: ·)) (congrArg ([] :: ·))
  | case4 c rest hcrlf hend ih =>
    rw [hasLoneReturn_cons hcrlf, Bool.or_eq_false_iff] at h
    have hnewline : c ≠ '\n' := by
      rintro rfl
      exact hend rfl
    rw [lines_cons hnewline hcrlf]
    rcases ih h.2 with heq | heq
    · left
      rw [heq]
    · rw [heq]
      by_cases hnil : lines rest = []
      · -- the empty line after the last end is where this character goes
        left
        rw [hnil]
        rfl
      · right
        exact consRow_append hnil [[]]

theorem editorLines_ne_nil (text : Text) : Editor.lines text ≠ [] := by
  fun_cases Editor.lines text with
  | case4 c rest =>
    unfold consRow
    split <;> simp
  | _ => simp

/-- A lone carriage return ends a line of the editor, and stays in the line that is read there. -/
theorem exists_line_of_hasLoneReturn {text : Text} (h : hasLoneReturn text = true) :
    ∃ n line more, (Editor.lines text)[n]? = some line ∧ n + 1 < (Editor.lines text).length
      ∧ (lines text)[n]? = some (line ++ '\r' :: more) := by
  fun_induction Editor.lines text with
  | case1 => exact absurd h (by decide)
  | case2 rest ih =>
    rw [hasLoneReturn] at h
    obtain ⟨n, line, more, hline, hlt, hread⟩ := ih h
    rw [lines_crlf]
    exact ⟨n + 1, line, more, hline, Nat.succ_lt_succ hlt, hread⟩
  | case3 c rest hcrlf hend ih =>
    rw [hasLoneReturn_cons hcrlf, Bool.or_eq_true, beq_iff_eq] at h
    by_cases hreturn : c = '\r'
    · -- this one is alone: it is the end of the editor's line and the front of the one that is read
      have hnewline : c ≠ '\n' := by
        rw [hreturn]
        decide
      have hlength := List.length_pos_iff.2 (editorLines_ne_nil rest)
      refine ⟨0, [], (lines rest).head?.getD [], rfl, Nat.succ_lt_succ hlength, ?_⟩
      rw [lines_cons hnewline hcrlf, hreturn]
      cases lines rest <;> rfl
    · obtain rfl : c = '\n' := by simpa [Editor.isEnd, hreturn] using hend
      obtain ⟨n, line, more, hline, hlt, hread⟩ := ih (h.resolve_left hreturn)
      rw [lines_newline]
      exact ⟨n + 1, line, more, hline, Nat.succ_lt_succ hlt, hread⟩
  | case4 c rest hcrlf hend ih =>
    rw [hasLoneReturn_cons hcrlf, Bool.or_eq_true, beq_iff_eq] at h
    have hnewline : c ≠ '\n' := by
      rintro rfl
      exact hend rfl
    have hreturn : c ≠ '\r' := by
      rintro rfl
      exact hend rfl
    obtain ⟨n, line, more, hline, hlt, hread⟩ := ih (h.resolve_left hreturn)
    rw [lines_cons hnewline hcrlf]
    -- both first lines get the character, and the others stay as they are
    cases hlines : lines rest with
    | nil => simp [hlines] at hread
    | cons first others =>
      cases heditor : Editor.lines rest with
      | nil => exact absurd heditor (editorLines_ne_nil rest)
      | cons row rows =>
        rw [heditor] at hline hlt
        rw [hlines] at hread
        cases n with
        | zero =>
          rw [List.getElem?_cons_zero, Option.some.injEq] at hline hread
          refine ⟨0, c :: line, more, ?_, hlt, ?_⟩
          · rw [consRow, List.getElem?_cons_zero, hline]
          · rw [consRow, List.getElem?_cons_zero, hread, List.cons_append]
        | succ n => exact ⟨n + 1, line, more, hline, hlt, hread⟩

end Text

/-! ## The rules on the lines of an editor -/

namespace Site

open Manifest

/-- The line on which it is decided what stands under the cursor. -/
def cursorLine? (text : Text) (i : Nat) : Option Text := (Text.lines text)[i]?

section Below

variable {lines : List Text} {i : Nat}

theorem above_concat (h : i ≤ lines.length) (n : Nat) :
    above (lines ++ [[]]) i n = above lines i n := by
  rw [above, above, List.take_append_of_le_length h]

/-- Nothing can be read from an empty line at the end. -/
theorem findSome?_concat {β : Type} (read : Text → Option β) (hread : read [] = none)
    (lines : List Text) (lo count : Nat) :
    (((lines ++ [[]]).drop lo).take count).findSome? read
      = ((lines.drop lo).take count).findSome? read := by
  have hnone : ((([[]] : List Text).drop (lo - lines.length)).take
      (count - (lines.drop lo).length)).findSome? read = none := by
    rw [List.findSome?_eq_none_iff]
    intro line hline
    rw [List.mem_singleton.1 (List.mem_of_mem_drop (List.mem_of_mem_take hline))]
    exact hread
  rw [List.drop_append, List.take_append, List.findSome?_append, hnone, Option.or_none]

theorem owner?_concat (lines : List Text) (i : Nat) :
    owner? (lines ++ [[]]) i = owner? lines i := by
  have hkinds : kindLines (lines ++ [[]]) = kindLines lines := by
    rw [kindLines, linesWith_append]
    exact List.append_nil _
  unfold owner?
  rw [hkinds]
  simp only [findSome?_concat name? rfl]

/-- No rule says anything of an empty line. -/
theorem at?_empty {column : Nat} (hline : lines[i]? = some []) : at? lines i column = none := by
  have hitem : itemBody? [] = none := rfl
  have hno : Text.has Marker.template [] = false := rfl
  have hdefinition : workflowTemplateDefinition? lines i [] = none := by
    rw [workflowTemplateDefinition?]
    cases inMetadata lines i <;> rfl
  have hreference : workflowTemplateReference? lines i [] = none := by
    rw [workflowTemplateReference?]
    cases inReference lines i <;> rfl
  rw [at?_eq hline, templateDefinition?_eq_none hitem, hdefinition, templateReference?_eq_none hno,
    hreference]
  rfl

/-- An empty line at the end changes nothing: no rule says anything of it, and none reads it. -/
theorem at?_concat (lines : List Text) (i column : Nat) :
    at? (lines ++ [[]]) i column = at? lines i column := by
  rcases Nat.lt_trichotomy i lines.length with hlt | rfl | hgt
  · -- below the cursor only a name can be read
    apply at?_congr
    · exact List.take_append_of_le_length hlt
    · exact owner?_concat lines i
    · intro line
      unfold templateReference?
      rw [above_concat (Nat.le_of_lt hlt)]
      simp only [findSome?_concat
        (fun line => if Text.has Marker.template line then none else name? line) rfl]
  · have hline : (lines ++ [[]])[lines.length]? = some [] := by simp
    rw [at?_empty hline, at?, List.getElem?_eq_none (Nat.le_refl _)]
    rfl
  · have hlength : (lines ++ [[]]).length = lines.length + 1 := by simp
    rw [at?, at?, List.getElem?_eq_none (by omega), List.getElem?_eq_none (by omega)]
    rfl

end Below

/-! ## The line that the editor means -/

/-- What stands under the cursor is decided on one line, with the others around it. -/
theorem ofCursor?_eq_bind (text : Text) (i column : Nat) :
    ofCursor? text i column = (cursorLine? text i).bind fun line =>
      templateDefinition? (Text.lines text) i line
        <|> workflowTemplateDefinition? (Text.lines text) i line
        <|> templateReference? (Text.lines text) i line
        <|> workflowTemplateReference? (Text.lines text) i line
        <|> word? line column := rfl

/-- Without lone carriage returns, the rules see the lines of the editor. -/
theorem ofCursor?_eq_at? {text : Text} (h : Text.hasLoneReturn text = false) (i column : Nat) :
    ofCursor? text i column = at? (Editor.lines text) i column := by
  rw [ofCursor?]
  rcases Text.editorLines_cases h with heq | heq
  · rw [heq]
  · rw [heq, at?_concat]

theorem cursorLine?_of_not_hasLoneReturn {text line : Text} {n : Nat}
    (h : Text.hasLoneReturn text = false) (hline : (Editor.lines text)[n]? = some line) :
    cursorLine? text n = some line
      ∨ (line = [] ∧ n + 1 = (Editor.lines text).length) := by
  rw [cursorLine?]
  rcases Text.editorLines_cases h with heq | heq
  · rw [heq] at hline
    exact .inl hline
  · rw [heq] at hline ⊢
    by_cases hlt : n < (Text.lines text).length
    · rw [List.getElem?_append_left hlt] at hline
      exact .inl hline
    · right
      rw [List.getElem?_append_right (by omega), List.getElem?_singleton] at hline
      split at hline
      · next hlast =>
        rw [Option.some.injEq] at hline
        rw [List.length_append, List.length_singleton]
        exact ⟨hline.symm, by omega⟩
      · exact absurd hline (by simp)

/-- **When the cursor is where the editor means.** The line on which the rules decide is the line of
the editor, for every line but an empty last one, if and only if no carriage return stands alone.
Then the rules say, at every line and column, what they say of the editor's own lines. -/
theorem cursorLine?_eq_iff (text : Text) :
    (∀ i column, ofCursor? text i column = (cursorLine? text i).bind fun line =>
        templateDefinition? (Text.lines text) i line
          <|> workflowTemplateDefinition? (Text.lines text) i line
          <|> templateReference? (Text.lines text) i line
          <|> workflowTemplateReference? (Text.lines text) i line
          <|> word? line column)
      ∧ ((∀ n line, (Editor.lines text)[n]? = some line →
          cursorLine? text n = some line ∨ (line = [] ∧ n + 1 = (Editor.lines text).length))
        ↔ Text.hasLoneReturn text = false)
      ∧ (Text.hasLoneReturn text = false →
        ∀ i column, ofCursor? text i column = at? (Editor.lines text) i column) := by
  refine ⟨ofCursor?_eq_bind text, ⟨?_, ?_⟩, ofCursor?_eq_at?⟩
  · intro hmeant
    by_contra hlone
    rw [Bool.not_eq_false] at hlone
    obtain ⟨n, line, more, hline, hlt, hread⟩ := Text.exists_line_of_hasLoneReturn hlone
    rcases hmeant n line hline with hsame | ⟨-, hlast⟩
    · -- the line that is read goes on where the editor's line has ended
      rw [cursorLine?, hread, Option.some.injEq] at hsame
      have hlength := congrArg List.length hsame
      rw [List.length_append, List.length_cons] at hlength
      omega
    · omega
  · intro hnone n line hline
    exact cursorLine?_of_not_hasLoneReturn hnone hline

/-- Carriage returns that go with line feeds do no harm, wherever they stand. -/
theorem cursorLine?_eq_iff_paired :
    let text := "kind: WorkflowTemplate\r\nmetadata:\n  name: shop\r\n".toList
    Text.hasLoneReturn text = false
      ∧ (Editor.lines text)[2]? = some "  name: shop".toList
      ∧ cursorLine? text 2 = some "  name: shop".toList
      ∧ ofCursor? text 2 0 = some (.workflowTemplateDefinition "shop".toList)
      ∧ ofCursor? text 3 0 = at? (Editor.lines text) 3 0 := by
  intro text
  obtain ⟨-, hlines, hrules⟩ := cursorLine?_eq_iff text
  have hpaired : Text.hasLoneReturn text = false := by decide
  have hline : (Editor.lines text)[2]? = some "  name: shop".toList := by decide
  have hinner : 2 + 1 ≠ (Editor.lines text).length := by decide
  refine ⟨hpaired, hline, ?_, ?_, hrules hpaired 3 0⟩
  · exact (hlines.2 hpaired 2 _ hline).resolve_right fun hlast => hinner hlast.2
  · rw [hrules hpaired]
    decide

/-- After a lone carriage return the editor is on its second line, and there is none to be read. -/
theorem cursorLine?_lone_return :
    let text := "aa\rbb\n".toList
    (Editor.lines text)[1]? = some "bb".toList
      ∧ 1 + 1 < (Editor.lines text).length
      ∧ cursorLine? text 1 = none
      ∧ ofCursor? text 1 0 = none
      ∧ at? (Editor.lines text) 1 0 = some (.word "bb".toList) := by
  decide +kernel

end Site

end WorkflowNav
