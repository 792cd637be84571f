/-
Edits cut where they should.

An edit names two positions, and the text between them is replaced. Three things could go wrong with
that. A position could be found outside the text, a later position could be found before an earlier
one, or a column could reach into the next row. Then characters would be cut that the edit does not
mean, or there would be no place to cut at.

None of it happens. A position is found by the start of its row and an offset in the content of the
row (`offsetIn_eq`). The content is never longer than the row, so each position stays within its
row, and rows follow one another. Order and bounds come from that alone.

An edit is carried out in steps that fail when they are given places that are not in the text, or
not in order. `applyChecked?` has these steps with their failures, and it never fails.
-/
import Mathlib.Data.Prod.Lex
import Mathlib.Order.Nat
import WorkflowNav.Proofs.Sync

set_option autoImplicit false

namespace WorkflowNav

namespace Text

/-- A later column is not nearer to the front, also inside a surrogate pair. -/
theorem charOffset_mono (text : Text) {one two : Nat} (h : one ≤ two) :
    charOffset text one ≤ charOffset text two := by
  fun_induction charOffset text one generalizing two with
  | case1 => exact Nat.zero_le _
  | case2 => exact Nat.zero_le _
  | case3 c rest column ih =>
    obtain ⟨later, rfl⟩ : ∃ later, two = later + 1 := ⟨two - 1, by omega⟩
    rw [charOffset]
    apply Nat.succ_le_succ
    apply ih
    omega

end Text

namespace Document

/-! ## Rows and the positions in them -/

/-- The number of characters before a row, or all of them if there is no such row. -/
def rowStart (rows : List Text) (n : Nat) : Nat := (rows.take n).flatten.length

section Rows

variable {rows : List Text} {row : Text} {n : Nat}

theorem rowStart_cons_succ (row : Text) (rows : List Text) (n : Nat) :
    rowStart (row :: rows) (n + 1) = row.length + rowStart rows n := by
  rw [rowStart, List.take_succ_cons, List.flatten_cons, List.length_append, rowStart]

theorem offsetIn_cons_succ (row : Text) (rows : List Text) (n column : Nat) :
    offsetIn (row :: rows) ⟨n + 1, column⟩ = row.length + offsetIn rows ⟨n, column⟩ := rfl

theorem rowStart_mono (rows : List Text) {one two : Nat} (h : one ≤ two) :
    rowStart rows one ≤ rowStart rows two := by
  obtain ⟨more, rfl⟩ := Nat.exists_eq_add_of_le h
  rw [rowStart, rowStart, List.take_add, List.flatten_append, List.length_append]
  exact Nat.le_add_right _ _

theorem rowStart_of_length_le (h : rows.length ≤ n) : rowStart rows n = rows.flatten.length := by
  rw [rowStart, List.take_of_length_le h]

/-- A row ends where the next one starts. -/
theorem rowStart_succ (h : rows[n]? = some row) :
    rowStart rows (n + 1) = rowStart rows n + row.length := by
  rw [rowStart, List.take_add_one, h, Option.toList_some, List.flatten_append,
    List.flatten_singleton, List.length_append, rowStart]

/-- **Where a position is.** It is as far from the start of its row as its column is in the content
of the row. -/
theorem offsetIn_eq (h : rows[n]? = some row) (column : Nat) :
    offsetIn rows ⟨n, column⟩ = rowStart rows n + Text.charOffset (Text.rowContent row) column := by
  induction rows generalizing n with
  | nil => exact absurd h (by simp)
  | cons first rows ih =>
    cases n with
    | zero =>
      obtain rfl : first = row := by simpa using h
      rw [offsetIn, rowStart, List.take_zero, List.flatten_nil, List.length_nil, Nat.zero_add]
    | succ n =>
      rw [List.getElem?_cons_succ] at h
      rw [offsetIn_cons_succ, rowStart_cons_succ, ih h, Nat.add_assoc]

theorem offsetIn_of_length_le (h : rows.length ≤ n) (column : Nat) :
    offsetIn rows ⟨n, column⟩ = rows.flatten.length := by
  induction rows generalizing n with
  | nil => rfl
  | cons first rows ih =>
    rw [List.length_cons] at h
    obtain ⟨n, rfl⟩ : ∃ m, n = m + 1 := ⟨n - 1, by omega⟩
    rw [offsetIn_cons_succ, ih (Nat.le_of_succ_le_succ h), List.flatten_cons, List.length_append]

/-- A position does not leave its row. -/
theorem offsetIn_within_row (rows : List Text) (n column : Nat) :
    rowStart rows n ≤ offsetIn rows ⟨n, column⟩
      ∧ offsetIn rows ⟨n, column⟩ ≤ rowStart rows (n + 1) := by
  cases hrow : rows[n]? with
  | none =>
    -- past the end all three are the end
    have hlength : rows.length ≤ n := List.getElem?_eq_none_iff.1 hrow
    rw [offsetIn_of_length_le hlength, rowStart_of_length_le hlength,
      rowStart_of_length_le (Nat.le_succ_of_le hlength)]
    exact ⟨Nat.le_refl _, Nat.le_refl _⟩
  | some row =>
    have hcolumn := Text.charOffset_le (Text.rowContent row) column
    have hcontent := Text.length_rowContent_le row
    rw [offsetIn_eq hrow, rowStart_succ hrow]
    exact ⟨Nat.le_add_right _ _, by omega⟩

theorem offsetIn_mono_column (rows : List Text) (n : Nat) {one two : Nat} (h : one ≤ two) :
    offsetIn rows ⟨n, one⟩ ≤ offsetIn rows ⟨n, two⟩ := by
  cases hrow : rows[n]? with
  | none =>
    have hlength : rows.length ≤ n := List.getElem?_eq_none_iff.1 hrow
    rw [offsetIn_of_length_le hlength, offsetIn_of_length_le hlength]
  | some row =>
    rw [offsetIn_eq hrow, offsetIn_eq hrow]
    exact Nat.add_le_add_left (Text.charOffset_mono _ h) _

end Rows

/-! ## Positions in order -/

/-- Positions in the order of reading: by rows, and by columns in a row. -/
def order (position : Position) : ℕ ×ₗ ℕ := toLex (position.row, position.column)

/-- A later position is not found before an earlier one. -/
theorem offset_mono (text : Text) {one two : Position} (h : order one ≤ order two) :
    offset text one ≤ offset text two := by
  obtain ⟨n, early⟩ := one
  obtain ⟨m, late⟩ := two
  rw [order, order, Prod.Lex.toLex_le_toLex] at h
  rcases h with hrow | ⟨hrow, hcolumn⟩
  · -- the start of the later row comes in between
    calc offset text ⟨n, early⟩
        ≤ rowStart (Text.rows text) (n + 1) := (offsetIn_within_row _ _ _).2
      _ ≤ rowStart (Text.rows text) m := rowStart_mono _ hrow
      _ ≤ offset text ⟨m, late⟩ := (offsetIn_within_row _ _ _).1
  · obtain rfl : n = m := hrow
    exact offsetIn_mono_column _ _ hcolumn

theorem offset_of_length_le {text : Text} {position : Position}
    (h : (Text.rows text).length ≤ position.row) : offset text position = text.length := by
  rw [offset, offsetIn_of_length_le h, Text.flatten_rows]

/-! ## The steps of an edit, with their failures -/

/-- The start of a row; none if there are not so many rows. -/
def rowStart? (text : Text) (n : Nat) : Option Nat :=
  if n ≤ (Text.rows text).length then some (rowStart (Text.rows text) n) else none

/-- The characters before a position, by the start of its row. -/
def offsetChecked? (text : Text) (position : Position) : Option Nat :=
  match (Text.rows text)[position.row]? with
  | some row => (rowStart? text position.row).map
      (· + Text.charOffset (Text.rowContent row) position.column)
  | none => some text.length

/-- A text without the characters between two places; none if one of them is not in the text, or if
they are not in order. -/
def remove? (text : Text) (start stop : Nat) : Option Text :=
  if start ≤ stop ∧ stop ≤ text.length then some (text.take start ++ text.drop stop) else none

/-- A text with another put in at a place; none if the place is not in the text. -/
def insert? (text : Text) (place : Nat) (new : Text) : Option Text :=
  if place ≤ text.length then some (text.take place ++ (new ++ text.drop place)) else none

/-- The document after a range is replaced, step by step; none if a step fails. -/
def applyChecked? (document : Document) (range : Range) (new : Text) : Option Document := do
  let start ← offsetChecked? document.text range.start
  let stop ← offsetChecked? document.text range.stop
  let removed ← remove? document.text start (max stop start)
  let inserted ← insert? removed start new
  return { document with text := inserted }

section Steps

variable {text new : Text}

/-- A position is always found. -/
theorem offsetChecked?_eq (text : Text) (position : Position) :
    offsetChecked? text position = some (offset text position) := by
  rw [offsetChecked?]
  split
  · next row hrow =>
    have hlt := (List.getElem?_eq_some_iff.1 hrow).1
    rw [rowStart?, if_pos (Nat.le_of_lt hlt), Option.map_some, offset, offsetIn_eq hrow]
  · next hrow => rw [offset_of_length_le (List.getElem?_eq_none_iff.1 hrow)]

/-- Taking out and putting in again is replacing. -/
theorem remove?_bind_insert? {start stop : Nat} (hle : start ≤ stop) (hstop : stop ≤ text.length) :
    (remove? text start stop).bind (insert? · start new)
      = some (text.take start ++ new ++ text.drop stop) := by
  have hlength : (text.take start).length = start := List.length_take_of_le (by omega)
  have hplace : start ≤ (text.take start ++ text.drop stop).length := by
    rw [List.length_append, hlength]
    exact Nat.le_add_right _ _
  rw [remove?, if_pos ⟨hle, hstop⟩, Option.bind_some, insert?, if_pos hplace,
    List.take_left' hlength, List.drop_left' hlength, List.append_assoc]

/-- No step fails. -/
theorem applyChecked?_eq (document : Document) (range : Range) (new : Text) :
    applyChecked? document range new = some (document.apply ⟨some range, new⟩) := by
  obtain ⟨text, version⟩ := document
  have hstart := offset_le text range.start
  have hstop := offset_le text range.stop
  -- the end that is cut at is the later of two places in the text, and not before the start
  have hle := Nat.le_max_left (offset text range.start) (offset text range.stop)
  have hreplaced : (remove? text _ _).bind (insert? · _ new) = some _ :=
    remove?_bind_insert? hle (Nat.max_le.2 ⟨hstart, hstop⟩)
  obtain ⟨removed, hremoved, hinserted⟩ := Option.bind_eq_some_iff.1 hreplaced
  rw [Nat.max_comm] at hremoved
  rw [applyChecked?, offsetChecked?_eq, offsetChecked?_eq]
  simp only [Option.bind_eq_bind, Option.bind_some, hremoved, hinserted]
  rfl

end Steps

/-! ## Edits are splices -/

/-- A way to find positions in a text that keeps to the text, to its rows and to their order. -/
structure KeepsOrder (text : Text) (place : Position → Nat) : Prop where
  le_length : ∀ position, place position ≤ text.length
  mono : ∀ one two, order one ≤ order two → place one ≤ place two
  /-- A row past the last one is the end of the text. -/
  past_end : ∀ position, (Text.rows text).length ≤ position.row → place position = text.length
  /-- A position is not before its row, and not beyond the start of the next. -/
  within_row : ∀ position, rowStart (Text.rows text) position.row ≤ place position
    ∧ place position ≤ rowStart (Text.rows text) (position.row + 1)

theorem keepsOrder_offset (text : Text) : KeepsOrder text (offset text) where
  le_length := offset_le text
  mono := fun _ _ => offset_mono text
  past_end := fun _ => offset_of_length_le
  within_row := fun position => offsetIn_within_row _ position.row position.column

/-- **Edits are splices at places in order.** Positions are found in the text, in their rows and in
their order. So an edit of a range never fails: with `s` the place of its start, and `e` the place
of its end or `s` if that is later, the characters between the two are replaced, and all others and
the version stay. Only a range whose end comes before its start needs `s` in place of its end. -/
theorem edits_are_splices (text : Text) :
    KeepsOrder text (offset text)
    ∧ ∀ (version : Option Int) (range : Range) (new : Text) (s e : Nat),
      s = offset text range.start → e = max s (offset text range.stop) →
        applyChecked? ⟨text, version⟩ range new
          = some ⟨text.take s ++ new ++ text.drop e, version⟩
        ∧ apply ⟨text, version⟩ ⟨some range, new⟩ = ⟨text.take s ++ new ++ text.drop e, version⟩
        ∧ (e ≠ offset text range.stop → order range.stop < order range.start) := by
  refine ⟨keepsOrder_offset text, ?_⟩
  rintro version range new s e rfl rfl
  refine ⟨applyChecked?_eq _ range new, rfl, ?_⟩
  intro hne
  by_contra hnot
  -- positions in order are found in order, so the end itself is the later one
  have hle := offset_mono text (not_lt.1 hnot)
  exact hne (Nat.max_eq_right hle)

/-- A character of two units, and a row that ends with two. -/
def exampleText : Text := "a😀\r\nb".toList

/-- A column inside the pair is after it. A range from the second row back to that column is empty,
so that nothing is cut. -/
theorem edits_are_splices_backwards :
    order ⟨0, 2⟩ ≤ order ⟨1, 0⟩
      ∧ offset exampleText ⟨0, 2⟩ = 2
      ∧ offset exampleText ⟨0, 2⟩ ≤ offset exampleText ⟨1, 0⟩
      ∧ offset exampleText ⟨7, 3⟩ = 5
      ∧ applyChecked? ⟨exampleText, some 1⟩ ⟨⟨1, 0⟩, ⟨0, 2⟩⟩ "x".toList
        = some ⟨"a😀\r\nxb".toList, some 1⟩
      ∧ order ⟨0, 2⟩ < order ⟨1, 0⟩ := by
  have hle : order ⟨0, 2⟩ ≤ order ⟨1, 0⟩ := by
    rw [order, order, Prod.Lex.toLex_le_toLex]
    exact .inl Nat.zero_lt_one
  obtain ⟨hplaces, hedits⟩ := edits_are_splices exampleText
  obtain ⟨hchecked, -, hbackwards⟩ :=
    hedits (some 1) ⟨⟨1, 0⟩, ⟨0, 2⟩⟩ "x".toList 4 4 (by decide) (by decide)
  refine ⟨hle, by decide, hplaces.mono _ _ hle, hplaces.past_end ⟨7, 3⟩ (by decide), ?_, ?_⟩
  · exact hchecked
  · exact hbackwards (by decide)

end Document

end WorkflowNav
