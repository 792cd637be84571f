/-
Columns of an editor and places in a line.

An editor counts columns in UTF-16 units. Edits need the number of characters before a column, and
the token at the cursor needs the number of bytes. Each of the two numbers is counted by a function
of its own (`charOffset`, `byteOffset`), and nothing but their texts keeps them in step.

That they are in step is one induction (`byteOffset_eq`), and then only the characters matter. A
column may lie inside a surrogate pair or past the end, where no number of characters is right. What
is found there is still fixed: the first place at or after the column, or the end of the line. So
the order of columns is kept, no character is ever cut in two, and a column that does lie between
two characters is found exactly.
-/
import Mathlib.Order.Bounds.Defs
import Mathlib.Order.Monotone.Defs
import WorkflowNav.Proofs.Splice
import WorkflowNav.Proofs.Token
import WorkflowNav.Text.Utf8

set_option autoImplicit false

namespace WorkflowNav.Text

/-! ## Widths and bytes of leading characters -/

theorem units_pos (c : Char) : 0 < units c := by
  unfold units
  split
  · exact Nat.zero_lt_one
  · exact Nat.zero_lt_two

theorem byteSize_le_of_isPrefix {front line : Text} (h : front <+: line) :
    byteSize front ≤ byteSize line := by
  obtain ⟨back, rfl⟩ := h
  rw [byteSize_append]
  exact Nat.le_add_right _ _

/-- The bytes that are counted are those that are written. -/
theorem length_encode (text : Text) : (encode text).length = byteSize text := by
  induction text with
  | nil => rfl
  | cons c rest ih =>
    rw [encode] at ih
    rw [encode, List.flatMap_cons, List.length_append, String.length_utf8EncodeChar, ih, byteSize]

/-- The bytes of leading characters are the leading bytes. -/
theorem take_encode (line : Text) (k : Nat) :
    (encode line).take (byteSize (line.take k)) = encode (line.take k) := by
  have hsplit : encode line = encode (line.take k) ++ encode (line.drop k) := by
    rw [encode, encode, encode, ← List.flatMap_append, List.take_append_drop]
  rw [hsplit]
  exact List.take_left' (length_encode _)

/-! ## Characters before a column -/

section Characters

variable {line : Text} {column k : Nat}

/-- A column that the line reaches is reached by the characters before it. -/
theorem le_width_take_charOffset (h : column ≤ width line) :
    column ≤ width (line.take (charOffset line column)) := by
  fun_induction charOffset line column with
  | case1 column =>
    rw [List.take_nil]
    exact h
  | case2 => exact Nat.zero_le _
  | case3 c rest column ih =>
    rw [width] at h
    have hrest := ih (by omega)
    rw [List.take_succ_cons, width]
    omega

/-- No smaller number of characters reaches the column. -/
theorem charOffset_le_of_le_width_take (h : column ≤ width (line.take k)) :
    charOffset line column ≤ k := by
  fun_induction charOffset line column generalizing k with
  | case1 => exact Nat.zero_le _
  | case2 => exact Nat.zero_le _
  | case3 c rest column ih =>
    cases k with
    | zero => exact absurd h (Nat.not_succ_le_zero column)
    | succ k =>
      rw [List.take_succ_cons, width] at h
      apply Nat.succ_le_succ
      apply ih
      omega

theorem isLeast_charOffset (h : column ≤ width line) :
    IsLeast {k | column ≤ width (line.take k)} (charOffset line column) :=
  ⟨le_width_take_charOffset h, fun _ hk => charOffset_le_of_le_width_take hk⟩

theorem charOffset_of_width_lt (h : width line < column) :
    charOffset line column = line.length := by
  fun_induction charOffset line column with
  | case1 => rfl
  | case2 => exact absurd h (Nat.not_lt_zero _)
  | case3 c rest column ih =>
    rw [width] at h
    rw [ih (by omega), List.length_cons]

/-- The column after leading characters is found to be after them. -/
theorem charOffset_width_append (front back : Text) :
    charOffset (front ++ back) (width front) = front.length := by
  induction front with
  | nil => exact charOffset_zero back
  | cons c front ih =>
    -- a character is at least one unit wide, so the column is not the first
    have hpos := units_pos c
    obtain ⟨column, hcolumn⟩ : ∃ column, units c + width front = column + 1 :=
      ⟨units c + width front - 1, by omega⟩
    rw [List.cons_append, width, hcolumn, charOffset, ← hcolumn, Nat.add_sub_cancel_left, ih,
      List.length_cons]

end Characters

/-! ## Bytes before a column -/

/-- **The two counts are in step.** The bytes before a column are the bytes of the characters before
it. -/
theorem byteOffset_eq (line : Text) (column : Nat) :
    byteOffset line column = byteSize (line.take (charOffset line column)) := by
  fun_induction charOffset line column with
  | case1 column =>
    rw [byteOffset, List.take_nil, byteSize]
  | case2 c rest =>
    rw [byteOffset, List.take_zero, byteSize]
  | case3 c rest column ih =>
    rw [byteOffset, ih, List.take_succ_cons, byteSize]

theorem byteOffset_mono (line : Text) {one two : Nat} (h : one ≤ two) :
    byteOffset line one ≤ byteOffset line two := by
  rw [byteOffset_eq, byteOffset_eq]
  apply byteSize_le_of_isPrefix
  exact List.take_prefix_take_left (charOffset_mono line h)

/-! ## Both conversions -/

/-- Two ways to convert the columns of a line, to characters and to bytes, that belong together. -/
structure Converts (line : Text) (chars bytes : Nat → Nat) : Prop where
  /-- The least number of leading characters that reaches the column, if the line reaches it. -/
  least : ∀ column, column ≤ width line →
    IsLeast {k | column ≤ width (line.take k)} (chars column)
  /-- A column past the line is its end. -/
  past_end : ∀ column, width line < column → chars column = line.length
  /-- The bytes are those of the same characters. -/
  in_step : ∀ column, bytes column = byteSize (line.take (chars column))
  /-- The bytes end within the line and between two characters. -/
  boundary : ∀ column, bytes column ≤ (encode line).length
    ∧ (encode line).take (bytes column) = encode (line.take (chars column))
  chars_mono : Monotone chars
  bytes_mono : Monotone bytes
  /-- The column after leading characters is converted back to them. -/
  inverse : ∀ front, front <+: line →
    line.take (chars (width front)) = front ∧ chars (width front) = front.length
      ∧ bytes (width front) = byteSize front

/-- **Columns are converted in step and exactly.** For every line, the characters and the bytes
before a column are counted to the same place: the first between two characters that is not before
the column, or the end. Later columns are not found earlier, and a column that lies between two
characters is found there. -/
theorem columns_convert (line : Text) : Converts line (charOffset line) (byteOffset line) where
  least := fun _ => isLeast_charOffset
  past_end := fun _ => charOffset_of_width_lt
  in_step := byteOffset_eq line
  boundary := by
    intro column
    have hfront : line.take (charOffset line column) <+: line := List.take_prefix _ _
    rw [byteOffset_eq, length_encode]
    exact ⟨byteSize_le_of_isPrefix hfront, take_encode _ _⟩
  chars_mono := fun _ _ => charOffset_mono line
  bytes_mono := fun _ _ => byteOffset_mono line
  inverse := by
    rintro front ⟨back, rfl⟩
    rw [byteOffset_eq, charOffset_width_append, List.take_left]
    exact ⟨rfl, rfl, rfl⟩

/-- A letter of two bytes, a character of two units and four bytes, and a plain letter. -/
def exampleWide : Text := "é😀a".toList

/-- The column inside the pair is after it, as the next one is. The column after the two is found
exactly, and a column far past the end is the end. -/
theorem columns_convert_wide :
    IsLeast {k | 2 ≤ width (exampleWide.take k)} (charOffset exampleWide 2)
      ∧ byteOffset exampleWide 2 = 6
      ∧ charOffset exampleWide 3 = 2 ∧ byteOffset exampleWide 3 = 6
      ∧ (encode exampleWide).take 6 = encode "é😀".toList
      ∧ charOffset exampleWide 100 = 3 := by
  have hconverts := columns_convert exampleWide
  obtain ⟨-, hchars, hbytes⟩ := hconverts.inverse "é😀".toList ⟨"a".toList, rfl⟩
  refine ⟨hconverts.least 2 (by decide), ?_, hchars, hbytes, ?_,
    hconverts.past_end 100 (by decide)⟩
  · exact hconverts.in_step 2
  · exact (hconverts.boundary 3).2

end WorkflowNav.Text
