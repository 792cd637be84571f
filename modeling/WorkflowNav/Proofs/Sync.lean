/-
Staying in step with an editor.

An editor and a document take the same edits, each in its own text, and have to come to the same
text. An edit names positions by line and column, so both have to agree on where lines end. An
editor ends them at a line feed, at a carriage return, or at both together, and at nothing else. A
document ends a row also at the other breaks of the Unicode standard: vertical tab, form feed, next
line, line separator and paragraph separator, which are called foreign here.

So a foreign break shifts all that follows it to later rows. It does no harm only where nothing
follows it, at the very end of a text. This module proves that this is the only thing that goes
wrong: positions agree on a text exactly if no foreign break stands before its last character
(`offset_agrees_iff`), and hence texts stay in step as long as ranges are replaced in such texts
only. Any other text has an edit that takes them apart.
-/
import WorkflowNav.Workspace

set_option autoImplicit false

namespace WorkflowNav

/-! ## The editor's side -/

namespace Editor

/-- What ends a line, alone or as a carriage return and a line feed. -/
def isEnd (c : Char) : Bool := c == '\n' || c == '\r'

/-- The number of characters before a UTF-16 column of a line. A column past the line is its end;
none for a column inside a surrogate pair. -/
def columnOffset? : Text → Nat → Option Nat
  | _, 0 => some 0
  | [], _ + 1 => some 0
  | c :: rest, column + 1 =>
    if Text.units c ≤ column + 1 then
      (columnOffset? rest (column + 1 - Text.units c)).map (· + 1)
    else none

/-- The number of characters before a position; none if there is no such line or column. -/
def offset? : Text → (row column : Nat) → Option Nat
  | text, 0, column => columnOffset? (text.takeWhile (!isEnd ·)) column
  | [], _ + 1, _ => none
  | '\r' :: '\n' :: rest, row + 1, column => (offset? rest row column).map (· + 2)
  | c :: rest, row + 1, column =>
    if isEnd c then (offset? rest row column).map (· + 1)
    else (offset? rest (row + 1) column).map (· + 1)

/-- Whether a position does not come after another. -/
def atOrBefore (one two : Position) : Bool :=
  one.row < two.row || (one.row == two.row && one.column ≤ two.column)

/-- The text after an edit; none if its range is not one of the text. -/
def edit? (text : Text) (edit : Edit) : Option Text :=
  match edit.range with
  | none => some edit.text
  | some range =>
    if atOrBefore range.start range.stop then do
      let start ← offset? text range.start.row range.start.column
      let stop ← offset? text range.stop.row range.stop.column
      return text.take start ++ edit.text ++ text.drop stop
    else none

end Editor

/-! ## Texts on which both agree -/

namespace Text

/-- Breaks that end a row but no line of an editor. -/
def isForeign (c : Char) : Bool := isBreak c && !Editor.isEnd c

/-- No foreign break, except as the last character. -/
def isPlain (text : Text) : Bool := text.dropLast.all (!isForeign ·)

theorem isBreak_of_isEnd {c : Char} (h : Editor.isEnd c = true) : isBreak c = true := by
  simp only [Editor.isEnd, Bool.or_eq_true, beq_iff_eq] at h
  rcases h with rfl | rfl <;> rfl

theorem isEnd_of_isBreak {c : Char} (h : isBreak c = false) : Editor.isEnd c = false := by
  cases hend : Editor.isEnd c with
  | false => rfl
  | true => exact absurd (isBreak_of_isEnd hend) (by simp [h])

theorem rows_crlf (rest : Text) : rows ('\r' :: '\n' :: rest) = ['\r', '\n'] :: rows rest := by
  rw [rows]

theorem rows_cons {c : Char} {rest : Text} (h : ∀ more, c = '\r' → rest ≠ '\n' :: more) :
    rows (c :: rest) = if isBreak c then [c] :: rows rest else consRow c (rows rest) := by
  rw [rows]
  intro more hc hrest
  exact h more hc hrest

theorem rows_ne_nil (text : Text) : rows text ≠ [] := by
  fun_cases rows text with
  | case4 c rest =>
    unfold consRow
    split <;> simp
  | _ => simp

theorem flatten_rows (text : Text) : (rows text).flatten = text := by
  fun_induction rows text with
  | case1 => rfl
  | case2 rest ih => rw [List.flatten_cons, ih]; rfl
  | case3 c rest hcrlf hbreak ih => rw [List.flatten_cons, ih]; rfl
  | case4 c rest hcrlf hbreak ih =>
    obtain ⟨first, more, hrows⟩ := List.exists_cons_of_ne_nil (rows_ne_nil rest)
    rw [hrows] at ih ⊢
    rw [consRow, List.flatten_cons, List.cons_append, ← List.flatten_cons, ih]

theorem charOffset_le (text : Text) (column : Nat) : charOffset text column ≤ text.length := by
  fun_induction charOffset text column with
  | case1 => exact Nat.le_refl _
  | case2 => exact Nat.zero_le _
  | case3 c rest column ih => exact Nat.succ_le_succ ih

theorem charOffset_zero (text : Text) : charOffset text 0 = 0 := by
  cases text <;> rfl

theorem length_rowContent_le (row : Text) : (rowContent row).length ≤ row.length := by
  have hle := (List.dropWhile_sublist (l := row.reverse) fun c => c == '\n' || c == '\r').length_le
  rw [List.length_reverse] at hle
  rw [rowContent, List.length_reverse]
  exact hle

theorem rowContent_cons {c : Char} (h : Editor.isEnd c = false) (row : Text) :
    rowContent (c :: row) = c :: rowContent row := by
  have hc : (c == '\n' || c == '\r') = false := h
  unfold rowContent
  rw [List.reverse_cons, List.dropWhile_append]
  split
  · next hnil =>
    rw [List.isEmpty_iff] at hnil
    simp [hnil, hc]
  · simp

theorem isPlain_cons_cons (c d : Char) (rest : Text) :
    isPlain (c :: d :: rest) = (!isForeign c && isPlain (d :: rest)) := rfl

theorem isPlain_of_cons {c : Char} {rest : Text} (h : isPlain (c :: rest) = true) :
    isPlain rest = true := by
  cases rest with
  | nil => rfl
  | cons d rest =>
    rw [isPlain_cons_cons, Bool.and_eq_true] at h
    exact h.2

end Text

/-! ## Where positions are -/

namespace Document

theorem offset_first_row {text row : Text} {more : List Text} (h : Text.rows text = row :: more)
    (column : Nat) : offset text ⟨0, column⟩ = Text.charOffset (Text.rowContent row) column := by
  rw [offset, h]
  rfl

/-- After both characters of a line end, a row less is to go. -/
theorem offset_crlf (rest : Text) (row column : Nat) :
    offset ('\r' :: '\n' :: rest) ⟨row + 1, column⟩ = offset rest ⟨row, column⟩ + 2 := by
  rw [offset, Text.rows_crlf, offsetIn]
  exact Nat.add_comm _ _

/-- After a break, a row less is to go. -/
theorem offset_break {c : Char} {rest : Text} (hbreak : Text.isBreak c = true)
    (hcrlf : ∀ more, c = '\r' → rest ≠ '\n' :: more) (row column : Nat) :
    offset (c :: rest) ⟨row + 1, column⟩ = offset rest ⟨row, column⟩ + 1 := by
  rw [offset, Text.rows_cons hcrlf, if_pos hbreak, offsetIn]
  exact Nat.add_comm _ _

private theorem not_crlf {c : Char} (hbreak : Text.isBreak c = false) (rest : Text) :
    ∀ more, c = '\r' → rest ≠ '\n' :: more := by
  rintro more rfl
  exact absurd hbreak (by decide)

/-- After any other character, the same row is to be found. -/
theorem offset_content {c : Char} (hbreak : Text.isBreak c = false) (rest : Text)
    (row column : Nat) :
    offset (c :: rest) ⟨row + 1, column⟩ = offset rest ⟨row + 1, column⟩ + 1 := by
  rw [offset, offset, Text.rows_cons (not_crlf hbreak rest), if_neg (by simp [hbreak])]
  obtain ⟨first, more, hrows⟩ := List.exists_cons_of_ne_nil (Text.rows_ne_nil rest)
  rw [hrows, Text.consRow, offsetIn, offsetIn, List.length_cons]
  exact Nat.add_right_comm _ _ _

/-- In the first row, a character takes as many columns as it has units. -/
theorem offset_content_zero {c : Char} (hbreak : Text.isBreak c = false) (rest : Text)
    (column : Nat) :
    offset (c :: rest) ⟨0, column + Text.units c⟩ = offset rest ⟨0, column⟩ + 1 := by
  have hend : Editor.isEnd c = false := Text.isEnd_of_isBreak hbreak
  have hunits : ∃ n, column + Text.units c = n + 1 := by
    unfold Text.units
    split
    · exact ⟨column, rfl⟩
    · exact ⟨column + 1, rfl⟩
  obtain ⟨first, more, hrows⟩ := List.exists_cons_of_ne_nil (Text.rows_ne_nil rest)
  have hlonger : Text.rows (c :: rest) = (c :: first) :: more := by
    rw [Text.rows_cons (not_crlf hbreak rest), if_neg (by simp [hbreak]), hrows, Text.consRow]
  obtain ⟨n, hn⟩ := hunits
  rw [offset_first_row hlonger, offset_first_row hrows, Text.rowContent_cons hend, hn,
    Text.charOffset, ← hn, Nat.add_sub_cancel]

theorem offsetIn_le (rows : List Text) (position : Position) :
    offsetIn rows position ≤ rows.flatten.length := by
  fun_induction offsetIn rows position with
  | case1 => exact Nat.zero_le _
  | case2 row rest position hrow =>
    have hcontent := Text.charOffset_le (Text.rowContent row) position.column
    have hrow := Text.length_rowContent_le row
    rw [List.flatten_cons, List.length_append]
    omega
  | case3 row rest position n hrow ih =>
    rw [List.flatten_cons, List.length_append]
    exact Nat.add_le_add_left ih _

theorem offset_le (text : Text) (position : Position) : offset text position ≤ text.length := by
  have hle := offsetIn_le (Text.rows text) position
  rw [Text.flatten_rows] at hle
  exact hle

/-- The first row of a plain text has the content of its first line. -/
theorem offset_zero {text : Text} (hplain : Text.isPlain text = true) (column : Nat) :
    offset text ⟨0, column⟩ = Text.charOffset (text.takeWhile (!Editor.isEnd ·)) column := by
  have hfirst : ∃ row more, Text.rows text = row :: more
      ∧ Text.rowContent row = text.takeWhile (!Editor.isEnd ·) := by
    fun_induction Text.rows text with
    | case1 => exact ⟨[], [], rfl, rfl⟩
    | case2 rest ih => exact ⟨_, _, rfl, rfl⟩
    | case3 c rest hcrlf hbreak ih =>
      refine ⟨_, _, rfl, ?_⟩
      cases hend : Editor.isEnd c with
      | true =>
        have hc : (c == '\n' || c == '\r') = true := hend
        simp [Text.rowContent, hc, hend]
      | false =>
        -- a foreign break is the last character, and part of the content
        cases rest with
        | nil =>
          rw [Text.rowContent_cons hend]
          simp [hend, Text.rowContent]
        | cons d rest =>
          rw [Text.isPlain_cons_cons] at hplain
          simp [Text.isForeign, hbreak, hend] at hplain
    | case4 c rest hcrlf hbreak ih =>
      obtain ⟨row, more, hrows, hcontent⟩ := ih (Text.isPlain_of_cons hplain)
      have hend := Text.isEnd_of_isBreak (Bool.not_eq_true _ ▸ hbreak)
      refine ⟨c :: row, more, by rw [hrows, Text.consRow], ?_⟩
      rw [Text.rowContent_cons hend, hcontent]
      simp [hend]
  obtain ⟨row, more, hrows, hcontent⟩ := hfirst
  rw [offset_first_row hrows, hcontent]

end Document

namespace Editor

theorem charOffset_of_columnOffset? {content : Text} {column k : Nat}
    (h : columnOffset? content column = some k) : Text.charOffset content column = k := by
  fun_induction columnOffset? content column generalizing k with
  | case1 content =>
    cases content with
    | nil => simpa [Text.charOffset] using h
    | cons c rest => simpa [Text.charOffset] using h
  | case2 column => simpa [Text.charOffset] using h
  | case3 c rest column hfits ih =>
    obtain ⟨j, hj, rfl⟩ := Option.map_eq_some_iff.1 h
    rw [Text.charOffset, ih hj]
  | case4 => simp at h

/-- On a plain text, a document finds every position of the editor where the editor does. -/
theorem offset_eq_of_isPlain {text : Text} (hplain : Text.isPlain text = true) {row column k : Nat}
    (h : offset? text row column = some k) : Document.offset text ⟨row, column⟩ = k := by
  fun_induction offset? text row column generalizing k with
  | case1 text column =>
    rw [Document.offset_zero hplain]
    exact charOffset_of_columnOffset? h
  | case2 => simp at h
  | case3 rest row column ih =>
    obtain ⟨j, hj, rfl⟩ := Option.map_eq_some_iff.1 h
    rw [Document.offset_crlf, ih (Text.isPlain_of_cons (Text.isPlain_of_cons hplain)) hj]
  | case4 c rest row column hcrlf hend ih =>
    obtain ⟨j, hj, rfl⟩ := Option.map_eq_some_iff.1 h
    rw [Document.offset_break (Text.isBreak_of_isEnd hend) hcrlf,
      ih (Text.isPlain_of_cons hplain) hj]
  | case5 c rest row column hcrlf hend ih =>
    obtain ⟨j, hj, rfl⟩ := Option.map_eq_some_iff.1 h
    cases hbreak : Text.isBreak c with
    | false => rw [Document.offset_content hbreak, ih (Text.isPlain_of_cons hplain) hj]
    | true =>
      cases rest with
      | nil => simp [offset?] at hj
      | cons d rest =>
        rw [Text.isPlain_cons_cons] at hplain
        simp [Text.isForeign, hbreak, hend] at hplain

/-! ## Where they are not -/

/-- A column past a character, in units from that character on. -/
theorem columnOffset?_add (c : Char) (rest : Text) (column : Nat) :
    columnOffset? (c :: rest) (column + Text.units c)
      = (columnOffset? rest column).map (· + 1) := by
  have hpos : 0 < Text.units c := by
    unfold Text.units
    split <;> decide
  obtain ⟨n, hn⟩ : ∃ n, column + Text.units c = n + 1 :=
    ⟨column + Text.units c - 1, by omega⟩
  rw [hn, columnOffset?, ← hn, if_pos (Nat.le_add_left _ _), Nat.add_sub_cancel]

theorem columnOffset?_zero (content : Text) : columnOffset? content 0 = some 0 := by
  cases content <;> rfl

/-- The first position of the next line is past the break that ends this one. -/
theorem exists_offset?_next_line {c : Char} (hend : isEnd c = true) (rest : Text) :
    ∃ k, offset? (c :: rest) 1 0 = some (k + 1) := by
  by_cases hcrlf : ∃ more, c = '\r' ∧ rest = '\n' :: more
  · obtain ⟨more, rfl, rfl⟩ := hcrlf
    exact ⟨1, by rw [offset?, offset?, columnOffset?_zero]; rfl⟩
  · refine ⟨0, ?_⟩
    rw [offset?, if_pos hend, offset?, columnOffset?_zero]
    · rfl
    · exact fun more hc hrest => hcrlf ⟨more, hc, hrest⟩

/-- A foreign break with something after it puts a position of the editor elsewhere. -/
theorem exists_offset_ne_of_foreign {c : Char} (hforeign : Text.isForeign c = true) (d : Char)
    (rest : Text) : ∃ row column k, offset? (c :: d :: rest) row column = some k
      ∧ Document.offset (c :: d :: rest) ⟨row, column⟩ ≠ k := by
  obtain ⟨hbreak, hend⟩ : Text.isBreak c = true ∧ isEnd c = false := by
    simpa [Text.isForeign] using hforeign
  have hcrlf : ∀ more, c = '\r' → d :: rest ≠ '\n' :: more := by
    rintro more rfl
    exact absurd hend (by decide)
  cases hd : isEnd d with
  | true =>
    -- the editor's next line starts after `d`, the next row at `d`
    obtain ⟨k, hk⟩ := exists_offset?_next_line hd rest
    refine ⟨1, 0, k + 2, ?_, ?_⟩
    · rw [offset?, hk]
      · simp [hend]
      · exact hcrlf
    · obtain ⟨first, more, hrows⟩ := List.exists_cons_of_ne_nil (Text.rows_ne_nil (d :: rest))
      rw [Document.offset_break hbreak hcrlf, Document.offset_first_row hrows,
        Text.charOffset_zero]
      omega
  | false =>
    -- the line goes on after `c`, the row does not
    refine ⟨0, 0 + Text.units d + Text.units c, 2, ?_, ?_⟩
    · rw [offset?, List.takeWhile_cons_of_pos (by simp [hend]),
        List.takeWhile_cons_of_pos (by simp [hd]), columnOffset?_add, columnOffset?_add,
        columnOffset?_zero]
      rfl
    · have hrows : Text.rows (c :: d :: rest) = [c] :: Text.rows (d :: rest) := by
        rw [Text.rows_cons hcrlf, if_pos hbreak]
      have hrow : Text.rowContent [c] = [c] := by
        rw [Text.rowContent_cons hend]
        rfl
      have hle := Text.charOffset_le [c] (0 + Text.units d + Text.units c)
      rw [List.length_singleton] at hle
      rw [Document.offset_first_row hrows, hrow]
      omega

/-- On a text that is not plain, some position of the editor is elsewhere in the document. -/
theorem exists_offset_ne {text : Text} (hplain : Text.isPlain text = false) :
    ∃ row column k, offset? text row column = some k
      ∧ Document.offset text ⟨row, column⟩ ≠ k := by
  fun_induction Text.rows text with
  | case1 => exact absurd hplain (by decide)
  | case2 rest ih =>
    have hrest : Text.isPlain rest = false := by
      cases rest with
      | nil => exact absurd hplain (by decide)
      | cons d rest => exact hplain
    obtain ⟨row, column, k, hk, hne⟩ := ih hrest
    refine ⟨row + 1, column, k + 2, by rw [offset?, hk]; rfl, ?_⟩
    rw [Document.offset_crlf]
    omega
  | case3 c rest hcrlf hbreak ih =>
    cases rest with
    | nil => exact absurd hplain (by simp [Text.isPlain])
    | cons d rest =>
      cases hend : isEnd c with
      | false => exact exists_offset_ne_of_foreign (by simp [Text.isForeign, hbreak, hend]) d rest
      | true =>
        have hrest : Text.isPlain (d :: rest) = false := by
          simpa [Text.isPlain_cons_cons, Text.isForeign, hend] using hplain
        obtain ⟨row, column, k, hk, hne⟩ := ih hrest
        refine ⟨row + 1, column, k + 1, ?_, ?_⟩
        · rw [offset?, if_pos hend, hk]
          · rfl
          · exact hcrlf
        · rw [Document.offset_break hbreak hcrlf]
          omega
  | case4 c rest hcrlf hbreak ih =>
    have hbreak : Text.isBreak c = false := by simpa using hbreak
    have hend := Text.isEnd_of_isBreak hbreak
    have hrest : Text.isPlain rest = false := by
      cases rest with
      | nil => exact absurd hplain (by simp [Text.isPlain])
      | cons d rest => simpa [Text.isPlain_cons_cons, Text.isForeign, hbreak] using hplain
    obtain ⟨row, column, k, hk, hne⟩ := ih hrest
    cases row with
    | zero =>
      refine ⟨0, column + Text.units c, k + 1, ?_, ?_⟩
      · rw [offset?] at hk
        rw [offset?, List.takeWhile_cons_of_pos (by simp [hend]), columnOffset?_add, hk]
        rfl
      · rw [Document.offset_content_zero hbreak]
        omega
    | succ row =>
      refine ⟨row + 1, column, k + 1, ?_, ?_⟩
      · rw [offset?, if_neg (by simp [hend]), hk]
        · rfl
        · exact hcrlf
      · rw [Document.offset_content hbreak]
        omega

/-- **Where both agree.** A document finds all positions of the editor where the editor does if and
only if the text is plain. -/
theorem offset_agrees_iff (text : Text) :
    (∀ row column k, offset? text row column = some k → Document.offset text ⟨row, column⟩ = k)
      ↔ Text.isPlain text = true := by
  refine ⟨fun hagrees => ?_, fun hplain row column k => offset_eq_of_isPlain hplain⟩
  cases hplain : Text.isPlain text with
  | true => rfl
  | false =>
    obtain ⟨row, column, k, hk, hne⟩ := exists_offset_ne hplain
    exact absurd (hagrees row column k hk) hne

/-! ## Order and bounds -/

theorem columnOffset?_mono {content : Text} {one two i j : Nat} (hle : one ≤ two)
    (hi : columnOffset? content one = some i) (hj : columnOffset? content two = some j) :
    i ≤ j := by
  fun_induction columnOffset? content one generalizing two i j with
  | case1 content =>
    obtain rfl := Option.some.inj hi
    exact Nat.zero_le _
  | case2 column =>
    obtain rfl := Option.some.inj hi
    exact Nat.zero_le _
  | case3 c rest column hfits ih =>
    obtain ⟨i, hi', rfl⟩ := Option.map_eq_some_iff.1 hi
    obtain ⟨n, rfl⟩ : ∃ n, two = n + 1 := ⟨two - 1, by omega⟩
    rw [columnOffset?, if_pos (by omega)] at hj
    obtain ⟨j, hj', rfl⟩ := Option.map_eq_some_iff.1 hj
    exact Nat.succ_le_succ (ih (by omega) hi' hj')
  | case4 => simp at hi

/-- A position that comes later is not nearer to the front. -/
theorem offset?_mono {text : Text} {one two : Position} {i j : Nat}
    (hle : atOrBefore one two = true) (hi : offset? text one.row one.column = some i)
    (hj : offset? text two.row two.column = some j) : i ≤ j := by
  obtain ⟨row, column⟩ := two
  obtain ⟨first, early⟩ := one
  dsimp only at hi hj
  simp only [atOrBefore, Bool.or_eq_true, Bool.and_eq_true, decide_eq_true_eq,
    beq_iff_eq] at hle
  fun_induction offset? text row column generalizing first early i j with
  | case1 text column =>
    obtain ⟨rfl, hcolumn⟩ : first = 0 ∧ early ≤ column := by omega
    rw [offset?] at hi
    exact columnOffset?_mono hcolumn hi hj
  | case2 => simp at hj
  | case3 rest row column ih =>
    obtain ⟨j, hj', rfl⟩ := Option.map_eq_some_iff.1 hj
    cases first with
    | zero =>
      have hzero : offset? ('\r' :: '\n' :: rest) 0 early = some 0 := by
        rw [offset?]
        cases early <;> rfl
      obtain rfl : 0 = i := Option.some.inj (hzero.symm.trans hi)
      exact Nat.zero_le _
    | succ first =>
      rw [offset?] at hi
      obtain ⟨i, hi', rfl⟩ := Option.map_eq_some_iff.1 hi
      exact Nat.add_le_add_right (ih hj' first early hi' (by omega)) 2
  | case4 c rest row column hcrlf hend ih =>
    obtain ⟨j, hj', rfl⟩ := Option.map_eq_some_iff.1 hj
    cases first with
    | zero =>
      have hzero : offset? (c :: rest) 0 early = some 0 := by
        rw [offset?, List.takeWhile_cons_of_neg (by simp [hend])]
        cases early <;> rfl
      obtain rfl : 0 = i := Option.some.inj (hzero.symm.trans hi)
      exact Nat.zero_le _
    | succ first =>
      rw [offset?, if_pos hend] at hi
      · obtain ⟨i, hi', rfl⟩ := Option.map_eq_some_iff.1 hi
        exact Nat.succ_le_succ (ih hj' first early hi' (by omega))
      · exact hcrlf
  | case5 c rest row column hcrlf hend ih =>
    obtain ⟨j, hj', rfl⟩ := Option.map_eq_some_iff.1 hj
    cases first with
    | zero =>
      -- a column of this line is at its front, or a column of what follows the character
      rw [offset?, List.takeWhile_cons_of_pos (by simpa using hend)] at hi
      cases early with
      | zero =>
        obtain rfl := Option.some.inj hi
        exact Nat.zero_le _
      | succ early =>
        rw [columnOffset?] at hi
        split at hi
        · obtain ⟨i, hi', rfl⟩ := Option.map_eq_some_iff.1 hi
          exact Nat.succ_le_succ (ih hj' 0 (early + 1 - Text.units c) (by rw [offset?, hi'])
            (by omega))
        · simp at hi
    | succ first =>
      rw [offset?, if_neg hend] at hi
      · obtain ⟨i, hi', rfl⟩ := Option.map_eq_some_iff.1 hi
        exact Nat.succ_le_succ (ih hj' (first + 1) early hi' (by omega))
      · exact hcrlf

theorem columnOffset?_le {content : Text} {column k : Nat}
    (h : columnOffset? content column = some k) : k ≤ content.length := by
  rw [← charOffset_of_columnOffset? h]
  exact Text.charOffset_le content column

theorem offset?_le {text : Text} {row column k : Nat} (h : offset? text row column = some k) :
    k ≤ text.length := by
  fun_induction offset? text row column generalizing k with
  | case1 text column =>
    exact Nat.le_trans (columnOffset?_le h) (List.takeWhile_sublist _).length_le
  | case2 => simp at h
  | case3 rest row column ih =>
    obtain ⟨j, hj, rfl⟩ := Option.map_eq_some_iff.1 h
    exact Nat.add_le_add_right (ih hj) 2
  | case4 c rest row column hcrlf hend ih =>
    obtain ⟨j, hj, rfl⟩ := Option.map_eq_some_iff.1 h
    exact Nat.succ_le_succ (ih hj)
  | case5 c rest row column hcrlf hend ih =>
    obtain ⟨j, hj, rfl⟩ := Option.map_eq_some_iff.1 h
    exact Nat.succ_le_succ (ih hj)

/-! ## One edit -/

/-- An edit of a plain text gives what the editor has, and so does a whole new text. -/
theorem editText_eq {text next : Text} {edit : Edit}
    (hplain : edit.range = none ∨ Text.isPlain text = true) (h : edit? text edit = some next) :
    Document.editText text edit = next := by
  cases hrange : edit.range with
  | none =>
    rw [edit?, hrange] at h
    rw [Document.editText, hrange]
    exact Option.some.inj h
  | some range =>
    have hplain : Text.isPlain text = true := hplain.resolve_left (by simp [hrange])
    rw [edit?, hrange] at h
    rw [Document.editText, hrange]
    dsimp only at h ⊢
    by_cases hle : atOrBefore range.start range.stop = true
    · rw [if_pos hle] at h
      obtain ⟨start, hstart, h⟩ := Option.bind_eq_some_iff.1 h
      obtain ⟨stop, hstop, h⟩ := Option.bind_eq_some_iff.1 h
      -- the editor's range is not empty from behind, so the maximum is its end
      have hmax : max start stop = stop := Nat.max_eq_right (offset?_mono hle hstart hstop)
      have hone : Document.offset text range.start = start := offset_eq_of_isPlain hplain hstart
      have htwo : Document.offset text range.stop = stop := offset_eq_of_isPlain hplain hstop
      rw [hone, htwo, hmax]
      exact Option.some.inj h
    · rw [if_neg hle] at h
      exact absurd h (by simp)

/-- Any other text has an edit that takes both apart: one that deletes all before a position on
which they do not agree. -/
theorem exists_editText_ne {text : Text} (hplain : Text.isPlain text = false) :
    ∃ edit next, edit? text edit = some next ∧ Document.editText text edit ≠ next := by
  obtain ⟨row, column, k, hk, hne⟩ := exists_offset_ne hplain
  refine ⟨⟨some ⟨⟨0, 0⟩, ⟨row, column⟩⟩, []⟩, text.drop k, ?_, fun heq => hne ?_⟩
  · have hle : atOrBefore ⟨0, 0⟩ ⟨row, column⟩ = true := by
      cases row <;> simp [atOrBefore]
    have hstart : offset? text 0 0 = some 0 := by
      rw [offset?, columnOffset?_zero]
    simp [edit?, hle, hstart, hk]
  · have hstart : Document.offset text ⟨0, 0⟩ = 0 := by
      obtain ⟨first, more, hrows⟩ := List.exists_cons_of_ne_nil (Text.rows_ne_nil text)
      rw [Document.offset_first_row hrows, Text.charOffset_zero]
    have hedit : Document.editText text ⟨some ⟨⟨0, 0⟩, ⟨row, column⟩⟩, []⟩
        = text.drop (Document.offset text ⟨row, column⟩) := by
      simp [Document.editText, hstart]
    have hlength := congrArg List.length (hedit.symm.trans heq)
    rw [List.length_drop, List.length_drop] at hlength
    have hone := Document.offset_le text ⟨row, column⟩
    have htwo := offset?_le hk
    omega

/-! ## Any number of edits -/

/-- Ranges are replaced in plain texts only. -/
def plainThroughout : Text → List Edit → Bool
  | _, [] => true
  | text, edit :: edits =>
    (edit.range.isNone || Text.isPlain text)
      && match edit? text edit with
        | some next => plainThroughout next edits
        | none => true

theorem editAll_eq {text result : Text} {edits : List Edit}
    (hplain : plainThroughout text edits = true) (h : edits.foldlM edit? text = some result) :
    edits.foldl Document.editText text = result := by
  induction edits generalizing text with
  | nil => exact Option.some.inj h
  | cons edit edits ih =>
    rw [List.foldlM_cons] at h
    obtain ⟨next, hnext, h⟩ := Option.bind_eq_some_iff.1 h
    rw [plainThroughout, hnext, Bool.and_eq_true, Bool.or_eq_true, Option.isNone_iff_eq_none]
      at hplain
    rw [List.foldl_cons, editText_eq hplain.1 hnext]
    exact ih hplain.2 h

end Editor

/-! ## Open documents -/

namespace Workspace

variable {workspace : Workspace} {uri : Uri}

theorem document?_openDocument (text : Text) (version : Option Int) :
    (workspace.openDocument uri text version).document? uri
      = some { text := text, version := version } :=
  Keyed.get?_put_self _ _ _

theorem document?_editDocument {document : Document} (h : workspace.document? uri = some document)
    (edit : Edit) :
    (workspace.editDocument uri edit).document? uri = some (document.apply edit) := by
  rw [editDocument, updateDocument, h]
  exact Keyed.get?_put_self _ _ _

/-- Edits of an open document are edits of its text. -/
theorem document?_foldl_editDocument {document : Document}
    (h : workspace.document? uri = some document) (edits : List Edit) :
    (edits.foldl (fun workspace edit => workspace.editDocument uri edit) workspace).document? uri
      = some { document with text := edits.foldl Document.editText document.text } := by
  induction edits generalizing workspace document with
  | nil => exact h
  | cons edit edits ih => exact ih (document?_editDocument h edit)

/-- **Staying in step with an editor.** After any edits that are all of the editor's text, with
ranges in plain texts only, an open document has the editor's text. And from any text that is not
plain, one edit takes them apart. -/
theorem document_in_step (workspace : Workspace) (uri : Uri) (text : Text) (version : Option Int) :
    (∀ edits result, Editor.plainThroughout text edits = true →
      edits.foldlM Editor.edit? text = some result →
      (edits.foldl (fun workspace edit => workspace.editDocument uri edit)
        (workspace.openDocument uri text version)).document? uri
          = some { text := result, version := version })
      ∧ (Text.isPlain text = false → ∃ edit result, Editor.edit? text edit = some result
        ∧ ((workspace.openDocument uri text version).editDocument uri edit).document? uri
          ≠ some { text := result, version := version }) := by
  have hopen : (workspace.openDocument uri text version).document? uri
      = some { text := text, version := version } := document?_openDocument text version
  constructor
  · intro edits result hplain hresult
    rw [document?_foldl_editDocument hopen, Editor.editAll_eq hplain hresult]
  · intro hplain
    obtain ⟨edit, result, hresult, hne⟩ := Editor.exists_editText_ne hplain
    refine ⟨edit, result, hresult, fun heq => hne ?_⟩
    rw [document?_editDocument hopen] at heq
    exact congrArg Document.text (Option.some.inj heq)

/-! A text with characters of one and two units and two kinds of line ends, edited in both lines,
and one with a line separator. -/

/-- The URI of a document. -/
def exampleUri : Uri := { scheme := "file".toList, authority := none, path := "/a.yaml".toList }

/-- Two edits: past the end of the first line, and after a character of two units. -/
def exampleEdits : List Edit :=
  [⟨some ⟨⟨0, 1⟩, ⟨0, 99⟩⟩, "b".toList⟩, ⟨some ⟨⟨1, 2⟩, ⟨2, 0⟩⟩, "!".toList⟩]

theorem document_in_step_two_lines :
    Editor.plainThroughout "é a\r\n😀x\ry".toList exampleEdits = true
      ∧ exampleEdits.foldlM Editor.edit? "é a\r\n😀x\ry".toList = some "éb\r\n😀!y".toList
      ∧ (exampleEdits.foldl (fun workspace edit => workspace.editDocument exampleUri edit)
        ((ofSettings {}).openDocument exampleUri "é a\r\n😀x\ry".toList none)).document? exampleUri
          = some { text := "éb\r\n😀!y".toList, version := none } :=
  ⟨by decide, by decide, (document_in_step _ _ _ _).1 _ _ (by decide) (by decide)⟩

/-- After a line separator, an edit of the second line is made in the first. -/
theorem document_out_of_step_separator :
    Editor.edit? "a\u2028b\nc\n".toList ⟨some ⟨⟨1, 0⟩, ⟨1, 1⟩⟩, "X".toList⟩
        = some "a\u2028b\nX\n".toList
      ∧ (((ofSettings {}).openDocument exampleUri "a\u2028b\nc\n".toList none).editDocument
        exampleUri ⟨some ⟨⟨1, 0⟩, ⟨1, 1⟩⟩, "X".toList⟩).document? exampleUri
          = some { text := "a\u2028X\nc\n".toList, version := none }
      ∧ "a\u2028X\nc\n".toList ≠ "a\u2028b\nX\n".toList := by
  refine ⟨by decide, ?_, by decide⟩
  rw [document?_editDocument (document?_openDocument _ _)]
  decide

end Workspace

end WorkflowNav
