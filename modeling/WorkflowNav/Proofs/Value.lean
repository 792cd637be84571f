/-
What it takes for a line to have a value.

The readers of `name:` and `template:` go from the left and take the first place where the key
stands with a value after it. The key may stand in a line more than once, in what comes before, in
the value or in the comment, and a place that fails must give way to a later one. So what a reader
finds is told by the ways to take a line apart: a front, the key, and a value wrapped in blanks,
quotes and a comment (`WrittenAfter`). The value that is read is the one after the shortest front.

After a given front there is at most one value. Every part ends where the next begins: a value has
no blanks, quotes or `#`, and what is wrapped around it starts with one of these.
-/
import WorkflowNav.Proofs.Position

set_option autoImplicit false

namespace WorkflowNav.Manifest

/-! ## The text after a key -/

/-- The quote in front of a text. -/
theorem exists_dropQuote (text : Text) : ∃ mark, IsMark mark ∧ text = mark ++ dropQuote text := by
  cases text with
  | nil => exact ⟨[], .inl rfl, rfl⟩
  | cons c rest =>
    by_cases hc : isQuote c = true
    · exact ⟨[c], .inr ⟨c, hc, rfl⟩, by simp [dropQuote, hc]⟩
    · exact ⟨[], .inl rfl, by simp [dropQuote, hc]⟩

/-- A text holds a value and nothing else if it is that value, wrapped. -/
theorem value?_eq_some_iff {text value : Text} :
    value? text = some value
      ↔ IsValue value ∧ ∃ wrapping : Wrapping, text = wrapping.around value := by
  constructor
  · intro h
    obtain ⟨gap, hgap, htext⟩ := exists_dropBlanks text
    obtain ⟨opening, hopening, hbody⟩ := exists_dropQuote (Text.dropBlanks text)
    simp only [value?] at h
    generalize hrest : dropQuote (Text.dropBlanks text) = body at h hbody
    split at h
    · next hfound =>
      obtain rfl := Option.some.inj h
      simp only [Bool.and_eq_true, Bool.not_eq_true', List.isEmpty_eq_false_iff] at hfound
      obtain ⟨closing, hclosing, hback⟩ := exists_dropQuote (body.dropWhile isValueChar)
      obtain ⟨space, comment, hspace, hcomment, hend⟩ := isTrailer_iff.1 hfound.2
      refine ⟨⟨hfound.1, fun c hc => List.mem_takeWhile_imp hc⟩,
        ⟨gap, opening, closing, space, comment, hgap, hopening, hclosing, hspace, hcomment⟩, ?_⟩
      rw [Wrapping.around, Wrapping.back, ← hend, ← hback, List.takeWhile_append_dropWhile, ← hbody,
        ← htext]
    · exact absurd h (by simp)
  · rintro ⟨hvalue, wrapping, rfl⟩
    exact value?_around wrapping hvalue

/-! ## The places of a key -/

/-- The value after the key at a place of a line. -/
def valueAt? (key line : Text) (q : Nat) : Option Text :=
  (key.isPrefixOf? (line.drop q)).bind value?

/-- A value of a key is written in a line, after a front. -/
structure WrittenAfter (key front value line : Text) : Prop where
  isValue : IsValue value
  line_eq : ∃ wrapping : Wrapping, line = front ++ (key ++ wrapping.around value)

section Places

variable {key line value : Text}

/-- The search for a key goes through the places of a line. -/
theorem valueOf?_eq_findSome? (key line : Text) :
    valueOf? key line = (List.range (line.length + 1)).findSome? (valueAt? key line) := by
  induction line with
  | nil =>
    have hnone : valueAt? key [] 0 = none := by
      cases key with
      | nil => rfl
      | cons c key => rfl
    simp [valueOf?, hnone]
  | cons c rest ih =>
    have hhere : valueAt? key (c :: rest) 0 = (key.isPrefixOf? (c :: rest)).bind value? := rfl
    have hnext : valueAt? key (c :: rest) ∘ Nat.succ = valueAt? key rest := rfl
    rw [valueOf?, List.length_cons, List.range_succ_eq_map, List.findSome?_cons, List.findSome?_map,
      hhere, hnext, ← ih]
    cases (key.isPrefixOf? (c :: rest)).bind value? <;> rfl

theorem valueAt?_eq_some_iff {q : Nat} :
    valueAt? key line q = some value
      ↔ ∃ front, front.length = q ∧ WrittenAfter key front value line := by
  rw [valueAt?, Option.bind_eq_some_iff]
  constructor
  · rintro ⟨rest, hrest, hvalue⟩
    rw [List.isPrefixOf?_eq_some_iff_append_eq] at hrest
    obtain ⟨hisValue, wrapping, rfl⟩ := value?_eq_some_iff.1 hvalue
    refine ⟨line.take q, ?_, hisValue, wrapping, by rw [hrest, List.take_append_drop]⟩
    -- a place after the end would leave nothing for the value
    have hlength := congrArg List.length hrest
    have hpos := List.length_pos_of_ne_nil hisValue.ne_nil
    simp only [Wrapping.around, List.length_append, List.length_drop] at hlength
    rw [List.length_take]
    omega
  · rintro ⟨front, rfl, hisValue, wrapping, rfl⟩
    refine ⟨wrapping.around value, ?_, value?_around wrapping hisValue⟩
    rw [List.isPrefixOf?_eq_some_iff_append_eq, List.drop_left]

theorem WrittenAfter.length_lt {front : Text} (h : WrittenAfter key front value line) :
    front.length < line.length + 1 := by
  obtain ⟨wrapping, rfl⟩ := h.line_eq
  rw [List.length_append]
  omega

/-- Nothing is read from a line in which nothing is written. -/
theorem valueOf?_eq_none_iff :
    valueOf? key line = none ↔ ∀ front value, ¬ WrittenAfter key front value line := by
  rw [valueOf?_eq_findSome?, List.findSome?_eq_none_iff]
  constructor
  · intro hnone front value h
    have hplace := hnone front.length (List.mem_range.2 h.length_lt)
    rw [valueAt?_eq_some_iff.2 ⟨front, rfl, h⟩] at hplace
    exact absurd hplace (by simp)
  · intro hempty q _
    by_contra hsome
    obtain ⟨value, hvalue⟩ := Option.ne_none_iff_exists'.1 hsome
    obtain ⟨front, -, h⟩ := valueAt?_eq_some_iff.1 hvalue
    exact hempty front value h

/-- What is read is what is written after the shortest front. -/
theorem valueOf?_eq_some_iff :
    valueOf? key line = some value
      ↔ ∃ front, WrittenAfter key front value line
        ∧ ∀ front' value', WrittenAfter key front' value' line → front.length ≤ front'.length := by
  rw [valueOf?_eq_findSome?,
    findSome?_of_pairwise List.pairwise_lt_range fun a b hab hba => by omega]
  constructor
  · rintro ⟨q, -, hvalue, hbefore⟩
    obtain ⟨front, rfl, h⟩ := valueAt?_eq_some_iff.1 hvalue
    refine ⟨front, h, ?_⟩
    intro front' value' h'
    by_contra hlt
    have hnone := hbefore front'.length (List.mem_range.2 h'.length_lt) (by omega)
    rw [valueAt?_eq_some_iff.2 ⟨front', rfl, h'⟩] at hnone
    exact absurd hnone (by simp)
  · rintro ⟨front, h, hshortest⟩
    refine ⟨front.length, List.mem_range.2 h.length_lt, valueAt?_eq_some_iff.2 ⟨front, rfl, h⟩, ?_⟩
    intro q _ hlt
    by_contra hsome
    obtain ⟨value', hvalue'⟩ := Option.ne_none_iff_exists'.1 hsome
    obtain ⟨front', rfl, h'⟩ := valueAt?_eq_some_iff.1 hvalue'
    have hle := hshortest front' value' h'
    omega

theorem isValue_of_valueOf? (h : valueOf? key line = some value) : IsValue value := by
  obtain ⟨front, hwritten, -⟩ := valueOf?_eq_some_iff.1 h
  exact hwritten.isValue

/-- After a given front there is one value. -/
theorem WrittenAfter.unique {front value' : Text} (h : WrittenAfter key front value line)
    (h' : WrittenAfter key front value' line) : value = value' := by
  have hvalue := valueAt?_eq_some_iff.2 ⟨front, rfl, h⟩
  have hvalue' := valueAt?_eq_some_iff.2 ⟨front, rfl, h'⟩
  exact Option.some.inj (hvalue.symm.trans hvalue')

/-- What is written after the first key of a line is read back. -/
theorem valueOf?_of_first {front : Text} (h : WrittenAfter key front value line)
    (hfirst : ∀ front' rest, line = front' ++ (key ++ rest) → front.length ≤ front'.length) :
    valueOf? key line = some value := by
  refine valueOf?_eq_some_iff.2 ⟨front, h, ?_⟩
  intro front' value' h'
  obtain ⟨wrapping, hline⟩ := h'.line_eq
  exact hfirst front' _ hline

end Places

/-! ## The readers -/

/-- A reader gives the values of a key exactly as they are written. -/
structure ReadsExactly (key : Text) (read : Text → Option Text) : Prop where
  /-- What is read is what is written after the shortest front. -/
  some_iff : ∀ line value, read line = some value
    ↔ ∃ front, WrittenAfter key front value line
      ∧ ∀ front' value', WrittenAfter key front' value' line → front.length ≤ front'.length
  /-- Nothing is read from a line in which nothing is written. -/
  none_iff : ∀ line, read line = none ↔ ∀ front value, ¬ WrittenAfter key front value line
  /-- After a given front there is one value. -/
  unique : ∀ line front value value', WrittenAfter key front value line →
    WrittenAfter key front value' line → value = value'
  /-- However a value is wrapped, it is read back from after the first key of a line. -/
  first : ∀ front value (wrapping : Wrapping), IsValue value →
    (∀ front' rest, front ++ (key ++ wrapping.around value) = front' ++ (key ++ rest) →
      front.length ≤ front'.length) →
    read (front ++ (key ++ wrapping.around value)) = some value

theorem readsExactly_valueOf? (key : Text) : ReadsExactly key (valueOf? key) where
  some_iff := fun _ _ => valueOf?_eq_some_iff
  none_iff := fun _ => valueOf?_eq_none_iff
  unique := fun _ _ _ _ => WrittenAfter.unique
  first := fun _ _ wrapping hvalue hfirst => valueOf?_of_first ⟨hvalue, wrapping, rfl⟩ hfirst

/-- **Values are read exactly.** In a line, `name:` and `template:` have the value that is written
after the shortest front, and none if nothing is written. Whatever the front, the quotes and the
comment are, a value after the first key is read back. -/
theorem values_read_exactly :
    ReadsExactly Marker.name name? ∧ ReadsExactly Marker.template template? :=
  ⟨readsExactly_valueOf? Marker.name, readsExactly_valueOf? Marker.template⟩

/-- Two quotes that do not match, and a comment with a key in it. -/
def exampleWrapping : Wrapping where
  gap := " \t".toList
  opening := "'".toList
  closing := "\"".toList
  space := " ".toList
  comment := "# template: bye".toList
  gap_blank := List.all_eq_true.1 (by decide)
  opening_mark := .inr ⟨'\x27', by decide, rfl⟩
  closing_mark := .inr ⟨'\x22', by decide, rfl⟩
  space_blank := List.all_eq_true.1 (by decide)
  comment_end := .inr ⟨" template: bye".toList, by decide, rfl⟩

/-- The first `name:` has two words after it and gives way to the second; the wrapped `template:` is
the first one of its line. -/
theorem values_read_exactly_wrapped :
    (∃ front, WrittenAfter Marker.name front "x".toList "- name: two words name: x # y".toList
        ∧ ∀ front' value', WrittenAfter Marker.name front' value'
            "- name: two words name: x # y".toList → front.length ≤ front'.length)
      ∧ IsValue "hi".toList
      ∧ template? ("  ".toList ++ (Marker.template ++ exampleWrapping.around "hi".toList))
        = some "hi".toList := by
  have hvalue : IsValue "hi".toList := by decide
  refine ⟨(values_read_exactly.1.some_iff _ _).1 (by decide +kernel), hvalue,
    values_read_exactly.2.first _ _ exampleWrapping hvalue ?_⟩
  intro front' rest hline
  by_contra hlt
  have hnone : ∀ q < 2, Marker.template.isPrefixOf (("  ".toList
      ++ (Marker.template ++ exampleWrapping.around "hi".toList)).drop q) = false := by
    decide +kernel
  have hplace := hnone front'.length (Nat.lt_of_not_le hlt)
  rw [hline, List.drop_left, List.isPrefixOf_iff_prefix.2 (List.prefix_append _ _)] at hplace
  exact absurd hplace (by decide)

end WorkflowNav.Manifest
