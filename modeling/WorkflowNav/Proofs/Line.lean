/-
What the readers of a line find in a line that was written for them.

A written line is a fixed front and a tail that varies, a name or a number. Whether a marker stands
in it can be told from the front alone once the tail lacks the marker's last character
(`has_append_of_notMem`), and that is the only fact about search used below. Values are read back as
they were written (`valueOf?_append`), whatever blanks, quotes and comment are wrapped around them
(`value?_around`). A list item shows what follows its dash, and of two names written without blanks
only one is the name of an entry (`startsWithName_iff`), also where one continues the other.
-/
import Mathlib.Data.List.Basic
import Mathlib.Data.List.TakeWhile
import WorkflowNav.Manifest.Line
import WorkflowNav.Text.Lines
import WorkflowNav.Text.Utf8

set_option autoImplicit false

namespace WorkflowNav

namespace Text

/-! ## Markers -/

/-- A part stands in the front of a text if its last character is not in the back. -/
theorem has_append_of_notMem {part front back : Text} {last : Char}
    (hlast : part.getLast? = some last) (hback : last ∉ back) :
    has part (front ++ back) = has part front := by
  obtain ⟨first, rfl⟩ := List.getLast?_eq_some_iff.1 hlast
  rw [Bool.eq_iff_iff, has_iff, has_iff]
  constructor
  · rintro ⟨before, after, heq⟩
    rw [List.append_eq_append_iff] at heq
    obtain ⟨more, hfront, -⟩ | ⟨more, hfront, hmore⟩ := heq
    · exact ⟨before, more, hfront.symm⟩
    · -- an occurrence that reaches into the back would end there
      rcases List.eq_nil_or_concat more with rfl | ⟨middle, c, rfl⟩
      · exact ⟨before, [], by simpa using hfront⟩
      · obtain rfl : last = c := by simpa using congrArg List.getLast? hfront
        exact absurd (by rw [hmore]; simp) hback
  · rintro ⟨before, after, rfl⟩
    exact ⟨before, after ++ back, by simp⟩

theorem has_of_isPrefixOf {part text : Text} (h : part.isPrefixOf text = true) :
    has part text = true := by
  have hstart : part <+: text := List.isPrefixOf_iff_prefix.1 h
  exact (has_iff part text).2 hstart.isInfix

/-! ## Lines -/

theorem newline_notMem_of_mem_lines {text line : Text} (h : line ∈ lines text) : '\n' ∉ line := by
  fun_induction lines text generalizing line with
  | case1 => exact absurd h List.not_mem_nil
  | case2 rest ih | case3 rest ih =>
    rcases List.mem_cons.1 h with rfl | h
    · exact List.not_mem_nil
    · exact ih h
  | case4 c rest hnewline hreturn hnil ih =>
    obtain rfl := List.mem_singleton.1 h
    exact fun hmem => hnewline (List.mem_singleton.1 hmem).symm
  | case5 c rest hnewline hreturn first more hrest ih =>
    rw [hrest] at ih
    rcases List.mem_cons.1 h with rfl | h
    · intro hmem
      rcases List.mem_cons.1 hmem with heq | hmem
      · exact hnewline heq.symm
      · exact ih List.mem_cons_self hmem
    · exact ih (List.mem_cons_of_mem _ h)

/-! ## Plain text

The letters, digits and signs of a keyboard. Such text is the same in characters and in bytes, and
nothing in it ends a line. -/

/-- A space, or a letter, digit or sign of ASCII. -/
def isKey (c : Char) : Bool := 0x20 ≤ c.toNat && c.toNat < 0x7F

theorem toNat_lt_of_isKey {c : Char} (h : isKey c = true) : c.toNat < 0x80 := by
  simp only [isKey, Bool.and_eq_true, decide_eq_true_eq] at h
  omega

theorem lines_append_newline {line : Text} (hline : ∀ c ∈ line, isKey c = true) (rest : Text) :
    lines (line ++ '\n' :: rest) = line :: lines rest := by
  induction line with
  | nil => simp [lines]
  | cons c line ih =>
    have hc : isKey c = true := hline c List.mem_cons_self
    have hnewline : c ≠ '\n' := by rintro rfl; exact absurd hc (by decide)
    have hreturn : c ≠ '\r' := by rintro rfl; exact absurd hc (by decide)
    have hrest := ih fun other hother => hline other (List.mem_cons_of_mem _ hother)
    rw [List.cons_append, lines, hrest]
    · exact hnewline
    · simp [hreturn]

/-- Lines that were each written with an end are read back, whatever follows them. -/
theorem lines_flatMap_append {texts : List Text}
    (h : ∀ line ∈ texts, ∀ c ∈ line, isKey c = true) (rest : Text) :
    lines (texts.flatMap (· ++ ['\n']) ++ rest) = texts ++ lines rest := by
  induction texts with
  | nil => rfl
  | cons line texts ih =>
    rw [List.flatMap_cons, List.append_assoc, List.append_assoc, List.singleton_append,
      lines_append_newline (h line List.mem_cons_self),
      ih fun other hother => h other (List.mem_cons_of_mem _ hother), List.cons_append]

theorem lines_flatMap {texts : List Text} (h : ∀ line ∈ texts, ∀ c ∈ line, isKey c = true) :
    lines (texts.flatMap (· ++ ['\n'])) = texts := by
  simpa [lines] using lines_flatMap_append h []

/-- A last line without an end is a line as it stands. -/
theorem lines_eq_singleton {line : Text} (hne : line ≠ []) (hnewline : '\n' ∉ line) :
    lines line = [line] := by
  induction line with
  | nil => exact absurd rfl hne
  | cons c rest ih =>
    rw [List.mem_cons, not_or] at hnewline
    have hreturn : ∀ more, c = '\r' → rest ≠ '\n' :: more := by
      rintro more - rfl
      exact hnewline.2 List.mem_cons_self
    by_cases hrest : rest = []
    · subst hrest
      rw [lines, lines]
      · exact fun h => hnewline.1 h.symm
      · simp
    · rw [lines, ih hrest hnewline.2]
      · exact fun h => hnewline.1 h.symm
      · exact hreturn

theorem lines_flatMap_of_all {texts : List Text} (h : texts.all (·.all isKey) = true) :
    lines (texts.flatMap (· ++ ['\n'])) = texts :=
  lines_flatMap fun line hline => List.all_eq_true.1 (List.all_eq_true.1 h line hline)

theorem toNat_toUInt8 {c : Char} (hc : c.toNat < 0x80) : c.toNat.toUInt8.toNat = c.toNat := by
  have hbound : c.toNat < 256 := Nat.lt_trans hc (by decide)
  simpa using Nat.mod_eq_of_lt hbound

/-- A character of ASCII is one byte. -/
theorem encode_cons {c : Char} (hc : c.toNat < 0x80) (text : Text) :
    encode (c :: text) = c.toNat.toUInt8 :: encode text := by
  have hval : c.toNat ≤ 0x7F := Nat.le_of_lt_succ hc
  simp [encode, String.utf8EncodeChar, hval]

/-- That byte is read back. -/
theorem charsFrom_encode_cons {c : Char} (hc : c.toNat < 0x80) (text : Text) :
    charsFrom 0 (encode (c :: text)) = some c :: charsFrom 0 (encode text) := by
  have hfront : front c.toNat.toUInt8 (encode text) = (some c, 0) := by
    have hsmall : c.toNat.toUInt8 < 0x80 := by
      rw [UInt8.lt_iff_toNat_lt, toNat_toUInt8 hc]
      exact hc
    -- a byte below 0x80 stands for itself and takes none of the bytes after it
    unfold front
    rw [if_pos hsmall, toNat_toUInt8 hc, Char.ofNat_toNat]
  rw [encode_cons hc, charsFrom, hfront]

theorem mem_encode {text : Text} (h : ∀ c ∈ text, c.toNat < 0x80) {b : UInt8}
    (hb : b ∈ encode text) : ∃ c ∈ text, b.toNat = c.toNat := by
  induction text with
  | nil => exact absurd hb List.not_mem_nil
  | cons c text ih =>
    have hc := h c List.mem_cons_self
    rw [encode_cons hc] at hb
    rcases List.mem_cons.1 hb with rfl | hb
    · exact ⟨c, List.mem_cons_self, toNat_toUInt8 hc⟩
    · obtain ⟨d, hd, heq⟩ := ih (fun other hother => h other (List.mem_cons_of_mem _ hother)) hb
      exact ⟨d, List.mem_cons_of_mem _ hd, heq⟩

theorem chars_encode {text : Text} (h : ∀ c ∈ text, c.toNat < 0x80) :
    chars (encode text) = text.map some := by
  unfold chars
  induction text with
  | nil => rfl
  | cons c text ih =>
    rw [charsFrom_encode_cons (h c List.mem_cons_self),
      ih fun other hother => h other (List.mem_cons_of_mem _ hother), List.map_cons]

theorem decode?_encode {text : Text} (h : ∀ c ∈ text, c.toNat < 0x80) :
    decode? (encode text) = some text := by
  simp [decode?, chars_encode h]

theorem decode?_encode_of_all {text : Text} (h : text.all (fun c => c.toNat < 0x80) = true) :
    decode? (encode text) = some text :=
  decode?_encode fun c hc => of_decide_eq_true (List.all_eq_true.1 h c hc)

theorem decodeLossy_encode {text : Text} (h : ∀ c ∈ text, c.toNat < 0x80) :
    decodeLossy (encode text) = text := by
  simp [decodeLossy, chars_encode h, Function.comp_def]

theorem encode_injective {text other : Text} (htext : ∀ c ∈ text, c.toNat < 0x80)
    (hother : ∀ c ∈ other, c.toNat < 0x80) (h : encode text = encode other) : text = other := by
  have hdecode := decodeLossy_encode htext
  rw [h, decodeLossy_encode hother] at hdecode
  exact hdecode.symm

end Text

namespace Manifest

/-- The kind line of a WorkflowTemplate is a kind line. -/
theorem has_kind_of_has_workflowTemplate {line : Text}
    (h : Text.has Marker.workflowTemplate line = true) : Text.has Marker.kind line = true := by
  have hpart : Marker.kind <:+: Marker.workflowTemplate := (Text.has_iff _ _).1 (by decide)
  rw [Text.has_iff] at *
  exact hpart.trans h

/-! ## Values -/

theorem dropBlanks_append {blanks rest : Text} (h : ∀ c ∈ blanks, Text.isBlank c = true) :
    Text.dropBlanks (blanks ++ rest) = Text.dropBlanks rest :=
  List.dropWhile_append_of_pos h

theorem dropBlanks_of_not_blank {c : Char} (hc : Text.isBlank c = false) (rest : Text) :
    Text.dropBlanks (c :: rest) = c :: rest := by
  simp [Text.dropBlanks, hc]

/-- What can be written as a bare value: something, with no blank, quote or comment in it. -/
structure IsValue (value : Text) : Prop where
  ne_nil : value ≠ []
  all : ∀ c ∈ value, isValueChar c = true

instance (value : Text) : Decidable (IsValue value) :=
  decidable_of_iff (value ≠ [] ∧ value.all isValueChar = true)
    ⟨fun h => ⟨h.1, List.all_eq_true.1 h.2⟩, fun h => ⟨h.ne_nil, List.all_eq_true.2 h.all⟩⟩

theorem not_blank_of_isValueChar {c : Char} (h : isValueChar c = true) :
    Text.isBlank c = false := by
  simp only [isValueChar, Bool.not_eq_true', Bool.or_eq_false_iff] at h
  exact h.2

theorem not_quote_of_isValueChar {c : Char} (h : isValueChar c = true) : isQuote c = false := by
  simp only [isValueChar, Bool.not_eq_true', Bool.or_eq_false_iff] at h
  exact h.1.1

theorem not_blank_of_isQuote {c : Char} (h : isQuote c = true) : Text.isBlank c = false := by
  rw [isQuote, Bool.or_eq_true, beq_iff_eq, beq_iff_eq] at h
  rcases h with rfl | rfl <;> decide

theorem not_quote_of_isBlank {c : Char} (h : Text.isBlank c = true) : isQuote c = false := by
  by_contra hquote
  rw [not_blank_of_isQuote (Bool.not_eq_false _ ▸ hquote)] at h
  exact absurd h (by decide)

/-- What follows a value starts with a blank or a comment, so it neither continues the value nor
closes a quote. -/
theorem isTrailer_cons {c : Char} {rest : Text} (h : isTrailer (c :: rest) = true) :
    isValueChar c = false ∧ isQuote c = false := by
  by_cases hblank : Text.isBlank c = true
  · exact ⟨by simp [isValueChar, hblank], not_quote_of_isBlank hblank⟩
  · rw [isTrailer, dropBlanks_of_not_blank (Bool.eq_false_iff.2 hblank)] at h
    obtain rfl : c = '#' := by
      simp only [Bool.and_eq_true, beq_iff_eq] at h
      exact h.1
    decide

/-- The blanks in front of a text. -/
theorem exists_dropBlanks (text : Text) :
    ∃ blanks, (∀ c ∈ blanks, Text.isBlank c = true) ∧ text = blanks ++ Text.dropBlanks text :=
  ⟨text.takeWhile Text.isBlank, fun _ => List.mem_takeWhile_imp,
    List.takeWhile_append_dropWhile.symm⟩

/-- Nothing, or a comment that goes on to the end of the line. -/
def IsComment (text : Text) : Prop := text = [] ∨ ∃ rest, '\n' ∉ rest ∧ text = '#' :: rest

/-- What may follow a value, in its parts. -/
theorem isTrailer_iff {text : Text} :
    isTrailer text = true
      ↔ ∃ space comment, (∀ c ∈ space, Text.isBlank c = true) ∧ IsComment comment
        ∧ text = space ++ comment := by
  constructor
  · intro h
    obtain ⟨space, hspace, htext⟩ := exists_dropBlanks text
    refine ⟨space, Text.dropBlanks text, hspace, ?_, htext⟩
    unfold isTrailer at h
    split at h
    · next hnil => exact .inl hnil
    · next c rest hcons =>
      simp only [Bool.and_eq_true, beq_iff_eq, Bool.not_eq_true', List.contains_eq_mem,
        decide_eq_false_iff_not] at h
      exact .inr ⟨rest, h.2, by rw [hcons, h.1]⟩
  · rintro ⟨space, comment, hspace, hcomment, rfl⟩
    rw [isTrailer, dropBlanks_append hspace]
    rcases hcomment with rfl | ⟨rest, hrest, rfl⟩
    · rfl
    · rw [dropBlanks_of_not_blank (by decide)]
      simp [hrest]

/-- Nothing, or one quote. -/
def IsMark (text : Text) : Prop := text = [] ∨ ∃ c, isQuote c = true ∧ text = [c]

/-- What may stand around a value, from its key to the end of the line: blanks, a quote on either
side of it, blanks and a comment. The quotes need not match, and one can do without the other. -/
structure Wrapping where
  gap : Text
  opening : Text
  closing : Text
  space : Text
  comment : Text
  gap_blank : ∀ c ∈ gap, Text.isBlank c = true
  opening_mark : IsMark opening
  closing_mark : IsMark closing
  space_blank : ∀ c ∈ space, Text.isBlank c = true
  comment_end : IsComment comment

namespace Wrapping

/-- What follows a value. -/
def back (wrapping : Wrapping) : Text := wrapping.closing ++ (wrapping.space ++ wrapping.comment)

/-- A value with what stands around it. -/
def around (wrapping : Wrapping) (value : Text) : Text :=
  wrapping.gap ++ (wrapping.opening ++ (value ++ wrapping.back))

theorem isTrailer_space (wrapping : Wrapping) :
    isTrailer (wrapping.space ++ wrapping.comment) = true :=
  isTrailer_iff.2 ⟨_, _, wrapping.space_blank, wrapping.comment_end, rfl⟩

/-- A value ends where it is written to end, and a quote there is one that closes it. -/
theorem dropQuote_back (wrapping : Wrapping) :
    (∀ c, wrapping.back.head? = some c → isValueChar c = false)
      ∧ dropQuote wrapping.back = wrapping.space ++ wrapping.comment := by
  have htrailer := wrapping.isTrailer_space
  unfold back
  rcases wrapping.closing_mark with hclosing | ⟨q, hq, hclosing⟩
  · rw [hclosing, List.nil_append]
    cases hrest : wrapping.space ++ wrapping.comment with
    | nil => exact ⟨fun c hc => by simp at hc, rfl⟩
    | cons d more =>
      rw [hrest] at htrailer
      obtain ⟨hchar, hquote⟩ := isTrailer_cons htrailer
      exact ⟨fun c hc => by simp_all, by simp [dropQuote, hquote]⟩
  · rw [hclosing]
    exact ⟨fun c hc => by simp_all [isValueChar], by simp [dropQuote, hq]⟩

end Wrapping

/-- A value is read back from between what may stand around it. -/
theorem value?_around {value : Text} (wrapping : Wrapping) (hvalue : IsValue value) :
    value? (wrapping.around value) = some value := by
  obtain ⟨c, rest, rfl⟩ := List.exists_cons_of_ne_nil hvalue.ne_nil
  have hc := hvalue.all c List.mem_cons_self
  have hbody : dropQuote (Text.dropBlanks (wrapping.around (c :: rest)))
      = c :: rest ++ wrapping.back := by
    rw [Wrapping.around, dropBlanks_append wrapping.gap_blank]
    rcases wrapping.opening_mark with hopening | ⟨q, hq, hopening⟩
    · rw [hopening, List.nil_append, List.cons_append,
        dropBlanks_of_not_blank (not_blank_of_isValueChar hc)]
      simp [dropQuote, not_quote_of_isValueChar hc]
    · rw [hopening, List.singleton_append, dropBlanks_of_not_blank (not_blank_of_isQuote hq)]
      simp [dropQuote, hq]
  obtain ⟨hstop, hback⟩ := wrapping.dropQuote_back
  have hnone : wrapping.back.takeWhile isValueChar = []
      ∧ wrapping.back.dropWhile isValueChar = wrapping.back := by
    cases hcons : wrapping.back with
    | nil => exact ⟨rfl, rfl⟩
    | cons d more =>
      have hd : isValueChar d = false := hstop d (by rw [hcons]; rfl)
      simp [hd]
  have htake : (c :: rest ++ wrapping.back).takeWhile isValueChar = c :: rest := by
    rw [List.takeWhile_append_of_pos hvalue.all, hnone.1, List.append_nil]
  have hdrop : (c :: rest ++ wrapping.back).dropWhile isValueChar = wrapping.back := by
    rw [List.dropWhile_append_of_pos hvalue.all, hnone.2]
  simp only [value?, hbody, htake, hdrop, hback, wrapping.isTrailer_space]
  rfl

/-- A bare value is read back from between blanks and what may follow it. -/
theorem value?_written {gap value back : Text} (hgap : ∀ c ∈ gap, Text.isBlank c = true)
    (hvalue : IsValue value) (hback : isTrailer back = true) :
    value? (gap ++ (value ++ back)) = some value := by
  obtain ⟨space, comment, hspace, hcomment, rfl⟩ := isTrailer_iff.1 hback
  exact value?_around
    ⟨gap, [], [], space, comment, hgap, .inl rfl, .inl rfl, hspace, hcomment⟩ hvalue

/-- The first character of a key does not stand before it, so the search comes to it. -/
theorem valueOf?_front {key front : Text} {first : Char} (hkey : key.head? = some first)
    (hfront : first ∉ front) (rest : Text) : valueOf? key (front ++ rest) = valueOf? key rest := by
  obtain ⟨more, rfl⟩ : ∃ more, key = first :: more := by
    cases key with
    | nil => simp at hkey
    | cons c more => exact ⟨more, by simpa using hkey⟩
  induction front with
  | nil => rfl
  | cons c front ih =>
    rw [List.mem_cons, not_or] at hfront
    rw [List.cons_append, valueOf?]
    simp [List.isPrefixOf?, hfront.1, ih hfront.2]

/-- A value is read back from behind its key. -/
theorem valueOf?_of_value? {key front rest value : Text} {first : Char}
    (hkey : key.head? = some first) (hfront : first ∉ front) (hvalue : value? rest = some value) :
    valueOf? key (front ++ (key ++ rest)) = some value := by
  rw [valueOf?_front hkey hfront]
  obtain ⟨more, rfl⟩ : ∃ more, key = first :: more := by
    cases key with
    | nil => simp at hkey
    | cons c more => exact ⟨more, by simpa using hkey⟩
  have hrest : (first :: more).isPrefixOf? ((first :: more) ++ rest) = some rest :=
    List.isPrefixOf?_eq_some_iff_append_eq.2 rfl
  rw [List.cons_append] at hrest ⊢
  rw [valueOf?, hrest, Option.bind_some, hvalue]

theorem valueOf?_append {key front value : Text} {first : Char} (hkey : key.head? = some first)
    (hfront : first ∉ front) (hvalue : IsValue value) :
    valueOf? key (front ++ key ++ ' ' :: value) = some value := by
  have hspace : ∀ c ∈ [' '], Text.isBlank c = true := List.forall_mem_singleton.2 (by decide)
  have hread : value? ([' '] ++ (value ++ [])) = some value := value?_written hspace hvalue rfl
  rw [List.append_assoc]
  exact valueOf?_of_value? hkey hfront (by simpa using hread)

/-- A line without a key has no value of it. -/
theorem valueOf?_eq_none {key line : Text} (h : Text.has key line = false) :
    valueOf? key line = none := by
  induction line with
  | nil => rfl
  | cons c rest ih =>
    rw [Text.has, Bool.or_eq_false_iff] at h
    have hkey : key.isPrefixOf? (c :: rest) = none := by
      by_contra hsome
      obtain ⟨more, hmore⟩ := Option.ne_none_iff_exists'.1 hsome
      rw [List.isPrefixOf?_eq_some_iff_append_eq] at hmore
      have hstart : key.isPrefixOf (c :: rest) = true :=
        List.isPrefixOf_iff_prefix.2 ⟨more, hmore⟩
      rw [h.1] at hstart
      exact absurd hstart (by decide)
    rw [valueOf?, hkey, Option.bind_none, ih h.2]

theorem has_of_valueOf? {key line value : Text} (h : valueOf? key line = some value) :
    Text.has key line = true := by
  by_contra hnone
  rw [valueOf?_eq_none (Bool.eq_false_iff.2 hnone)] at h
  exact absurd h (by simp)

/-! ## List items -/

/-- A list item shows what follows its dash. -/
theorem itemBody?_item {blanks : Text} (hblanks : ∀ c ∈ blanks, Text.isBlank c = true) {c : Char}
    (hc : Text.isBlank c = false) (rest : Text) :
    itemBody? (blanks ++ '-' :: ' ' :: c :: rest) = some (c :: rest) := by
  unfold itemBody?
  rw [dropBlanks_append hblanks, dropBlanks_of_not_blank (by decide)]
  simp only [dropBlanks_of_not_blank hc]
  rfl

/-- Whether a text starts with something that is no dash, its blanks apart. -/
def startsUndashed (text : Text) : Bool := (Text.dropBlanks text).head?.any fun c => c != '-'

/-- What starts with something else than a dash is no list item. -/
theorem itemBody?_eq_none {front : Text} (h : startsUndashed front = true) (rest : Text) :
    itemBody? (front ++ rest) = none := by
  obtain ⟨c, more, hdrop, hdash⟩ : ∃ c more, Text.dropBlanks front = c :: more ∧ c ≠ '-' := by
    unfold startsUndashed at h
    cases hdrop : Text.dropBlanks front with
    | nil => simp [hdrop] at h
    | cons c more => exact ⟨c, more, rfl, by simpa [hdrop] using h⟩
  have hboth : Text.dropBlanks (front ++ rest) = c :: (more ++ rest) := by
    unfold Text.dropBlanks at *
    rw [List.dropWhile_append, hdrop]
    rfl
  unfold itemBody?
  rw [hboth]
  simp [hdash]

theorem isNewItem_eq_false {line : Text} (h : itemBody? line = none) : isNewItem line = false := by
  rw [isNewItem, h]

theorem entryText?_eq_none {line : Text} (h : itemBody? line = none) : entryText? line = none := by
  rw [entryText?, afterEntryKey?, h]
  rfl

theorem isEntryOf_eq_false {line : Text} (h : itemBody? line = none) (name : Text) :
    isEntryOf name line = false := by
  rw [isEntryOf, afterEntryKey?, h]
  rfl

/-- What a `- name:` is written like: blanks, the dash, blanks and the key. -/
theorem afterEntryKey?_eq_some_iff {line rest : Text} :
    afterEntryKey? line = some rest
      ↔ ∃ front gap, (∀ c ∈ front, Text.isBlank c = true) ∧ gap ≠ []
        ∧ (∀ c ∈ gap, Text.isBlank c = true)
        ∧ line = front ++ '-' :: (gap ++ (Marker.name ++ rest)) := by
  unfold afterEntryKey?
  constructor
  · intro h
    obtain ⟨body, hbody, hrest⟩ := Option.bind_eq_some_iff.1 h
    rw [List.isPrefixOf?_eq_some_iff_append_eq] at hrest
    obtain ⟨front, hfront, hline⟩ := exists_dropBlanks line
    unfold itemBody? at hbody
    split at hbody
    · next blank more hdrop =>
      split at hbody
      · next hblank =>
        obtain ⟨blanks, hblanks, hmore⟩ := exists_dropBlanks more
        refine ⟨front, blank :: blanks, hfront, by simp, by simpa [hblank] using hblanks, ?_⟩
        rw [hline, hdrop, hrest, List.cons_append, ← Option.some.inj hbody, ← hmore]
      · exact absurd hbody (by simp)
    · exact absurd hbody (by simp)
  · rintro ⟨front, gap, hfront, hne, hgap, rfl⟩
    obtain ⟨blank, blanks, rfl⟩ := List.exists_cons_of_ne_nil hne
    have hkey : Text.dropBlanks (blanks ++ (Marker.name ++ rest)) = Marker.name ++ rest := by
      rw [dropBlanks_append fun c hc => hgap c (List.mem_cons_of_mem _ hc)]
      exact dropBlanks_of_not_blank (by decide) _
    have hbody : itemBody? (front ++ '-' :: (blank :: blanks ++ (Marker.name ++ rest)))
        = some (Marker.name ++ rest) := by
      rw [itemBody?, dropBlanks_append hfront, dropBlanks_of_not_blank (by decide)]
      simp [hgap blank List.mem_cons_self, hkey]
    rw [hbody, Option.bind_some, List.isPrefixOf?_eq_some_iff_append_eq]

theorem has_name_of_isEntry {line : Text} (h : isEntry line = true) :
    Text.has Marker.name line = true := by
  obtain ⟨written, hwritten⟩ := Option.isSome_iff_exists.1 h
  obtain ⟨rest, hrest, -⟩ := Option.bind_eq_some_iff.1 hwritten
  obtain ⟨front, gap, -, -, -, rfl⟩ := afterEntryKey?_eq_some_iff.1 hrest
  exact (Text.has_iff _ _).2 ⟨front ++ '-' :: gap, rest, by simp⟩

theorem startsWithName_eq_true_iff {name text : Text} :
    startsWithName name text = true ↔ ∃ back, isTrailer back = true ∧ text = name ++ back := by
  unfold startsWithName
  split
  · next rest hrest =>
    rw [List.isPrefixOf?_eq_some_iff_append_eq] at hrest
    constructor
    · exact fun h => ⟨rest, h, hrest.symm⟩
    · rintro ⟨back, hback, heq⟩
      rwa [← List.append_cancel_left (hrest.trans heq)] at hback
  · next hnone =>
    simp only [Bool.false_eq_true, false_iff]
    rintro ⟨back, -, rfl⟩
    rw [List.isPrefixOf?_eq_some_iff_append_eq.2 rfl] at hnone
    exact absurd hnone (by simp)

theorem holdsName_iff {name text : Text} :
    holdsName name text = true
      ↔ ∃ gap back, (∀ c ∈ gap, Text.isBlank c = true) ∧ isTrailer back = true
        ∧ text = gap ++ (name ++ back) := by
  induction text with
  | nil =>
    rw [holdsName, startsWithName_eq_true_iff]
    constructor
    · rintro ⟨back, hback, heq⟩
      exact ⟨[], back, by simp, hback, heq⟩
    · rintro ⟨gap, back, -, hback, heq⟩
      exact ⟨back, hback, by simp_all⟩
  | cons c text ih =>
    rw [holdsName, Bool.or_eq_true, Bool.and_eq_true, startsWithName_eq_true_iff, ih]
    constructor
    · rintro (⟨back, hback, heq⟩ | ⟨hc, gap, back, hgap, hback, rfl⟩)
      · exact ⟨[], back, by simp, hback, heq⟩
      · exact ⟨c :: gap, back, by simpa [hc] using hgap, hback, rfl⟩
    · rintro ⟨gap, back, hgap, hback, heq⟩
      cases gap with
      | nil => exact .inl ⟨back, hback, heq⟩
      | cons d gap =>
        obtain ⟨rfl, rfl⟩ := List.cons.inj heq
        exact .inr ⟨hgap c List.mem_cons_self, gap, back,
          fun d hd => hgap d (List.mem_cons_of_mem _ hd), hback, rfl⟩

/-- The entry of a name, as it may be written. -/
theorem isEntryOf_iff {name line : Text} :
    isEntryOf name line = true
      ↔ ∃ gap back, (∀ c ∈ gap, Text.isBlank c = true) ∧ isTrailer back = true
        ∧ afterEntryKey? line = some (gap ++ (name ++ back)) := by
  unfold isEntryOf
  cases afterEntryKey? line with
  | none => simp
  | some rest => simp only [holdsName_iff, Option.some.injEq]

/-- Neither blanks nor the dash of an entry can be taken for the start of its key. -/
theorem exists_front_of_afterEntryKey? {line rest : Text} (h : afterEntryKey? line = some rest) :
    ∃ front, 'n' ∉ front ∧ line = front ++ (Marker.name ++ rest) := by
  obtain ⟨front, space, hfront, -, hspace, rfl⟩ := afterEntryKey?_eq_some_iff.1 h
  refine ⟨front ++ '-' :: space, ?_, by simp⟩
  intro hmem
  rcases List.mem_append.1 hmem with hn | hn
  · exact absurd (hfront _ hn) (by decide)
  · rcases List.mem_cons.1 hn with hn | hn
    · exact absurd hn (by decide)
    · exact absurd (hspace _ hn) (by decide)

theorem isSuffix_of_afterEntryKey? {line rest : Text} (h : afterEntryKey? line = some rest) :
    rest <:+ line := by
  obtain ⟨front, -, rfl⟩ := exists_front_of_afterEntryKey? h
  exact ⟨front ++ Marker.name, List.append_assoc _ _ _⟩

/-- The text of an entry starts at the first character after its key that is no blank. -/
theorem entryText?_of_afterEntryKey? {line gap more : Text} {c : Char}
    (hafter : afterEntryKey? line = some (gap ++ c :: more))
    (hgap : ∀ c ∈ gap, Text.isBlank c = true) (hc : Text.isBlank c = false)
    (hnewline : '\n' ∉ c :: more) : entryText? line = some (c :: more) := by
  have hdrop : Text.dropBlanks (gap ++ c :: more) = c :: more := by
    rw [dropBlanks_append hgap, dropBlanks_of_not_blank hc]
  rw [entryText?, hafter, Option.bind_some, hdrop]
  simp only [List.contains_iff_mem, hnewline, if_false]

/-- Anything after the key makes an entry of a line, be it only a blank. -/
theorem isEntry_of_afterEntryKey? {line rest : Text} (hnewline : '\n' ∉ line)
    (hafter : afterEntryKey? line = some rest) (hne : rest ≠ []) : isEntry line = true := by
  have hrest : '\n' ∉ rest := fun hmem => hnewline ((isSuffix_of_afterEntryKey? hafter).mem hmem)
  obtain ⟨gap, hgap, hsplit⟩ := exists_dropBlanks rest
  cases hdrop : Text.dropBlanks rest with
  | nil =>
    -- only blanks follow, and the last of them is the text
    have hlast : rest.getLast hne ≠ '\n' := fun heq => hrest (heq ▸ List.getLast_mem hne)
    rw [isEntry, entryText?, hafter, Option.bind_some, hdrop]
    simp [List.getLast?_eq_some_getLast hne, hlast]
  | cons c more =>
    rw [hdrop] at hsplit
    have hc : Text.isBlank c = false := by
      have hhead := List.head?_dropWhile_not Text.isBlank rest
      rw [← Text.dropBlanks, hdrop] at hhead
      simpa using hhead
    rw [hsplit] at hafter hrest
    rw [isEntry, entryText?_of_afterEntryKey? hafter hgap hc fun hmem =>
      hrest (List.mem_append_right _ hmem)]
    rfl

theorem head?_name : Marker.name.head? = some 'n' := by decide

/-- A value right after the key of an entry is the name in that line. -/
theorem name?_of_afterEntryKey? {line rest value : Text} (hafter : afterEntryKey? line = some rest)
    (hvalue : value? rest = some value) : name? line = some value := by
  obtain ⟨front, hfront, rfl⟩ := exists_front_of_afterEntryKey? hafter
  exact valueOf?_of_value? head?_name hfront hvalue

/-- The entry of a name that can be written bare shows that name, and is an entry. -/
theorem name?_of_isEntryOf {name line : Text} (hname : IsValue name) (hnewline : '\n' ∉ line)
    (h : isEntryOf name line = true) : name? line = some name ∧ isEntry line = true := by
  obtain ⟨gap, back, hgap, hback, hafter⟩ := isEntryOf_iff.1 h
  have hne : gap ++ (name ++ back) ≠ [] := by simp [hname.ne_nil]
  exact ⟨name?_of_afterEntryKey? hafter (value?_written hgap hname hback),
    isEntry_of_afterEntryKey? hnewline hafter hne⟩

/-- A name written without blanks is followed by nothing else only if it is all there is: what
continues a name is no comment. -/
theorem startsWithName_iff {name value : Text} (hvalue : ∀ c ∈ value, isValueChar c = true) :
    startsWithName name value = true ↔ name = value := by
  unfold startsWithName
  constructor
  · intro h
    split at h
    · next rest hrest =>
      rw [List.isPrefixOf?_eq_some_iff_append_eq] at hrest
      cases rest with
      | nil => rw [← hrest, List.append_nil]
      | cons c rest =>
        -- the value goes on after the name, with a character that starts no comment
        have hc : isValueChar c = true := hvalue c (by rw [← hrest]; simp)
        have hhash : (c == '#') = false := by
          simp only [isValueChar, Bool.not_eq_true', Bool.or_eq_false_iff] at hc
          exact hc.1.2
        rw [isTrailer, dropBlanks_of_not_blank (not_blank_of_isValueChar hc)] at h
        simp [hhash] at h
    · exact absurd h (by simp)
  · rintro rfl
    have hself : name.isPrefixOf? name = some [] :=
      List.isPrefixOf?_eq_some_iff_append_eq.2 (List.append_nil name)
    rw [hself]
    rfl

section Entry

variable {blanks value : Text} (hblanks : ∀ c ∈ blanks, Text.isBlank c = true)

include hblanks

theorem afterEntryKey?_entry :
    afterEntryKey? (blanks ++ '-' :: ' ' :: (Marker.name ++ ' ' :: value))
      = some (' ' :: value) := by
  have hbody : itemBody? (blanks ++ '-' :: ' ' :: (Marker.name ++ ' ' :: value))
      = some (Marker.name ++ ' ' :: value) := itemBody?_item hblanks (by decide) _
  rw [afterEntryKey?, hbody, Option.bind_some]
  exact List.isPrefixOf?_eq_some_iff_append_eq.2 rfl

theorem entryText?_entry (hvalue : IsValue value) :
    entryText? (blanks ++ '-' :: ' ' :: (Marker.name ++ ' ' :: value)) = some value := by
  obtain ⟨c, rest, rfl⟩ := List.exists_cons_of_ne_nil hvalue.ne_nil
  have hc := not_blank_of_isValueChar (hvalue.all c List.mem_cons_self)
  have hspace : ∀ c ∈ [' '], Text.isBlank c = true := List.forall_mem_singleton.2 (by decide)
  have hnewline : '\n' ∉ c :: rest := fun hmem => absurd (hvalue.all _ hmem) (by decide)
  exact entryText?_of_afterEntryKey? (afterEntryKey?_entry hblanks) hspace hc hnewline

/-- The entry of a name written without blanks is the entry of that name and of no other. -/
theorem isEntryOf_entry_iff {name : Text} (hname : IsValue name) (hvalue : IsValue value) :
    isEntryOf name (blanks ++ '-' :: ' ' :: (Marker.name ++ ' ' :: value)) = true
      ↔ name = value := by
  -- neither name starts with a blank, so the two can only meet behind the one blank
  obtain ⟨c, more, rfl⟩ := List.exists_cons_of_ne_nil hname.ne_nil
  obtain ⟨d, rest, rfl⟩ := List.exists_cons_of_ne_nil hvalue.ne_nil
  have hc := not_blank_of_isValueChar (hname.all c List.mem_cons_self)
  have hd := not_blank_of_isValueChar (hvalue.all d List.mem_cons_self)
  have hspace : startsWithName (c :: more) (' ' :: d :: rest) = false := by
    have hne : c ≠ ' ' := by rintro rfl; exact absurd hc (by decide)
    simp [startsWithName, List.isPrefixOf?, hne]
  rw [isEntryOf, afterEntryKey?_entry hblanks]
  simp only [holdsName, hspace, hd, Bool.false_or, Bool.false_and, Bool.or_false]
  rw [← startsWithName_iff hvalue.all, show Text.isBlank ' ' = true from by decide, Bool.true_and]

end Entry

end Manifest

end WorkflowNav
