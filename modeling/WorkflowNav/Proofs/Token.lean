/-
The tokens of a line, exactly.

Tokens are taken from the left. At each character the search asks whether a token starts there, and
goes on after that token, or after the character if there is none. `TakenFrom` says just this, as a
relation between a text and its tokens, and `Fits` lists the shapes of a token. Only one list of
tokens is related to a text, the one that is computed (`takenFrom_iff`).

Quotes make it doubtful that a word can always be found. A quote may be closed far away, or not at
all, and an apostrophe inside a word opens a quotation like any other. But a plain character is no
quote. When the search comes to one, a run starts there; when it does not, the character lies in a
token that was taken before. So each plain character is in exactly one token, wherever the quotes
are, and a look-up by offset fails only where no token is near.
-/
import Mathlib.Data.List.Basic
import Mathlib.Data.List.TakeWhile
import WorkflowNav.Manifest.Token

set_option autoImplicit false

namespace WorkflowNav

namespace Text

theorem byteSize_append (one two : Text) : byteSize (one ++ two) = byteSize one + byteSize two := by
  induction one with
  | nil => rw [List.nil_append, byteSize, Nat.zero_add]
  | cons c one ih => rw [List.cons_append, byteSize, byteSize, ih, Nat.add_assoc]

theorem byteSize_pos {text : Text} (h : text ≠ []) : 0 < byteSize text := by
  cases text with
  | nil => exact absurd rfl h
  | cons c rest =>
    have hc := Char.utf8Size_pos c
    rw [byteSize]
    omega

end Text

namespace Manifest.Token

open Text (byteSize byteSize_append byteSize_pos)

/-! ## The shapes of a token -/

/-- A token can be taken from before a text. A quoted one ends at the next quote of its kind and has
something before that; a run ends where the text does not continue it. -/
inductive Fits : Text → Text → Prop
  | quoted {quote : Char} {body : Text} (rest : Text) (hquote : isQuote quote = true)
      (hbody : body ≠ []) (hinner : quote ∉ body) : Fits (quote :: (body ++ [quote])) rest
  | run {run rest : Text} (hne : run ≠ []) (hplain : ∀ c ∈ run, isPlain c = true)
      (hend : ∀ c, rest.head? = some c → isPlain c = false) : Fits run rest

theorem not_quote_of_isPlain {c : Char} (h : isPlain c = true) : isQuote c = false := by
  by_contra hquote
  rw [Bool.not_eq_false, isQuote, Bool.or_eq_true, beq_iff_eq, beq_iff_eq] at hquote
  rcases hquote with rfl | rfl
  · exact absurd h (by decide)
  · exact absurd h (by decide)

theorem Fits.ne_nil {token rest : Text} (h : Fits token rest) : token ≠ [] := by
  cases h with
  | quoted => exact List.cons_ne_nil _ _
  | run hne => exact hne

/-- A plain character starts a run. -/
theorem fits_takeWhile {c : Char} (hc : isPlain c = true) (rest : Text) :
    Fits ((c :: rest).takeWhile isPlain) ((c :: rest).dropWhile isPlain) := by
  refine .run ?_ (fun d hd => List.mem_takeWhile_imp hd) ?_
  · rw [List.takeWhile_cons_of_pos hc]
    exact List.cons_ne_nil _ _
  · intro d hd
    have hstop := List.head?_dropWhile_not isPlain (c :: rest)
    rw [hd] at hstop
    exact hstop

/-- What fits is what is found at the front. -/
theorem atFront_of_fits {token rest : Text} (h : Fits token rest) :
    atFront (token ++ rest) = token := by
  cases h with
  | @quoted quote body rest hquote hbody hinner =>
    have hbefore : ∀ c ∈ body, (c != quote) = true := by
      intro c hc
      rw [bne_iff_ne]
      rintro rfl
      exact hinner hc
    have htake : (body ++ ([quote] ++ rest)).takeWhile (· != quote) = body := by
      rw [List.takeWhile_append_of_pos hbefore, List.singleton_append,
        List.takeWhile_cons_of_neg (by simp), List.append_nil]
    rw [List.cons_append, List.append_assoc, atFront, if_pos hquote, htake]
    simp [hbody]
  | run hne hplain hend =>
    obtain ⟨c, more, rfl⟩ := List.exists_cons_of_ne_nil hne
    have hquote := not_quote_of_isPlain (hplain c List.mem_cons_self)
    have hrest : rest.takeWhile isPlain = [] := by
      cases rest with
      | nil => rfl
      | cons d rest => rw [List.takeWhile_cons_of_neg (by simp [hend d rfl])]
    rw [List.cons_append, atFront, if_neg (by simp [hquote]), ← List.cons_append,
      List.takeWhile_append_of_pos hplain, hrest, List.append_nil]

/-- What is found at the front fits. -/
theorem exists_fits_of_atFront {text : Text} (h : atFront text ≠ []) :
    ∃ rest, text = atFront text ++ rest ∧ Fits (atFront text) rest := by
  cases text with
  | nil => exact absurd rfl h
  | cons c rest =>
    rw [atFront] at h ⊢
    split at h
    · next hquote =>
      dsimp only at h ⊢
      split at h
      · next hclosed =>
        obtain ⟨hbody, hmem⟩ : rest.takeWhile (· != c) ≠ [] ∧ c ∈ rest := by
          simpa using hclosed
        have hinner : c ∉ rest.takeWhile (· != c) := by
          intro hc
          exact absurd (List.mem_takeWhile_imp hc) (by simp)
        -- the text goes on with the quote that closes the body
        obtain ⟨d, more, hdrop⟩ : ∃ d more, rest.dropWhile (· != c) = d :: more := by
          apply List.exists_cons_of_ne_nil
          intro hnil
          exact absurd (List.dropWhile_eq_nil_iff.1 hnil c hmem) (by simp)
        obtain rfl : d = c := by
          have hstop := List.head?_dropWhile_not (· != c) rest
          rw [hdrop] at hstop
          simpa using hstop
        rw [if_pos hquote, if_pos hclosed]
        refine ⟨more, ?_, .quoted more hquote hbody hinner⟩
        rw [List.cons_append, List.append_assoc, List.singleton_append, ← hdrop,
          List.takeWhile_append_dropWhile]
      · exact absurd rfl h
    · next hquote =>
      rw [if_neg hquote]
      have hc : isPlain c = true := by
        by_contra hnot
        rw [List.takeWhile_cons_of_neg hnot] at h
        exact h rfl
      exact ⟨_, List.takeWhile_append_dropWhile.symm, fits_takeWhile hc rest⟩

/-! ## Taking tokens from the left -/

/-- The tokens of a text that starts at a byte offset. Where one fits it is taken whole, and where
none fits a character is passed over. -/
inductive TakenFrom : Nat → Text → List Token → Prop
  | done (offset : Nat) : TakenFrom offset [] []
  | skip {offset : Nat} {c : Char} {rest : Text} {tokens : List Token}
      (hnone : ∀ token more, c :: rest = token ++ more → ¬ Fits token more)
      (h : TakenFrom (offset + c.utf8Size) rest tokens) : TakenFrom offset (c :: rest) tokens
  | take {offset : Nat} {token rest : Text} {tokens : List Token} (hfits : Fits token rest)
      (h : TakenFrom (offset + byteSize token) rest tokens) :
      TakenFrom offset (token ++ rest) (⟨offset, token⟩ :: tokens)

section Computed

variable {offset : Nat} {token rest : Text}

/-- The characters of a token that was taken are passed over. -/
theorem allFrom_length (offset : Nat) (front rest : Text) :
    allFrom offset front.length (front ++ rest) = allFrom (offset + byteSize front) 0 rest := by
  induction front generalizing offset with
  | nil => rfl
  | cons c front ih => rw [List.length_cons, List.cons_append, allFrom, ih, byteSize, Nat.add_assoc]

theorem allFrom_of_fits (h : Fits token rest) :
    allFrom offset 0 (token ++ rest)
      = ⟨offset, token⟩ :: allFrom (offset + byteSize token) 0 rest := by
  have hfront := atFront_of_fits h
  obtain ⟨c, more, rfl⟩ := List.exists_cons_of_ne_nil h.ne_nil
  rw [List.cons_append] at hfront ⊢
  rw [allFrom, hfront, byteSize, ← Nat.add_assoc, ← allFrom_length]

theorem allFrom_of_not_fits {c : Char}
    (h : ∀ token more, c :: rest = token ++ more → ¬ Fits token more) :
    allFrom offset 0 (c :: rest) = allFrom (offset + c.utf8Size) 0 rest := by
  have hfront : atFront (c :: rest) = [] := by
    by_contra hne
    obtain ⟨more, htext, hfits⟩ := exists_fits_of_atFront hne
    exact h _ more htext hfits
  rw [allFrom, hfront]

theorem takenFrom_allFrom (offset : Nat) (text : Text) :
    TakenFrom offset text (allFrom offset 0 text) := by
  -- a token is taken whole, so the induction is on the length of what is left
  induction hlength : text.length using Nat.strongRecOn generalizing offset text with
  | ind length ih =>
    cases text with
    | nil => exact .done offset
    | cons c rest =>
      by_cases hfits : ∃ token more, c :: rest = token ++ more ∧ Fits token more
      · obtain ⟨token, more, htext, hfits⟩ := hfits
        have hpos := List.length_pos_of_ne_nil hfits.ne_nil
        rw [htext, List.length_append] at hlength
        rw [htext, allFrom_of_fits hfits]
        exact .take hfits (ih more.length (by omega) _ more rfl)
      · have hnone : ∀ token more, c :: rest = token ++ more → ¬ Fits token more := by
          intro token more htext hfit
          exact hfits ⟨token, more, htext, hfit⟩
        rw [List.length_cons] at hlength
        rw [allFrom_of_not_fits hnone]
        exact .skip hnone (ih rest.length (by omega) _ rest rfl)

/-- **The tokens of a text are those that are taken from the left**, and no others are. -/
theorem takenFrom_iff {text : Text} {tokens : List Token} :
    TakenFrom offset text tokens ↔ tokens = allFrom offset 0 text := by
  constructor
  · intro h
    induction h with
    | done offset => rfl
    | skip hnone h ih => rw [allFrom_of_not_fits hnone, ih]
    | take hfits h ih => rw [allFrom_of_fits hfits, ih]
  · rintro rfl
    exact takenFrom_allFrom offset text

end Computed

/-! ## Where the tokens are -/

/-- A character that starts at a byte offset lies in the token. -/
def Covers (token : Token) (place : Nat) (c : Char) : Prop :=
  token.start ≤ place ∧ place + c.utf8Size ≤ token.stop

namespace TakenFrom

variable {offset : Nat} {text : Text} {tokens : List Token} {token : Token}

/-- A token is the part of the text at its place, in a shape that a token can have there. -/
theorem exists_fits (h : TakenFrom offset text tokens) (htoken : token ∈ tokens) :
    ∃ front rest, text = front ++ (token.text ++ rest) ∧ token.start = offset + byteSize front
      ∧ Fits token.text rest := by
  induction h with
  | done => exact absurd htoken List.not_mem_nil
  | @skip offset c rest tokens hnone h ih =>
    obtain ⟨front, more, htext, hstart, hfits⟩ := ih htoken
    refine ⟨c :: front, more, by rw [htext, List.cons_append], ?_, hfits⟩
    rw [hstart, byteSize, Nat.add_assoc]
  | @take offset first rest tokens hfits h ih =>
    rcases List.mem_cons.1 htoken with rfl | htoken
    · exact ⟨[], rest, rfl, rfl, hfits⟩
    · obtain ⟨front, more, htext, hstart, hfits⟩ := ih htoken
      refine ⟨first ++ front, more, by rw [htext, List.append_assoc], ?_, hfits⟩
      rw [hstart, byteSize_append, Nat.add_assoc]

theorem start_lt_stop (h : TakenFrom offset text tokens) (htoken : token ∈ tokens) :
    token.start < token.stop := by
  obtain ⟨front, rest, -, -, hfits⟩ := h.exists_fits htoken
  have hpos := byteSize_pos hfits.ne_nil
  rw [stop]
  omega

theorem pairwise (h : TakenFrom offset text tokens) :
    tokens.Pairwise fun one two => one.stop ≤ two.start := by
  induction h with
  | done => exact .nil
  | skip hnone h ih => exact ih
  | @take offset first rest tokens hfits h ih =>
    refine List.pairwise_cons.2 ⟨?_, ih⟩
    -- what comes later was taken from after the token
    intro two htwo
    obtain ⟨front, more, -, hstart, -⟩ := h.exists_fits htwo
    rw [hstart, stop]
    exact Nat.le_add_right _ _

/-- A plain character lies in a token. -/
theorem exists_covers (h : TakenFrom offset text tokens) {front back : Text} {c : Char}
    (htext : text = front ++ c :: back) (hc : isPlain c = true) :
    ∃ token ∈ tokens, token.Covers (offset + byteSize front) c := by
  induction h generalizing front with
  | done => exact absurd htext (by simp)
  | @skip offset d rest tokens hnone h ih =>
    cases front with
    | nil =>
      -- at a plain character the search does not go on without a token
      obtain ⟨rfl, rfl⟩ := List.cons.inj htext
      exact absurd (fits_takeWhile hc rest) (hnone _ _ List.takeWhile_append_dropWhile.symm)
    | cons first front =>
      obtain ⟨rfl, hrest⟩ := List.cons.inj htext
      obtain ⟨token, htoken, hcovers⟩ := ih hrest
      refine ⟨token, htoken, ?_⟩
      rwa [byteSize, ← Nat.add_assoc]
  | @take offset first rest tokens hfits h ih =>
    rcases List.append_eq_append_iff.1 htext with ⟨more, rfl, hrest⟩ | ⟨more, hfirst, hmore⟩
    · -- the character comes after the token
      obtain ⟨token, htoken, hcovers⟩ := ih hrest
      refine ⟨token, List.mem_cons_of_mem _ htoken, ?_⟩
      rwa [byteSize_append, ← Nat.add_assoc]
    · cases more with
      | nil =>
        -- it is the first one after the token
        obtain rfl : first = front := by rw [hfirst, List.append_nil]
        have hrest : rest = [] ++ c :: back := hmore.symm
        obtain ⟨token, htoken, hcovers⟩ := ih hrest
        exact ⟨token, List.mem_cons_of_mem _ htoken, hcovers⟩
      | cons d more =>
        -- it lies in the token
        obtain ⟨rfl, -⟩ := List.cons.inj hmore
        refine ⟨⟨offset, first⟩, List.mem_cons_self, Nat.le_add_right _ _, ?_⟩
        have hstop : stop ⟨offset, first⟩
            = offset + (byteSize front + (c.utf8Size + byteSize more)) := by
          rw [stop, hfirst, byteSize_append, byteSize]
        omega

/-- Of two tokens that are not the same, one ends before the other starts. -/
theorem eq_or_stop_le (h : TakenFrom offset text tokens) {one two : Token} (hone : one ∈ tokens)
    (htwo : two ∈ tokens) : one = two ∨ one.stop ≤ two.start ∨ two.stop ≤ one.start := by
  obtain ⟨before, after, rfl⟩ := List.append_of_mem hone
  obtain ⟨-, hafter, hbefore⟩ := List.pairwise_append.1 h.pairwise
  rcases List.mem_append.1 htwo with hmem | hmem
  · exact .inr (.inr (hbefore two hmem one List.mem_cons_self))
  · rcases List.mem_cons.1 hmem with rfl | hmem
    · exact .inl rfl
    · exact .inr (.inl ((List.pairwise_cons.1 hafter).1 two hmem))

/-- A plain character lies in exactly one token. -/
theorem existsUnique_covers (h : TakenFrom offset text tokens) {front back : Text} {c : Char}
    (htext : text = front ++ c :: back) (hc : isPlain c = true) :
    ∃! token, token ∈ tokens ∧ token.Covers (offset + byteSize front) c := by
  obtain ⟨token, htoken, hstart, hstop⟩ := h.exists_covers htext hc
  refine ⟨token, ⟨htoken, hstart, hstop⟩, ?_⟩
  rintro other ⟨hother, hstart', hstop'⟩
  -- a character has some bytes, which cannot be both before and after the same place
  have hsize := Char.utf8Size_pos c
  rcases h.eq_or_stop_le hother htoken with heq | hle | hle
  · exact heq
  · omega
  · omega

end TakenFrom

/-! ## Looking up an offset -/

section Lookup

variable {line : Text} {token : Token} {offset : Nat}

theorem takenFrom_all (line : Text) : TakenFrom 0 line (all line) := takenFrom_iff.2 rfl

theorem touches_iff : token.touches offset = true ↔ token.start ≤ offset ∧ offset ≤ token.stop := by
  rw [touches, Bool.and_eq_true, decide_eq_true_eq, decide_eq_true_eq]

/-- A token that touches an offset is found there if those before it have ended earlier. -/
theorem at?_eq_some_bare (htoken : token ∈ all line) (htouches : token.touches offset = true)
    (hbefore : ∀ other ∈ all line, other.stop ≤ token.start → other.stop < offset) :
    at? line offset = some token.bare := by
  have hfind : (all line).find? (·.touches offset) = some token := by
    have hpairwise := (takenFrom_all line).pairwise
    obtain ⟨before, after, hall⟩ := List.append_of_mem htoken
    rw [hall] at hpairwise
    refine List.find?_eq_some_iff_append.2 ⟨htouches, before, after, hall, ?_⟩
    intro other hother
    have hle := (List.pairwise_append.1 hpairwise).2.2 other hother token List.mem_cons_self
    have hended := hbefore other (by rw [hall]; exact List.mem_append_left _ hother) hle
    rw [Bool.not_eq_true', Bool.eq_false_iff]
    intro hother
    have hreach := (touches_iff.1 hother).2
    omega
  rw [at?, hfind, Option.map_some]

/-- At an offset after its start, a token is found also where the next one starts. -/
theorem at?_of_start_lt (htoken : token ∈ all line) (hstart : token.start < offset)
    (hstop : offset ≤ token.stop) : at? line offset = some token.bare := by
  apply at?_eq_some_bare htoken (touches_iff.2 ⟨Nat.le_of_lt hstart, hstop⟩)
  intro other _ hle
  exact Nat.lt_of_le_of_lt hle hstart

theorem at?_eq_none_iff_touches :
    at? line offset = none ↔ ∀ token ∈ all line, ¬ token.touches offset = true := by
  rw [at?, Option.map_eq_none_iff, List.find?_eq_none]

end Lookup

/-! ## Every identifier can be looked up -/

/-- The tokens of a line, as they are found from the left. -/
structure AreTokensOf (line : Text) (tokens : List Token) : Prop where
  /-- They are taken from the left, and no other list of tokens is. -/
  taken_iff : ∀ others, TakenFrom 0 line others ↔ others = tokens
  /-- None is empty, and each stands in the line at its offset. -/
  part : ∀ token ∈ tokens, token.text ≠ []
    ∧ ∃ front rest, line = front ++ (token.text ++ rest) ∧ token.start = byteSize front
  /-- They stand in order, and none reaches into the next. -/
  apart : tokens.Pairwise fun one two => one.stop ≤ two.start
  /-- Every plain character lies in exactly one of them. -/
  covered : ∀ front c back, line = front ++ c :: back → isPlain c = true →
    ∃! token, token ∈ tokens ∧ token.Covers (byteSize front) c

/-- A look-up by offset gives the bare text of a token that is there. -/
structure LooksUp (line : Text) (tokens : List Token) (lookup : Nat → Option Text) : Prop where
  /-- Something is found at, in and right after a plain character. -/
  plain : ∀ front c back, line = front ++ c :: back → isPlain c = true →
    ∀ offset, byteSize front ≤ offset → offset ≤ byteSize front + c.utf8Size →
      ∃ text, lookup offset = some text
  /-- Inside a token it is that token. -/
  inside : ∀ token ∈ tokens, ∀ offset, token.start < offset → offset < token.stop →
    lookup offset = some token.bare
  /-- Where two tokens meet it is the left one. -/
  left : ∀ one ∈ tokens, ∀ two ∈ tokens, ∀ offset, one.stop = offset → two.start = offset →
    lookup offset = some one.bare
  /-- Where there is only one token, inside or at an edge, it is that one. -/
  only : ∀ token ∈ tokens, ∀ offset, token.start ≤ offset → offset ≤ token.stop →
    (∀ other ∈ tokens, other.start ≤ offset → offset ≤ other.stop → other = token) →
    lookup offset = some token.bare
  /-- Nothing is found only where no token is. -/
  none_iff : ∀ offset, lookup offset = none
    ↔ ∀ token ∈ tokens, ¬ (token.start ≤ offset ∧ offset ≤ token.stop)

theorem areTokensOf_all (line : Text) : AreTokensOf line (all line) where
  taken_iff := fun _ => takenFrom_iff
  part := by
    intro token htoken
    obtain ⟨front, rest, hline, hstart, hfits⟩ := (takenFrom_all line).exists_fits htoken
    exact ⟨hfits.ne_nil, front, rest, hline, by rw [hstart, Nat.zero_add]⟩
  apart := (takenFrom_all line).pairwise
  covered := by
    intro front c back hline hc
    have hunique := (takenFrom_all line).existsUnique_covers hline hc
    rwa [Nat.zero_add] at hunique

theorem looksUp_at? (line : Text) : LooksUp line (all line) (at? line) where
  plain := by
    intro front c back hline hc offset hlo hhi
    -- the token that has the character touches all of its offsets
    obtain ⟨token, ⟨htoken, hstart, hstop⟩, -⟩ :=
      (areTokensOf_all line).covered front c back hline hc
    rw [← Option.ne_none_iff_exists', ne_eq, at?_eq_none_iff_touches]
    intro hnone
    exact hnone token htoken (touches_iff.2 ⟨by omega, by omega⟩)
  inside := by
    intro token htoken offset hstart hstop
    exact at?_of_start_lt htoken hstart (Nat.le_of_lt hstop)
  left := by
    intro one hone two _ offset hstop _
    have hlt := (takenFrom_all line).start_lt_stop hone
    exact at?_of_start_lt hone (by omega) (by omega)
  only := by
    intro token htoken offset hstart hstop honly
    apply at?_eq_some_bare htoken (touches_iff.2 ⟨hstart, hstop⟩)
    intro other hother hle
    by_contra hnot
    -- one that ends right at the offset would be there too
    have hlt := (takenFrom_all line).start_lt_stop hother
    obtain rfl := honly other hother (by omega) (by omega)
    omega
  none_iff := by
    intro offset
    rw [at?_eq_none_iff_touches]
    simp only [touches_iff]

/-- **Every identifier can be looked up.** The tokens of a line are what is taken from the left:
none is empty, they stand apart and in order, and every word character or hyphen is in exactly one.
So a look-up finds something at each of these. Inside a token it finds that token, where two meet
the left one, and nothing only where no token is. -/
theorem identifiers_looked_up (line : Text) :
    AreTokensOf line (all line) ∧ LooksUp line (all line) (at? line) :=
  ⟨areTokensOf_all line, looksUp_at? line⟩

/-- A letter of two bytes, a quoted apostrophe and a quote that is not closed. -/
def exampleLine : Text := "ñ\"a'\"b'".toList

/-- The tokens meet, the apostrophe in the second is no quote, and the last one opens nothing. -/
theorem identifiers_looked_up_mixed :
    all exampleLine = [⟨0, "ñ".toList⟩, ⟨2, "\"a'\"".toList⟩, ⟨6, "b".toList⟩]
      ∧ (∃! token, token ∈ all exampleLine ∧ token.Covers 0 'ñ')
      ∧ (∃ text, at? exampleLine 1 = some text)
      ∧ at? exampleLine 3 = some "a".toList
      ∧ at? exampleLine 2 = some "ñ".toList
      ∧ at? exampleLine 6 = some "a".toList
      ∧ at? exampleLine 7 = some "b".toList
      ∧ at? exampleLine 8 = none := by
  have hall : all exampleLine = [⟨0, "ñ".toList⟩, ⟨2, "\"a'\"".toList⟩, ⟨6, "b".toList⟩] := by
    decide +kernel
  have hplain : isPlain 'ñ' = true := by decide +kernel
  obtain ⟨htokens, hlookup⟩ := identifiers_looked_up exampleLine
  have hcovered := htokens.covered [] 'ñ' "\"a'\"b'".toList rfl hplain
  have hfound := hlookup.plain [] 'ñ' "\"a'\"b'".toList rfl hplain 1 (by decide) (by decide)
  have hinside := hlookup.inside
  have hleft := hlookup.left
  have honly := hlookup.only
  have hnone := hlookup.none_iff 8
  rw [hall] at hinside hleft honly hnone
  refine ⟨hall, hcovered, hfound, ?_, ?_, ?_, ?_, ?_⟩
  · exact hinside ⟨2, "\"a'\"".toList⟩ (by decide) 3 (by decide) (by decide)
  · exact hleft ⟨0, "ñ".toList⟩ (by decide) ⟨2, "\"a'\"".toList⟩ (by decide) 2 rfl rfl
  · exact hleft ⟨2, "\"a'\"".toList⟩ (by decide) ⟨6, "b".toList⟩ (by decide) 6 rfl rfl
  · exact honly ⟨6, "b".toList⟩ (by decide) 7 (by decide) (by decide) (by decide)
  · exact hnone.2 (by decide)

end Manifest.Token

end WorkflowNav
