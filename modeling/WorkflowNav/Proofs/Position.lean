/-
Searches over the lines of a manifest, exactly.

Where `Block` says what a search finds in lines that were written for it, here every search is told
by positions for any lines at all: what has to stand at the position it gives, and what may not
stand before it. `LineAt` is the one way to speak of a line by its position.

A search that tries several places in order, such as the kind lines of a file, gives the first that
answers (`findSome?_of_pairwise`). So what a search for a template gives comes from one kind line,
with one name line (`EntryVia`).
-/
import Mathlib.Data.Nat.Find
import Mathlib.Order.Bounds.Defs
import WorkflowNav.Proofs.Block

set_option autoImplicit false

namespace WorkflowNav

namespace Manifest

/-! ## Lines at positions -/

/-- The line at a position passes a test. -/
def LineAt (test : Text → Bool) (lines : List Text) (i : Nat) : Prop :=
  ∃ line, lines[i]? = some line ∧ test line = true

/-- The name that can be read in the line at a position. -/
def nameAt? (lines : List Text) (i : Nat) : Option Text := lines[i]?.bind name?

/-- The template that can be read in the line at a position. -/
def templateAt? (lines : List Text) (i : Nat) : Option Text := lines[i]?.bind template?

/-- The name that can be read in the line at a position, unless it is a `template:` line. -/
def siblingAt? (lines : List Text) (i : Nat) : Option Text :=
  lines[i]?.bind fun line => if Text.has Marker.template line then none else name? line

section LineAt

variable {test : Text → Bool} {lines : List Text} {i : Nat}

instance : Decidable (LineAt test lines i) :=
  decidable_of_iff (lines[i]?.any test = true) (by simp [LineAt, Option.any_eq_true])

theorem lineAt_iff {line : Text} (hline : lines[i]? = some line) :
    LineAt test lines i ↔ test line = true := by
  simp [LineAt, hline]

theorem LineAt.lt_length (h : LineAt test lines i) : i < lines.length := by
  obtain ⟨line, hline, -⟩ := h
  exact (List.getElem?_eq_some_iff.1 hline).1

/-- Of the lines that pass before a position, one is the nearest. -/
theorem LineAt.exists_nearest {k : Nat} (h : LineAt test lines k) (hki : k < i) :
    ∃ near, k ≤ near ∧ near < i ∧ LineAt test lines near
      ∧ ∀ m, near < m → m < i → ¬ LineAt test lines m := by
  have hle : k ≤ i - 1 := Nat.le_sub_one_of_lt hki
  refine ⟨Nat.findGreatest (LineAt test lines) (i - 1), Nat.le_findGreatest hle h, ?_,
    Nat.findGreatest_spec hle h, fun m hnear hmi => ?_⟩
  · have hbound := Nat.findGreatest_le (P := LineAt test lines) (i - 1)
    omega
  · exact Nat.findGreatest_is_greatest hnear (Nat.le_sub_one_of_lt hmi)

end LineAt

section Stretch

variable {lines : List Text} {lo count : Nat}

private theorem getElem?_take_drop {q : Nat} (hq : q < count) :
    ((lines.drop lo).take count)[q]? = lines[lo + q]? := by
  rw [List.getElem?_take, if_pos hq, List.getElem?_drop]

/-- Nothing can be read from the lines of a stretch. -/
theorem findSome?_stretch_eq_none {β : Type} {read : Text → Option β} :
    ((lines.drop lo).take count).findSome? read = none
      ↔ ∀ m, lo ≤ m → m < lo + count → lines[m]?.bind read = none := by
  rw [List.findSome?_eq_none_iff]
  constructor
  · intro hnone m hlo hhi
    cases hline : lines[m]? with
    | none => rfl
    | some line =>
      obtain ⟨q, rfl⟩ : ∃ q, m = lo + q := ⟨m - lo, by omega⟩
      have hq : q < count := by omega
      rw [← getElem?_take_drop hq] at hline
      exact hnone line (List.mem_of_getElem? hline)
  · intro hnone line hline
    obtain ⟨q, hq⟩ := List.getElem?_of_mem hline
    have hcount : q < count := by
      have hlength := (List.getElem?_eq_some_iff.1 hq).1
      rw [List.length_take] at hlength
      omega
    rw [getElem?_take_drop hcount] at hq
    simpa [hq] using hnone (lo + q) (Nat.le_add_right _ _) (by omega)

/-- The first element from which something can be read, told by its position. -/
theorem findSome?_eq_some_iff_getElem? {α β : Type} {xs : List α} {read : α → Option β}
    {b : β} :
    xs.findSome? read = some b
      ↔ ∃ q : Nat, xs[q]?.bind read = some b ∧ ∀ p, p < q → xs[p]?.bind read = none := by
  induction xs with
  | nil => simp
  | cons x xs ih =>
    rw [List.findSome?_cons]
    cases hx : read x with
    | some a =>
      constructor
      · intro h
        exact ⟨0, by simpa [hx] using h, by simp⟩
      · rintro ⟨q, hq, hbefore⟩
        cases q with
        | zero => simpa [hx] using hq
        | succ q => simpa [hx] using hbefore 0 (Nat.zero_lt_succ q)
    | none =>
      rw [ih]
      constructor
      · rintro ⟨q, hq, hbefore⟩
        refine ⟨q + 1, by simpa using hq, fun p hp => ?_⟩
        cases p with
        | zero => simpa using hx
        | succ p => simpa using hbefore p (Nat.lt_of_succ_lt_succ hp)
      · rintro ⟨q, hq, hbefore⟩
        cases q with
        | zero => simp [hx] at hq
        | succ q =>
          exact ⟨q, by simpa using hq, fun p hp => by
            simpa using hbefore (p + 1) (Nat.succ_lt_succ hp)⟩

/-- The first line of a stretch from which something can be read. -/
theorem findSome?_stretch {β : Type} {read : Text → Option β} {b : β} :
    ((lines.drop lo).take count).findSome? read = some b
      ↔ ∃ n, lo ≤ n ∧ n < lo + count ∧ lines[n]?.bind read = some b
        ∧ ∀ m, lo ≤ m → m < n → lines[m]?.bind read = none := by
  rw [findSome?_eq_some_iff_getElem?]
  constructor
  · rintro ⟨q, hread, hbefore⟩
    have hq : q < count := by
      by_contra hout
      rw [List.getElem?_take, if_neg hout] at hread
      exact absurd hread (by simp)
    rw [getElem?_take_drop hq] at hread
    refine ⟨lo + q, Nat.le_add_right _ _, by omega, hread, fun m hlo hm => ?_⟩
    obtain ⟨p, rfl⟩ : ∃ p, m = lo + p := ⟨m - lo, by omega⟩
    have hp : p < count := by omega
    rw [← getElem?_take_drop hp]
    exact hbefore p (by omega)
  · rintro ⟨n, hlo, hhi, hread, hbefore⟩
    obtain ⟨q, rfl⟩ : ∃ q, n = lo + q := ⟨n - lo, by omega⟩
    have hq : q < count := by omega
    refine ⟨q, by rwa [getElem?_take_drop hq], fun p hp => ?_⟩
    rw [getElem?_take_drop (Nat.lt_trans hp hq)]
    exact hbefore (lo + p) (Nat.le_add_right _ _) (by omega)

end Stretch

theorem lineAt_or {one two : Text → Bool} {lines : List Text} {i : Nat} :
    LineAt (fun line => one line || two line) lines i
      ↔ LineAt one lines i ∨ LineAt two lines i := by
  simp only [LineAt, Bool.or_eq_true, and_or_left, exists_or]

theorem findSome?_congr {α β : Type} {xs : List α} {read other : α → Option β}
    (h : ∀ x ∈ xs, read x = other x) : xs.findSome? read = xs.findSome? other := by
  induction xs with
  | nil => rfl
  | cons x xs ih =>
    rw [List.findSome?_cons, List.findSome?_cons, h x List.mem_cons_self,
      ih fun y hy => h y (List.mem_cons_of_mem x hy)]

/-- In a list that is in order, the first element from which something can be read. -/
theorem findSome?_of_pairwise {α β : Type} {r : α → α → Prop} {xs : List α}
    (hpairwise : xs.Pairwise r) (hasymm : ∀ a b, r a b → ¬ r b a) {read : α → Option β} {b : β} :
    xs.findSome? read = some b
      ↔ ∃ x ∈ xs, read x = some b ∧ ∀ y ∈ xs, r y x → read y = none := by
  rw [List.findSome?_eq_some_iff]
  constructor
  · rintro ⟨before, x, after, rfl, hread, hbefore⟩
    refine ⟨x, by simp, hread, fun y hy hyx => ?_⟩
    rw [List.pairwise_append, List.pairwise_cons] at hpairwise
    rcases List.mem_append.1 hy with hy | hy
    · exact hbefore y hy
    · rcases List.mem_cons.1 hy with rfl | hy
      · exact absurd hyx (hasymm y y hyx)
      · exact absurd hyx (hasymm _ _ (hpairwise.2.1.1 y hy))
  · rintro ⟨x, hx, hread, hbefore⟩
    obtain ⟨before, after, rfl⟩ := List.append_of_mem hx
    refine ⟨before, x, after, rfl, hread, fun y hy => hbefore y (by simp [hy]) ?_⟩
    exact (List.pairwise_append.1 hpairwise).2.2 y hy x List.mem_cons_self

/-! ## Definitions -/

section Definitions

variable {lines : List Text} {name owner template : Text} {start k n j : Nat}

/-- The name in the metadata: it follows a `metadata:` line, and nothing from the start on does so
earlier. -/
theorem metadataName?_eq_some_iff :
    metadataName? lines start name = some j
      ↔ start ≤ j ∧ 0 < j ∧ LineAt (Text.has Marker.metadata) lines (j - 1)
        ∧ nameAt? lines j = some name
        ∧ ∀ m, start ≤ m → 0 < m → m < j → LineAt (Text.has Marker.metadata) lines (m - 1) →
          nameAt? lines m ≠ some name := by
  have hpair : ∀ i, (∃ pair, (adjacent lines)[i]? = some pair
        ∧ (Text.has Marker.metadata pair.1 && name? pair.2 == some name) = true)
      ↔ LineAt (Text.has Marker.metadata) lines i ∧ nameAt? lines (i + 1) = some name := by
    intro i
    simp only [Prod.exists, getElem?_adjacent, Bool.and_eq_true, beq_iff_eq, LineAt, nameAt?,
      Option.bind_eq_some_iff]
    constructor
    · rintro ⟨previous, line, ⟨hprevious, hline⟩, hhas, hname⟩
      exact ⟨⟨previous, hprevious, hhas⟩, line, hline, hname⟩
    · rintro ⟨⟨previous, hprevious, hhas⟩, line, hline, hname⟩
      exact ⟨previous, line, ⟨hprevious, hline⟩, hhas, hname⟩
  rw [metadataName?, Option.map_eq_some_iff]
  constructor
  · rintro ⟨i, hfirst, rfl⟩
    obtain ⟨hlo, -, hfound, hbefore⟩ := firstIn_eq_some_iff.1 hfirst
    obtain ⟨hmetadata, hname⟩ := (hpair i).1 hfound
    refine ⟨by omega, by omega, hmetadata, hname, fun m hstart hpos hm hmeta hother => ?_⟩
    obtain ⟨q, rfl⟩ : ∃ q, m = q + 1 := ⟨m - 1, by omega⟩
    obtain ⟨pair, hget, htest⟩ := (hpair q).2 ⟨hmeta, hother⟩
    have hfalse := hbefore q pair (by omega) (by omega) hget
    exact absurd (htest.symm.trans hfalse) (by decide)
  · rintro ⟨hstart, hpos, hmetadata, hname, hbefore⟩
    obtain ⟨i, rfl⟩ : ∃ i, j = i + 1 := ⟨j - 1, by omega⟩
    refine ⟨i, firstIn_eq_some_iff.2 ⟨by omega, hmetadata.lt_length,
      (hpair i).2 ⟨hmetadata, hname⟩, fun q pair hlo hq hget => ?_⟩, rfl⟩
    by_contra htest
    obtain ⟨hmeta, hother⟩ := (hpair q).1 ⟨pair, hget, Bool.not_eq_false _ ▸ htest⟩
    exact hbefore (q + 1) (by omega) (by omega) (by omega) hmeta hother

/-- The search for the definitions of a name reports a line for a kind line. -/
structure DefinedVia (lines : List Text) (name : Text) (k j : Nat) : Prop where
  kind : k ∈ kindLines lines
  name : metadataName? lines k name = some j

theorem mem_definitionPositions :
    j ∈ definitionPositions lines name ↔ ∃ k, DefinedVia lines name k j := by
  rw [definitionPositions, List.mem_filterMap]
  exact ⟨fun ⟨k, hkind, hname⟩ => ⟨k, hkind, hname⟩, fun ⟨k, h⟩ => ⟨k, h.kind, h.name⟩⟩

/-- The search for a template reports its entry for a kind line and the name line of that block: it
is the first kind line whose block has an entry. -/
structure EntryVia (lines : List Text) (owner template : Text) (k n j : Nat) : Prop where
  kind : k ∈ kindLines lines
  name : metadataName? lines k owner = some n
  entry : entryInBlock? lines owner template k = some j
  first : ∀ other ∈ kindLines lines, other < k → entryInBlock? lines owner template other = none

/-- What the search for a template gives, it gives for one kind line and one name line. -/
theorem templatePosition?_eq_some_iff :
    templatePosition? lines owner template = some j
      ↔ ∃ k n, EntryVia lines owner template k n j := by
  have hpairwise : (kindLines lines).Pairwise (· < ·) := pairwise_linesWith _ lines
  rw [templatePosition?, findSome?_of_pairwise hpairwise fun a b hab hba => by omega]
  constructor
  · rintro ⟨k, hkind, hentry, hfirst⟩
    cases hname : metadataName? lines k owner with
    | none => simp [entryInBlock?, hname] at hentry
    | some n => exact ⟨k, n, hkind, hname, hentry, hfirst⟩
  · rintro ⟨k, n, h⟩
    exact ⟨k, h.kind, h.entry, h.first⟩

/-- An entry is an entry, below its kind line. -/
theorem EntryVia.lineAt (h : EntryVia lines owner template k n j) :
    k < j ∧ LineAt (isEntryOf template) lines j := by
  have hentry := h.entry
  rw [entryInBlock?, h.name] at hentry
  dsimp only at hentry
  split at hentry
  · obtain ⟨s, hsection, hfound⟩ := Option.bind_eq_some_iff.1 hentry
    obtain ⟨hks, -⟩ := firstIn_eq_some_iff.1 hsection
    obtain ⟨hsj, -, hline, -⟩ := firstIn_eq_some_iff.1 hfound
    exact ⟨by omega, hline⟩
  · exact absurd hentry (by simp)

end Definitions

/-! ## Reference blocks -/

section References

variable {lines : List Text} {i : Nat}

/-- A line belongs to the block of the `templateRef:` at a position: it is one of the next ten
lines, and no new list item comes from the second of these up to it. -/
structure InRefBlock (lines : List Text) (i j : Nat) : Prop where
  below : i < j
  reach : j ≤ i + 10
  lt_length : j < lines.length
  uncut : ∀ m, i + 2 ≤ m → m ≤ j → ¬ LineAt isNewItem lines m

/-- A block has no gaps. -/
theorem InRefBlock.of_le {j m : Nat} (h : InRefBlock lines i j) (him : i < m) (hmj : m ≤ j) :
    InRefBlock lines i m where
  below := him
  reach := Nat.le_trans hmj h.reach
  lt_length := Nat.lt_of_le_of_lt hmj h.lt_length
  uncut := fun p hlo hhi => h.uncut p hlo (Nat.le_trans hhi hmj)

/-- What stands before the first element that fails a test. -/
theorem getElem?_takeWhile {α : Type} {xs : List α} {test : α → Bool} {q : Nat} {x : α} :
    (xs.takeWhile test)[q]? = some x
      ↔ xs[q]? = some x ∧ ∀ p y, p ≤ q → xs[p]? = some y → test y = true := by
  induction xs generalizing q with
  | nil => simp
  | cons a xs ih =>
    by_cases ha : test a = true
    · rw [List.takeWhile_cons_of_pos ha]
      cases q with
      | zero => simp_all
      | succ q =>
        rw [List.getElem?_cons_succ, List.getElem?_cons_succ, ih]
        refine and_congr_right fun _ => ⟨fun h p y hp hy => ?_, fun h p y hp hy => ?_⟩
        · cases p with
          | zero => simp_all
          | succ p => exact h p y (by omega) (by simpa using hy)
        · exact h (p + 1) y (by omega) (by simpa using hy)
    · rw [List.takeWhile_cons_of_neg ha]
      exact ⟨fun h => absurd h (by simp), fun h => absurd (h.2 0 a (Nat.zero_le q) rfl) ha⟩

/-- The lines that may belong to a block, before it is cut. -/
theorem getElem?_refWindow {q m : Nat} {line : Text} :
    ((lines.zipIdx.drop (i + 1)).take refBlockLines)[q]? = some (line, m)
      ↔ q < 10 ∧ m = i + 1 + q ∧ lines[m]? = some line := by
  rw [List.getElem?_take, refBlockLines]
  by_cases hq : q < 10
  · rw [if_pos hq, List.getElem?_drop, List.getElem?_zipIdx, Option.map_eq_some_iff]
    constructor
    · rintro ⟨other, hother, heq⟩
      obtain ⟨rfl, rfl⟩ : other = line ∧ 0 + (i + 1 + q) = m := by simpa using heq
      exact ⟨hq, Nat.zero_add _, by rwa [Nat.zero_add]⟩
    · rintro ⟨-, rfl, hline⟩
      exact ⟨line, hline, by simp⟩
  · simp [hq]

/-- The lines of a block, by their places in it. -/
theorem getElem?_refBody {q m : Nat} {line : Text} :
    (refBody lines i)[q]? = some (line, m)
      ↔ m = i + 1 + q ∧ InRefBlock lines i m ∧ lines[m]? = some line := by
  have hwindow := @getElem?_refWindow lines i
  unfold refBody
  split
  · next hnil =>
    rw [hnil] at hwindow
    refine ⟨fun h => absurd h (by simp), ?_⟩
    rintro ⟨-, hblock, -⟩
    -- a block with a line in it has a first line
    have hfirst : i + 1 < lines.length := Nat.lt_of_le_of_lt hblock.below hblock.lt_length
    have hget := (@hwindow 0 (i + 1) _).2 ⟨by decide, rfl, List.getElem?_eq_getElem hfirst⟩
    exact absurd hget (by simp)
  · next first rest hcons =>
    rw [hcons] at hwindow
    cases q with
    | zero =>
      have hget := @hwindow 0 m line
      rw [List.getElem?_cons_zero] at hget ⊢
      rw [hget]
      constructor
      · rintro ⟨-, rfl, hline⟩
        have hlength := (List.getElem?_eq_some_iff.1 hline).1
        exact ⟨rfl, ⟨by omega, by omega, hlength, fun p hlo hhi => by omega⟩, hline⟩
      · rintro ⟨hm, -, hline⟩
        exact ⟨by decide, hm, hline⟩
    | succ q =>
      have hrest : ∀ p n other, rest[p]? = some (other, n)
          ↔ p + 1 < 10 ∧ n = i + 1 + (p + 1) ∧ lines[n]? = some other := by
        intro p n other
        rw [← hwindow, List.getElem?_cons_succ]
      rw [List.getElem?_cons_succ, getElem?_takeWhile, hrest]
      constructor
      · rintro ⟨⟨hq, hm, hline⟩, hpass⟩
        have hlength := (List.getElem?_eq_some_iff.1 hline).1
        refine ⟨hm, ⟨by omega, by omega, hlength, ?_⟩, hline⟩
        rintro n hlo hhi ⟨other, hother, hnew⟩
        have hthere := (hrest (n - (i + 2)) n other).2 ⟨by omega, by omega, hother⟩
        have hold := hpass _ _ (by omega) hthere
        simp [hnew] at hold
      · rintro ⟨hm, hblock, hline⟩
        have hreach := hblock.reach
        refine ⟨⟨by omega, hm, hline⟩, ?_⟩
        rintro p ⟨other, n⟩ hp hthere
        obtain ⟨-, hn, hother⟩ := (hrest p n other).1 hthere
        by_contra hnew
        exact hblock.uncut n (by omega) (by omega) ⟨other, hother, by simpa using hnew⟩

theorem mem_refBody {m : Nat} {line : Text} :
    (line, m) ∈ refBody lines i ↔ InRefBlock lines i m ∧ lines[m]? = some line := by
  rw [List.mem_iff_getElem?]
  simp only [getElem?_refBody]
  constructor
  · rintro ⟨q, -, h⟩
    exact h
  · intro h
    have hbelow := h.1.below
    exact ⟨m - (i + 1), by omega, h⟩

theorem pairwise_refBody (lines : List Text) (i : Nat) :
    (refBody lines i).Pairwise fun a b => a.2 < b.2 := by
  rw [List.pairwise_iff_getElem]
  intro p q hp hq hpq
  have hfirst := (getElem?_refBody.1 (List.getElem?_eq_getElem hp)).1
  have hsecond := (getElem?_refBody.1 (List.getElem?_eq_getElem hq)).1
  simp only [List.get_eq_getElem] at hfirst hsecond
  omega

/-- The first line of a block from which something can be read. -/
theorem findSome?_refBody {β : Type} {read : Text → Option β} {b : β} {j : Nat} :
    ((refBody lines i).findSome? fun (line, m) => (read line).map fun value => (value, m))
        = some (b, j)
      ↔ IsLeast {j | InRefBlock lines i j ∧ lines[j]?.bind read ≠ none} j
        ∧ lines[j]?.bind read = some b := by
  rw [findSome?_of_pairwise (pairwise_refBody lines i) fun a b hab hba => by omega]
  constructor
  · rintro ⟨⟨line, m⟩, hmem, hread, hbefore⟩
    obtain ⟨hblock, hline⟩ := mem_refBody.1 hmem
    obtain ⟨value, hvalue, heq⟩ := Option.map_eq_some_iff.1 hread
    obtain ⟨rfl, rfl⟩ := Prod.mk.inj heq
    refine ⟨⟨⟨hblock, by simp [hline, hvalue]⟩, ?_⟩, by simp [hline, hvalue]⟩
    rintro p ⟨hp, hsome⟩
    by_contra hlt
    have hlength := hp.lt_length
    have hother := List.getElem?_eq_getElem hlength
    have hnone := hbefore (lines[p], p) (mem_refBody.2 ⟨hp, hother⟩) (by omega)
    rw [Option.map_eq_none_iff] at hnone
    exact hsome (by rw [hother, Option.bind_some, hnone])
  · rintro ⟨⟨⟨hblock, -⟩, hleast⟩, hread⟩
    obtain ⟨line, hline, hvalue⟩ := Option.bind_eq_some_iff.1 hread
    refine ⟨(line, j), mem_refBody.2 ⟨hblock, hline⟩, by simp [hvalue], ?_⟩
    rintro ⟨other, p⟩ hmem hlt
    obtain ⟨hp, hother⟩ := mem_refBody.1 hmem
    by_contra hsome
    have hle : j ≤ p := hleast ⟨hp, by simpa [hother] using hsome⟩
    omega

theorem siblingAt?_eq_some {m : Nat} {name : Text} (h : siblingAt? lines m = some name) :
    ∃ line, lines[m]? = some line ∧ Text.has Marker.template line = false
      ∧ name? line = some name := by
  obtain ⟨line, hline, hread⟩ := Option.bind_eq_some_iff.1 h
  split at hread
  · exact absurd hread (by simp)
  · next hnot => exact ⟨line, hline, Bool.eq_false_iff.2 hnot, hread⟩

/-- The first line of a block that passes a test. -/
theorem find?_refBody {test : Text → Bool} {line : Text} {n : Nat} :
    ((refBody lines i).find? fun (line, _) => test line) = some (line, n)
      ↔ IsLeast {n | InRefBlock lines i n ∧ LineAt test lines n} n ∧ lines[n]? = some line := by
  have hguard : ∀ m, lines[m]?.bind (Option.guard test) ≠ none ↔ LineAt test lines m := by
    intro m
    simp [LineAt, Option.bind_eq_none_iff]
  have hread : Option.guard (fun (pair : Text × Nat) => test pair.1)
      = fun (line, m) => (Option.guard test line).map fun value => (value, m) := by
    funext ⟨line, m⟩
    by_cases htest : test line = true
    · simp [Option.guard, htest]
    · simp [Option.guard, htest]
  change ((refBody lines i).find? fun pair => test pair.1) = some (line, n) ↔ _
  rw [List.find?_eq_findSome?_guard, hread, findSome?_refBody]
  simp only [hguard]
  refine and_congr_right fun hleast => ?_
  obtain ⟨other, hother, htest⟩ := hleast.1.2
  simp [hother, Option.guard, htest]

/-- The template of a block is the first that can be read. -/
theorem template_refPositions_iff {template : Text} {j : Nat} :
    (refPositions lines i).template = some (template, j)
      ↔ IsLeast {j | InRefBlock lines i j ∧ templateAt? lines j ≠ none} j
        ∧ templateAt? lines j = some template :=
  findSome?_refBody

/-- The owner of a block is decided by the first line with a `name:` and no `template:`. -/
theorem owner_refPositions_iff {owner : Text} {n : Nat} :
    (refPositions lines i).owner = some (owner, n)
      ↔ IsLeast {n | InRefBlock lines i n ∧ LineAt (Text.has Marker.name) lines n
          ∧ ¬ LineAt (Text.has Marker.template) lines n} n
        ∧ nameAt? lines n = some owner := by
  have hplain : ∀ m, LineAt (fun line => Text.has Marker.name line
        && !Text.has Marker.template line) lines m
      ↔ LineAt (Text.has Marker.name) lines m ∧ ¬ LineAt (Text.has Marker.template) lines m := by
    intro m
    cases hline : lines[m]? with
    | none => simp [LineAt, hline]
    | some line => simp [lineAt_iff hline]
  have hfind := @find?_refBody lines i fun line =>
    Text.has Marker.name line && !Text.has Marker.template line
  simp only [hplain] at hfind
  rw [refPositions, Option.bind_eq_some_iff]
  constructor
  · rintro ⟨⟨line, m⟩, hfound, hread⟩
    obtain ⟨value, hvalue, heq⟩ := Option.map_eq_some_iff.1 hread
    obtain ⟨rfl, rfl⟩ := Prod.mk.inj heq
    obtain ⟨hleast, hline⟩ := hfind.1 hfound
    exact ⟨hleast, by simp [nameAt?, hline, hvalue]⟩
  · rintro ⟨hleast, hname⟩
    obtain ⟨line, hline, hvalue⟩ := Option.bind_eq_some_iff.1 hname
    exact ⟨(line, n), hfind.2 ⟨hleast, hline⟩, by simp [hvalue]⟩

/-- The owner of a reference block is the first name in it that can be read beside a template. -/
theorem owner_refPositions {owner : Text} {n : Nat}
    (h : (refPositions lines i).owner = some (owner, n)) :
    i < n ∧ n ≤ i + refBlockLines ∧ siblingAt? lines n = some owner
      ∧ ∀ m, i < m → m < n → siblingAt? lines m = none := by
  obtain ⟨⟨⟨hblock, -, hnot⟩, hleast⟩, hname⟩ := owner_refPositions_iff.1 h
  obtain ⟨line, hline, hvalue⟩ := Option.bind_eq_some_iff.1 hname
  rw [lineAt_iff hline] at hnot
  refine ⟨hblock.below, hblock.reach, by simp [siblingAt?, hline, hnot, hvalue], ?_⟩
  intro m hlo hhi
  by_contra hsome
  obtain ⟨name, hsibling⟩ := Option.ne_none_iff_exists'.1 hsome
  obtain ⟨other, hother, htemplate, hread⟩ := siblingAt?_eq_some hsibling
  have hle : n ≤ m := hleast ⟨hblock.of_le hlo (Nat.le_of_lt hhi),
    ⟨other, hother, has_of_valueOf? hread⟩, by simp [lineAt_iff hother, htemplate]⟩
  omega

/-- The template of a reference block is one that can be read. -/
theorem template_refPositions {template : Text} {j : Nat}
    (h : (refPositions lines i).template = some (template, j)) :
    i < j ∧ j ≤ i + refBlockLines ∧ lines[j]?.bind template? = some template := by
  obtain ⟨⟨⟨hblock, -⟩, -⟩, hvalue⟩ := template_refPositions_iff.1 h
  exact ⟨hblock.below, hblock.reach, hvalue⟩

end References

end Manifest

end WorkflowNav
