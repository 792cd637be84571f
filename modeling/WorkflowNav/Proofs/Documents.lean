/-
Documents in one file.

A file may hold several documents with a separator line between them. The search for a template
takes each kind line by itself, but what it is made of does not stop at a separator: the name in the
metadata is searched to the end of the file, and a block runs to the line that opens the next
document, so the last block of a document takes the separator in.

Two things keep documents apart all the same. A name beyond the block is rejected, so that only the
names in the block count, whichever of them the search meets first (`NamedAt`). And a separator is
nothing that any of the searches looks for. So a block is searched in the same way wherever its
document stands in a file (`BlockMoved`), and the search in two documents is the search in the one
and then in the other.
-/
import WorkflowNav.Proofs.Numbering

set_option autoImplicit false

namespace WorkflowNav.Manifest

/-! ## Searches that pass at the same positions -/

/-- What a search gives is known once it is known which positions pass. -/
theorem firstIn_eq_map {α β : Type} {xs : List α} {ys : List β} {lo hi lo' hi' shift : Nat}
    {test : α → Bool} {probe : β → Bool}
    (h : ∀ i, (lo ≤ i ∧ i < hi ∧ ∃ x, xs[i]? = some x ∧ test x = true)
      ↔ ∃ j, i = shift + j ∧ lo' ≤ j ∧ j < hi' ∧ ∃ y, ys[j]? = some y ∧ probe y = true) :
    firstIn xs lo hi test = (firstIn ys lo' hi' probe).map (shift + ·) := by
  rw [Option.ext_iff]
  intro i
  rw [Option.map_eq_some_iff]
  constructor
  · intro hfirst
    rw [firstIn_eq_some_iff] at hfirst
    obtain ⟨hlo, hhi, hpass, hbefore⟩ := hfirst
    obtain ⟨j, rfl, hlo', hhi', hpass'⟩ := (h i).1 ⟨hlo, hhi, hpass⟩
    refine ⟨j, firstIn_eq_some_iff.2 ⟨hlo', hhi', hpass', ?_⟩, rfl⟩
    intro m y hm hmj hy
    by_contra hprobe
    rw [Bool.not_eq_false] at hprobe
    obtain ⟨hlo, -, x, hx, htest⟩ := (h (shift + m)).2 ⟨m, rfl, hm, by omega, y, hy, hprobe⟩
    rw [hbefore (shift + m) x hlo (by omega) hx] at htest
    exact absurd htest (by decide)
  · rintro ⟨j, hfirst, rfl⟩
    rw [firstIn_eq_some_iff] at hfirst
    obtain ⟨hlo', hhi', hpass', hbefore⟩ := hfirst
    obtain ⟨hlo, hhi, hpass⟩ := (h (shift + j)).2 ⟨j, rfl, hlo', hhi', hpass'⟩
    refine firstIn_eq_some_iff.2 ⟨hlo, hhi, hpass, ?_⟩
    intro m x hm hmj hx
    by_contra htest
    rw [Bool.not_eq_false] at htest
    obtain ⟨p, rfl, hp, -, y, hy, hprobe⟩ := (h m).1 ⟨hm, by omega, x, hx, htest⟩
    rw [hbefore p y hp (by omega) hy] at hprobe
    exact absurd hprobe (by decide)

/-! ## Blocks and their names -/

section Blocks

variable {lines : List Text} {owner template : Text} {k n : Nat}

/-- A line in the block of a kind line names the owner of the block. -/
structure NamedAt (lines : List Text) (owner : Text) (k n : Nat) : Prop where
  le : k ≤ n
  pos : 0 < n
  lt : n < blockEnd lines k
  metadata : LineAt (Text.has Marker.metadata) lines (n - 1)
  name : nameAt? lines n = some owner

/-- The first name from the kind line on lies in the block if any name does. -/
theorem exists_metadataName?_iff :
    (∃ n, metadataName? lines k owner = some n ∧ n < blockEnd lines k)
      ↔ ∃ n, NamedAt lines owner k n := by
  constructor
  · rintro ⟨n, hname, hlt⟩
    obtain ⟨hle, hpos, hmetadata, howner, -⟩ := metadataName?_eq_some_iff.1 hname
    exact ⟨n, hle, hpos, hlt, hmetadata, howner⟩
  · rintro ⟨n, hnamed⟩
    let Names (m : Nat) : Prop := k ≤ m ∧ 0 < m
      ∧ LineAt (Text.has Marker.metadata) lines (m - 1) ∧ nameAt? lines m = some owner
    have hnames : Names n := ⟨hnamed.le, hnamed.pos, hnamed.metadata, hnamed.name⟩
    -- the search stops at the least name, and that comes no later than the one in the block
    classical
    have hexists : ∃ m, Names m := ⟨n, hnames⟩
    obtain ⟨hle, hpos, hmetadata, howner⟩ := Nat.find_spec hexists
    refine ⟨Nat.find hexists, metadataName?_eq_some_iff.2 ⟨hle, hpos, hmetadata, howner, ?_⟩,
      Nat.lt_of_le_of_lt (Nat.find_min' hexists hnames) hnamed.lt⟩
    intro m hkm hm hlt hmeta hother
    exact Nat.find_min hexists hlt ⟨hkm, hm, hmeta, hother⟩

/-- The entry of a template in the block of a kind line, whoever owns the block. -/
def listed? (lines : List Text) (template : Text) (k : Nat) : Option Nat :=
  (firstIn lines k (blockEnd lines k) (Text.has Marker.templates)).bind fun listLine =>
    firstIn lines (listLine + 1) (blockEnd lines k) (isEntryOf template)

theorem entryInBlock?_of_named (h : NamedAt lines owner k n) (template : Text) :
    entryInBlock? lines owner template k = listed? lines template k := by
  obtain ⟨m, hname, hlt⟩ := exists_metadataName?_iff.2 ⟨n, h⟩
  rw [entryInBlock?, hname]
  exact if_pos hlt

theorem entryInBlock?_of_unnamed (h : ∀ n, ¬ NamedAt lines owner k n) (template : Text) :
    entryInBlock? lines owner template k = none := by
  rw [entryInBlock?]
  cases hname : metadataName? lines k owner with
  | none => rfl
  | some m =>
    by_cases hlt : m < blockEnd lines k
    · obtain ⟨n, hnamed⟩ := exists_metadataName?_iff.1 ⟨m, hname, hlt⟩
      exact absurd hnamed (h n)
    · exact if_neg hlt

/-- A document opens right after the line at a position. -/
def OpensAfter (lines : List Text) (i : Nat) : Prop :=
  ∃ previous line, lines[i]? = some previous ∧ lines[i + 1]? = some line
    ∧ opensDocument (some previous) line = true

theorem opensAfter_iff {i : Nat} :
    OpensAfter lines i ↔ ∃ pair, (adjacent lines)[i]? = some pair
      ∧ opensDocument (some pair.1) pair.2 = true := by
  simp only [OpensAfter, Prod.exists, getElem?_adjacent, and_assoc]

/-- A block ends where the first document opens after its kind line. -/
theorem blockEnd_of_opensAfter {i : Nat} (hki : k ≤ i) (h : OpensAfter lines i)
    (hbefore : ∀ j, k ≤ j → j < i → ¬ OpensAfter lines j) : blockEnd lines k = i + 1 := by
  have hlt : i < lines.length := by
    obtain ⟨previous, line, hprevious, -⟩ := h
    exact (List.getElem?_eq_some_iff.1 hprevious).1
  have hfirst : firstIn (adjacent lines) k lines.length
      (fun pair => opensDocument (some pair.1) pair.2) = some i := by
    refine firstIn_eq_some_iff.2 ⟨hki, hlt, opensAfter_iff.1 h, ?_⟩
    intro j pair hkj hji hpair
    by_contra hopens
    rw [Bool.not_eq_false] at hopens
    exact hbefore j hkj hji (opensAfter_iff.2 ⟨pair, hpair, hopens⟩)
  rw [blockEnd, hfirst]

/-- If no document opens after its kind line, a block takes in the rest of the file. -/
theorem blockEnd_of_not_opensAfter (h : ∀ j, k ≤ j → ¬ OpensAfter lines j) :
    blockEnd lines k = lines.length := by
  have hnone : firstIn (adjacent lines) k lines.length
      (fun pair => opensDocument (some pair.1) pair.2) = none := by
    apply firstIn_eq_none
    intro j pair hkj hpair
    by_contra hopens
    rw [Bool.not_eq_false] at hopens
    exact h j hkj (opensAfter_iff.2 ⟨pair, hpair, hopens⟩)
  rw [blockEnd, hnone]

/-- Where a block ends. -/
theorem blockEnd_cases (lines : List Text) (k : Nat) :
    (blockEnd lines k = lines.length ∧ ∀ j, k ≤ j → ¬ OpensAfter lines j)
      ∨ ∃ i, blockEnd lines k = i + 1 ∧ k ≤ i ∧ OpensAfter lines i
        ∧ ∀ j, k ≤ j → j < i → ¬ OpensAfter lines j := by
  classical
  by_cases hexists : ∃ i, k ≤ i ∧ OpensAfter lines i
  · right
    obtain ⟨hki, hopens⟩ := Nat.find_spec hexists
    have hbefore : ∀ j, k ≤ j → j < Nat.find hexists → ¬ OpensAfter lines j := by
      intro j hkj hlt hj
      exact Nat.find_min hexists hlt ⟨hkj, hj⟩
    exact ⟨_, blockEnd_of_opensAfter hki hopens hbefore, hki, hopens, hbefore⟩
  · left
    have hnone : ∀ j, k ≤ j → ¬ OpensAfter lines j := by
      intro j hkj hj
      exact hexists ⟨j, hkj, hj⟩
    exact ⟨blockEnd_of_not_opensAfter hnone, hnone⟩

end Blocks

/-! ## Blocks in another file -/

/-- The block of a kind line in one file is the block of a kind line in another, moved down: line
for line, except that it may take a separator in. -/
structure BlockMoved (xs : List Text) (k : Nat) (ys : List Text) (l shift : Nat) : Prop where
  start : k = shift + l
  line : ∀ j, l ≤ j → j < blockEnd ys l → shift + j < blockEnd xs k ∧ xs[shift + j]? = ys[j]?
  other : ∀ i, k ≤ i → i < blockEnd xs k →
    (∃ j, i = shift + j ∧ l ≤ j ∧ j < blockEnd ys l) ∨ xs[i]? = some Marker.separator
  /-- The line above the kind line belongs to no block, but a name may follow it. -/
  above : (0 < k ∧ LineAt (Text.has Marker.metadata) xs (k - 1))
    ↔ (0 < l ∧ LineAt (Text.has Marker.metadata) ys (l - 1))

section Moved

variable {xs ys : List Text} {k l shift : Nat} {owner template : Text}

/-- A search for something that no separator is finds the same line of the block. -/
theorem BlockMoved.firstIn_eq (h : BlockMoved xs k ys l shift) {test : Text → Bool}
    (hseparator : test Marker.separator = false) {m : Nat} (hm : l ≤ m) :
    firstIn xs (shift + m) (blockEnd xs k) test
      = (firstIn ys m (blockEnd ys l) test).map (shift + ·) := by
  have hstart := h.start
  apply firstIn_eq_map
  intro i
  constructor
  · rintro ⟨hlo, hhi, x, hx, htest⟩
    rcases h.other i (by omega) hhi with ⟨j, rfl, hlj, hj⟩ | hother
    · rw [(h.line j hlj hj).2] at hx
      exact ⟨j, rfl, by omega, hj, x, hx, htest⟩
    · rw [hx, Option.some.injEq] at hother
      rw [hother, hseparator] at htest
      exact absurd htest (by decide)
  · rintro ⟨j, rfl, hmj, hj, x, hx, htest⟩
    obtain ⟨hlt, hline⟩ := h.line j (by omega) hj
    exact ⟨by omega, hlt, x, by rw [hline, hx], htest⟩

theorem BlockMoved.listed? (h : BlockMoved xs k ys l shift) (template : Text) :
    listed? xs template k = (listed? ys template l).map (shift + ·) := by
  have hitem : itemBody? Marker.separator = none := by decide
  have hlist : Text.has Marker.templates Marker.separator = false := by decide
  have hsection : firstIn xs k (blockEnd xs k) (Text.has Marker.templates)
      = (firstIn ys l (blockEnd ys l) (Text.has Marker.templates)).map (shift + ·) := by
    have hmoved := h.firstIn_eq hlist (Nat.le_refl l)
    rwa [← h.start] at hmoved
  rw [Manifest.listed?, Manifest.listed?, hsection]
  cases hfirst : firstIn ys l (blockEnd ys l) (Text.has Marker.templates) with
  | none => rfl
  | some s =>
    have hls : l ≤ s := (firstIn_eq_some_iff.1 hfirst).1
    exact h.firstIn_eq (isEntryOf_eq_false hitem template) (Nat.le_succ_of_le hls)

/-- A line of the block follows a `metadata:` line in both files or in none. -/
theorem BlockMoved.metadata_iff (h : BlockMoved xs k ys l shift) {j : Nat} (hlj : l ≤ j)
    (hj : j < blockEnd ys l) :
    (0 < shift + j ∧ LineAt (Text.has Marker.metadata) xs (shift + j - 1))
      ↔ (0 < j ∧ LineAt (Text.has Marker.metadata) ys (j - 1)) := by
  have hstart := h.start
  rcases Nat.eq_or_lt_of_le hlj with rfl | hlt
  · rw [← hstart]
    exact h.above
  · -- below the kind line, the line above is one of the block as well
    obtain ⟨p, rfl⟩ : ∃ p, j = p + 1 := ⟨j - 1, by omega⟩
    have hline : xs[shift + p]? = ys[p]? := (h.line p (by omega) (by omega)).2
    rw [← Nat.add_assoc, Nat.add_sub_cancel, Nat.add_sub_cancel, LineAt, LineAt, hline]
    simp

theorem BlockMoved.named_iff (h : BlockMoved xs k ys l shift) :
    (∃ n, NamedAt xs owner k n) ↔ ∃ n, NamedAt ys owner l n := by
  have hstart := h.start
  constructor
  · rintro ⟨n, hnamed⟩
    rcases h.other n hnamed.le hnamed.lt with ⟨j, rfl, hlj, hj⟩ | hother
    · obtain ⟨hpos, hmetadata⟩ := (h.metadata_iff hlj hj).1 ⟨hnamed.pos, hnamed.metadata⟩
      refine ⟨j, hlj, hpos, hj, hmetadata, ?_⟩
      rw [nameAt?, ← (h.line j hlj hj).2]
      exact hnamed.name
    · have hnone : name? Marker.separator = none := by decide
      have hname := hnamed.name
      rw [nameAt?, hother, Option.bind_some, hnone] at hname
      exact absurd hname (by simp)
  · rintro ⟨j, hnamed⟩
    obtain ⟨hlt, hline⟩ := h.line j hnamed.le hnamed.lt
    obtain ⟨hpos, hmetadata⟩ :=
      (h.metadata_iff hnamed.le hnamed.lt).2 ⟨hnamed.pos, hnamed.metadata⟩
    have hle := hnamed.le
    refine ⟨shift + j, by omega, hpos, hlt, hmetadata, ?_⟩
    rw [nameAt?, hline]
    exact hnamed.name

/-- **A block is searched in the same way in both files.** -/
theorem BlockMoved.entryInBlock?_eq (h : BlockMoved xs k ys l shift) (owner template : Text) :
    entryInBlock? xs owner template k = (entryInBlock? ys owner template l).map (shift + ·) := by
  by_cases hnamed : ∃ n, NamedAt ys owner l n
  · obtain ⟨n, hn⟩ := hnamed
    obtain ⟨m, hm⟩ := h.named_iff.2 ⟨n, hn⟩
    rw [entryInBlock?_of_named hm, entryInBlock?_of_named hn]
    exact h.listed? template
  · have hother : ∀ m, ¬ NamedAt xs owner k m := fun m hm => hnamed (h.named_iff.1 ⟨m, hm⟩)
    rw [entryInBlock?_of_unnamed hother, entryInBlock?_of_unnamed (not_exists.1 hnamed)]
    rfl

end Moved

/-! ## Two documents -/

/-- Two documents in one file. -/
def together (front back : List Text) : List Text := front ++ [Marker.separator] ++ back

section Together

variable {front back : List Text}

theorem together_front {i : Nat} (h : i < front.length) :
    (together front back)[i]? = front[i]? := by
  rw [together, List.append_assoc, List.getElem?_append_left h]

theorem together_separator : (together front back)[front.length]? = some Marker.separator := by
  simp [together]

theorem together_back (i : Nat) : (together front back)[front.length + 1 + i]? = back[i]? := by
  have hlength : (front ++ [Marker.separator]).length = front.length + 1 := by simp
  rw [together, List.getElem?_append_right (by omega), hlength, Nat.add_sub_cancel_left]

/-- Whether the first of some lines is a kind line or a version line. -/
def startsDocument (lines : List Text) : Bool :=
  lines.head?.any fun line => Marker.kind.isPrefixOf line || Marker.apiVersion.isPrefixOf line

/-- After a separator, a version line opens a document as a kind line does. -/
theorem opensAfter_separator (h : startsDocument back = true) :
    OpensAfter (together front back) front.length := by
  cases back with
  | nil => exact absurd h (by decide)
  | cons first rest =>
    refine ⟨Marker.separator, first, together_separator, ?_, ?_⟩
    · exact together_back 0
    · simpa [startsDocument, opensDocument] using h

/-- No document opens at the separator itself. -/
theorem not_opensAfter_front {i : Nat} (hi : i + 1 = front.length) :
    ¬ OpensAfter (together front back) i := by
  rintro ⟨previous, line, -, hline, hopens⟩
  have hkind : Marker.kind.isPrefixOf Marker.separator = false := by decide
  have hversion : Marker.apiVersion.isPrefixOf Marker.separator = false := by decide
  rw [hi, together_separator, Option.some.injEq] at hline
  rw [← hline, opensDocument, hkind, hversion] at hopens
  exact absurd hopens (by simp)

theorem opensAfter_front_iff {i : Nat} (hi : i + 1 < front.length) :
    OpensAfter (together front back) i ↔ OpensAfter front i := by
  rw [OpensAfter, OpensAfter, together_front hi, together_front (by omega)]

theorem opensAfter_back_iff (i : Nat) :
    OpensAfter (together front back) (front.length + 1 + i) ↔ OpensAfter back i := by
  rw [OpensAfter, OpensAfter, together_back, Nat.add_assoc (front.length + 1), together_back]

/-- A block of the first document ends where it did, or takes the separator in. -/
theorem blockEnd_front (hstarts : startsDocument back = true) {k : Nat} (hk : k < front.length) :
    (blockEnd front k ≤ front.length ∧ blockEnd (together front back) k = blockEnd front k)
      ∨ (blockEnd front k = front.length
        ∧ blockEnd (together front back) k = front.length + 1) := by
  rcases blockEnd_cases front k with ⟨hend, hnone⟩ | ⟨i, hend, hki, hopens, hbefore⟩
  · right
    refine ⟨hend, blockEnd_of_opensAfter (Nat.le_of_lt hk) (opensAfter_separator hstarts) ?_⟩
    intro j hkj hj
    rcases Nat.eq_or_lt_of_le hj with hlast | hinner
    · exact not_opensAfter_front hlast
    · rw [opensAfter_front_iff hinner]
      exact hnone j hkj
  · left
    have hi : i + 1 < front.length := by
      obtain ⟨previous, line, -, hline, -⟩ := hopens
      exact (List.getElem?_eq_some_iff.1 hline).1
    rw [hend]
    refine ⟨Nat.le_of_lt hi,
      blockEnd_of_opensAfter hki ((opensAfter_front_iff hi).2 hopens) ?_⟩
    intro j hkj hj
    rw [opensAfter_front_iff (by omega)]
    exact hbefore j hkj hj

/-- A block of the second document ends where it did, moved down. -/
theorem blockEnd_back (l : Nat) :
    blockEnd (together front back) (front.length + 1 + l) = front.length + 1 + blockEnd back l := by
  rcases blockEnd_cases back l with ⟨hend, hnone⟩ | ⟨i, hend, hli, hopens, hbefore⟩
  · have hlength : (together front back).length = front.length + 1 + back.length := by
      simp only [together, List.length_append, List.length_singleton]
    rw [hend, ← hlength]
    apply blockEnd_of_not_opensAfter
    intro j hj
    obtain ⟨p, rfl⟩ : ∃ p, j = front.length + 1 + p := ⟨j - (front.length + 1), by omega⟩
    rw [opensAfter_back_iff]
    exact hnone p (by omega)
  · rw [hend, ← Nat.add_assoc]
    refine blockEnd_of_opensAfter (by omega) ((opensAfter_back_iff i).2 hopens) ?_
    intro j hlj hj
    obtain ⟨p, rfl⟩ : ∃ p, j = front.length + 1 + p := ⟨j - (front.length + 1), by omega⟩
    rw [opensAfter_back_iff]
    exact hbefore p (by omega) (by omega)

theorem blockMoved_front (hstarts : startsDocument back = true) {k : Nat} (hk : k < front.length) :
    BlockMoved (together front back) k front k 0 where
  start := (Nat.zero_add k).symm
  line j _ hj := by
    rw [Nat.zero_add]
    rcases blockEnd_front hstarts hk with ⟨hle, hsame⟩ | ⟨hend, hlonger⟩
    · exact ⟨by omega, together_front (by omega)⟩
    · exact ⟨by omega, together_front (by omega)⟩
  other i hki hi := by
    by_cases hlt : i < blockEnd front k
    · exact .inl ⟨i, (Nat.zero_add i).symm, hki, hlt⟩
    · right
      -- what the block has beyond its old end can only be the separator
      have hlast : i = front.length := by
        rcases blockEnd_front hstarts hk with ⟨-, hsame⟩ | ⟨hend, hlonger⟩
        · omega
        · omega
      rw [hlast, together_separator]
  above := by
    have hline : (together front back)[k - 1]? = front[k - 1]? := together_front (by omega)
    rw [LineAt, LineAt, hline]

theorem blockMoved_back (l : Nat) :
    BlockMoved (together front back) (front.length + 1 + l) back l (front.length + 1) where
  start := rfl
  line j _ hj := by
    rw [blockEnd_back]
    exact ⟨by omega, together_back j⟩
  other i hli hi := by
    rw [blockEnd_back] at hi
    exact .inl ⟨i - (front.length + 1), by omega, by omega, by omega⟩
  above := by
    cases l with
    | zero =>
      -- the first line of a document follows the separator, which is no `metadata:`
      have hno : Text.has Marker.metadata Marker.separator = false := by decide
      have hline : (together front back)[front.length + 1 + 0 - 1]? = some Marker.separator :=
        together_separator
      rw [lineAt_iff hline, hno]
      simp
    | succ p =>
      have hline : (together front back)[front.length + 1 + (p + 1) - 1]? = back[p]? :=
        together_back p
      have hpos : 0 < front.length + 1 + (p + 1) := by omega
      rw [LineAt, LineAt, hline, Nat.add_sub_cancel]
      simp [hpos]

theorem kindLines_together (front back : List Text) :
    kindLines (together front back)
      = kindLines front ++ (kindLines back).map (front.length + 1 + ·) := by
  have hseparator : linesWith Marker.workflowTemplate [Marker.separator] = [] := by decide
  have hlength : (front ++ [Marker.separator]).length = front.length + 1 := by simp
  rw [kindLines, together, linesWith_append, linesWith_append, hseparator, hlength, List.map_nil,
    List.append_nil]
  rfl

/-- The entry of a template in two documents is the one in the first document, or else the one in
the second. -/
theorem templatePosition?_together (hstarts : startsDocument back = true) (owner template : Text) :
    templatePosition? (together front back) owner template
      = (templatePosition? front owner template).or
        ((templatePosition? back owner template).map (front.length + 1 + ·)) := by
  have hfront : ∀ k ∈ kindLines front, entryInBlock? (together front back) owner template k
      = entryInBlock? front owner template k := by
    intro k hk
    obtain ⟨line, hline, -⟩ := mem_linesWith.1 hk
    have hlt : k < front.length := (List.getElem?_eq_some_iff.1 hline).1
    rw [(blockMoved_front hstarts hlt).entryInBlock?_eq]
    simp
  have hback : entryInBlock? (together front back) owner template ∘ (front.length + 1 + ·)
      = Option.map (front.length + 1 + ·) ∘ entryInBlock? back owner template := by
    funext l
    exact (blockMoved_back l).entryInBlock?_eq owner template
  rw [templatePosition?, kindLines_together, List.findSome?_append, List.findSome?_map,
    findSome?_congr hfront, hback, ← List.map_findSome?]
  rfl

/-- **Documents do not interfere.** If a version line or a kind line follows the separator, the
entry of a template in two documents is the one in the first document, or else the one in the
second, moved down by the lines before it. Numbers of 32 bits are added here, and so they start
again in a file of more than 2³² lines; in any other they do not. -/
theorem templateDefinition?_together (front back : List Text) (owner template : Text)
    (hstarts : startsDocument back = true) :
    templateDefinition? (front ++ [Marker.separator] ++ back) owner template
        = (templateDefinition? front owner template).or
          ((templateDefinition? back owner template).map (lineNumber (front.length + 1) + ·))
      ∧ ((front ++ [Marker.separator] ++ back).length ≤ UInt32.size →
        (templateDefinition? (front ++ [Marker.separator] ++ back) owner template).map UInt32.toNat
          = ((templateDefinition? front owner template).map UInt32.toNat).or
            ((templateDefinition? back owner template).map fun j =>
              front.length + 1 + j.toNat)) := by
  have hposition : templatePosition? (front ++ [Marker.separator] ++ back) owner template = _ :=
    templatePosition?_together hstarts owner template
  constructor
  · have hmoved : lineNumber ∘ (front.length + 1 + ·)
        = (lineNumber (front.length + 1) + ·) ∘ lineNumber :=
      funext fun j => lineNumber_add _ _
    rw [templateDefinition?, hposition, Option.map_or, Option.map_map, hmoved, ← Option.map_map]
    rfl
  · intro hlines
    have hlength : (front ++ [Marker.separator] ++ back).length
        = front.length + 1 + back.length := by
      rw [List.length_append, List.length_append, List.length_singleton]
    have hfront : front.length ≤ UInt32.size := by omega
    have hback : back.length ≤ UInt32.size := by omega
    rw [map_toNat_templateDefinition? hlines, hposition, map_toNat_templateDefinition? hfront,
      ← map_toNat_templateDefinition? hback, Option.map_map]
    rfl

/-! A document with a block that has no name of its own, and a library after it. -/

/-- The first document. Its last block has the entry that is looked for, but not the name. -/
def exampleFront : List Text :=
  ["kind: WorkflowTemplate".toList, "metadata:".toList, "  name: shop".toList, "spec:".toList,
    "  templates:".toList, "  - name: pay".toList, "kind: WorkflowTemplate".toList,
    "  templates:".toList, "  - name: hi".toList]

/-- The second document. -/
def exampleBack : List Text :=
  ["apiVersion: v1".toList, "kind: WorkflowTemplate".toList, "metadata:".toList,
    "  name: lib".toList, "spec:".toList, "  templates:".toList, "  - name: hi".toList]

/-- The entry in the first document does not count for the name in the second one, although the
search for the name gets there. -/
theorem templateDefinition?_together_example :
    startsDocument exampleBack = true
      ∧ metadataName? (exampleFront ++ [Marker.separator] ++ exampleBack) 6 "lib".toList = some 13
      ∧ (exampleFront ++ [Marker.separator] ++ exampleBack).length ≤ UInt32.size
      ∧ (templateDefinition? (exampleFront ++ [Marker.separator] ++ exampleBack) "lib".toList
          "hi".toList).map UInt32.toNat = some (exampleFront.length + 1 + 6)
      ∧ templateDefinition? (exampleFront ++ [Marker.separator] ++ exampleBack) "shop".toList
          "pay".toList = some 5 := by
  have hstarts : startsDocument exampleBack = true := by decide
  have hlines : (exampleFront ++ [Marker.separator] ++ exampleBack).length ≤ UInt32.size := by
    decide
  refine ⟨hstarts, by decide +kernel, hlines, ?_, ?_⟩
  · rw [(templateDefinition?_together _ _ _ _ hstarts).2 hlines]
    decide +kernel
  · rw [(templateDefinition?_together _ _ _ _ hstarts).1]
    decide +kernel

/-! The second document, after so many blank lines that its own lines have the numbers that they
have without these. -/

/-- The blank lines. -/
def exampleBlanks : List Text := parted [] (UInt32.size - 1) []

theorem length_exampleBlanks : exampleBlanks.length + 1 = UInt32.size := by
  rw [exampleBlanks, length_parted]
  rfl

theorem templatePosition?_exampleBlanks (owner template : Text) :
    templatePosition? exampleBlanks owner template = none := by
  have hkinds : kindLines exampleBlanks = [] := linesWith_parted (by decide)
  rw [templatePosition?, hkinds, List.findSome?_nil]

/-- The entry is found beyond the last number. -/
theorem templatePosition?_distant :
    templatePosition? (exampleBlanks ++ [Marker.separator] ++ exampleBack) "lib".toList "hi".toList
      = some (UInt32.size + 6) := by
  have hback : templatePosition? exampleBack "lib".toList "hi".toList = some 6 := by decide +kernel
  refine (templatePosition?_together (by decide) _ _).trans ?_
  rw [templatePosition?_exampleBlanks, hback, length_exampleBlanks]
  rfl

/-- The entry has the number that it has in the second document alone, and not that number and those
of all the lines before it. -/
theorem templateDefinition?_together_beyond :
    startsDocument exampleBack = true
      ∧ templateDefinition? exampleBlanks "lib".toList "hi".toList = none
      ∧ templateDefinition? exampleBack "lib".toList "hi".toList = some 6
      ∧ templateDefinition? (exampleBlanks ++ [Marker.separator] ++ exampleBack) "lib".toList
          "hi".toList = some 6
      ∧ (6 : UInt32).toNat ≠ exampleBlanks.length + 1 + (6 : UInt32).toNat := by
  refine ⟨by decide, ?_, by decide +kernel, ?_, ?_⟩
  · rw [templateDefinition?, templatePosition?_exampleBlanks]
    rfl
  · rw [templateDefinition?, templatePosition?_distant, Option.map_some, lineNumber_beyond]
    rfl
  · rw [length_exampleBlanks]
    decide

end Together

end WorkflowNav.Manifest
