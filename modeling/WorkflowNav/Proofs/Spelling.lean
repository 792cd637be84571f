/-
Spellings of one path.

Paths are the same if their components are, and texts are kept under components. A disk looks more
closely: a dot, or a slash at the end, asks for a directory. So one spelling may be read where
another is not. But a question is all it is: leaving out a dot never leads a walk elsewhere
(`walk_of_dropsDots`). Hence two spellings that can both be read give the same text
(`readText_unique`), and it makes no difference which of them put it into a cache.
-/
import WorkflowNav.Proofs.Uncached

set_option autoImplicit false

namespace WorkflowNav

open Text (Bytes)

namespace Disk

/-! ## Walking without dots -/

/-- Pieces of which some dots are left out. -/
inductive DropsDots : List Bytes → List Bytes → Prop
  | nil : DropsDots [] []
  | drop {pieces kept : List Bytes} (h : DropsDots pieces kept) :
      DropsDots (Component.dot :: pieces) kept
  | keep {pieces kept : List Bytes} (piece : Bytes) (h : DropsDots pieces kept) :
      DropsDots (piece :: pieces) (piece :: kept)

theorem dropsDots_filter (pieces : List Bytes) :
    DropsDots pieces (pieces.filter (· ≠ Component.dot)) := by
  induction pieces with
  | nil => exact .nil
  | cons piece pieces ih =>
    by_cases hdot : piece = Component.dot
    · rw [hdot, List.filter_cons_of_neg (by simp)]
      exact .drop ih
    · rw [List.filter_cons_of_pos (by simpa using hdot)]
      exact .keep piece ih

theorem DropsDots.append_left {pieces kept : List Bytes} (h : DropsDots pieces kept)
    (front : List Bytes) : DropsDots (front ++ pieces) (front ++ kept) := by
  induction front with
  | nil => exact h
  | cons piece front ih => exact .keep piece ih

/-- Only a dot can be left out. -/
theorem DropsDots.of_ne {piece : Bytes} {pieces kept : List Bytes}
    (h : DropsDots (piece :: pieces) kept) (hdot : piece ≠ Component.dot) :
    ∃ rest, kept = piece :: rest ∧ DropsDots pieces rest := by
  cases h with
  | drop h => exact absurd rfl hdot
  | keep piece h => exact ⟨_, rfl, h⟩

/-- Without some of its dots, a walk leads where it led. -/
theorem walk_of_dropsDots {disk : Disk} {links : Nat} {here place : Place}
    {pieces kept : List Bytes} (hdrops : DropsDots pieces kept)
    (hwalk : disk.walk true links here pieces = .ok place) :
    disk.walk true links here kept = .ok place := by
  -- the pieces that a link brings in keep their dots, so `kept` may have some
  fun_induction disk.walk true links here pieces generalizing kept with
  | case1 links here =>
    cases hdrops
    rw [walk_nil]
    exact hwalk
  | case3 links here rest hhere ih =>
    cases hdrops with
    | drop hrest => exact ih hrest hwalk
    | keep piece hrest =>
      rw [walk_dot (not_not.1 hhere)]
      exact ih hrest hwalk
  | case4 links here rest hhere hdot ih =>
    obtain ⟨others, rfl, hrest⟩ := hdrops.of_ne hdot
    rw [walk_dots (not_not.1 hhere)]
    exact ih hrest hwalk
  | case6 links here piece rest hhere hdot hdots hlength hnone hlast =>
    obtain ⟨others, rfl, hrest⟩ := hdrops.of_ne hdot
    obtain rfl : rest = [] := List.isEmpty_iff.1 hlast
    cases hrest
    rw [walk]
    simp only [hhere, hdot, hdots, hlength, hnone, if_false, List.isEmpty_nil, if_true]
    exact hwalk
  | case8 _ _ _ _ _ _ _ _ _ _ hnot => simp at hnot
  | case10 here piece rest hhere hdot hdots hlength target hentry _ links ih =>
    obtain ⟨others, rfl, hrest⟩ := hdrops.of_ne hdot
    rw [walk_link (not_not.1 hhere) hdot hdots (Nat.not_lt.1 hlength) hentry]
    exact ih (hrest.append_left _) hwalk
  | case11 links here piece rest hhere hdot hdots hlength entry hlink hentry ih =>
    obtain ⟨others, rfl, hrest⟩ := hdrops.of_ne hdot
    rw [walk_name (not_not.1 hhere) hdot hdots (Nat.not_lt.1 hlength) hentry hlink]
    exact ih hrest hwalk
  | case2 | case5 | case7 | case9 => simp at hwalk

/-! ## From components to a place -/

theorem map_bytes_ofPiece? (pieces : List Bytes) :
    (pieces.filterMap Component.ofPiece?).map Component.bytes
      = (pieces.filter (· ≠ [])).filter (· ≠ Component.dot) := by
  induction pieces with
  | nil => rfl
  | cons piece pieces ih =>
    by_cases hskip : piece = [] ∨ piece = Component.dot
    · rw [List.filterMap_cons_none (by simp [Component.ofPiece?, hskip]), ih]
      rcases hskip with rfl | rfl <;> simp [Component.dot]
    · rw [not_or] at hskip
      by_cases hup : piece = Component.dots
      · subst hup
        rw [List.filterMap_cons_some (b := .up) (by decide), List.map_cons, ih]
        simp [Component.bytes, Component.dots, Component.dot]
      · rw [List.filterMap_cons_some (b := .name piece) (by simp [Component.ofPiece?, hskip, hup]),
          List.map_cons, ih]
        simp [Component.bytes, hskip]

/-- The pieces to walk are those of the components, but for dots. -/
theorem filter_steps {path : Path} (h : path.isAbsolute = true) :
    (steps path).filter (· ≠ Component.dot) = path.components.tail.map Component.bytes := by
  have hslashed : (if isSlashed path then [Component.dot] else []).filter (· ≠ Component.dot)
      = [] := by
    split <;> simp
  obtain ⟨rest, hbytes⟩ : ∃ rest, path.bytes = Path.slash :: rest :=
    List.head?_eq_some_iff.1 (by simpa [Path.isAbsolute] using h)
  have hcut : cut Path.slash path.bytes = [] :: cut Path.slash rest := by
    rw [hbytes, cut]
    simp
  have hcomponents : path.components
      = .root :: (cut Path.slash path.bytes).filterMap Component.ofPiece? := by
    unfold Path.components
    rw [hcut]
    cases hrest : cut Path.slash rest with
    | nil => exact absurd hrest (cut_ne_nil _ _)
    | cons piece pieces => rfl
  rw [steps, List.filter_append, hslashed, List.append_nil, hcomponents, List.tail_cons,
    map_bytes_ofPiece?]
  rfl

/-- Spellings that lead anywhere lead to the same place. -/
theorem locate_unique {disk : Disk} {path other : Path} {place found : Place}
    (hsame : path.components = other.components) (hpath : disk.locate true path = .ok place)
    (hother : disk.locate true other = .ok found) : place = found := by
  obtain ⟨hcheck, hwalk⟩ := locate_eq_ok.1 hpath
  obtain ⟨hcheck', hwalk'⟩ := locate_eq_ok.1 hother
  have hplain := walk_of_dropsDots (dropsDots_filter _) hwalk
  have hplain' := walk_of_dropsDots (dropsDots_filter _) hwalk'
  rw [filter_steps (check_eq_ok.1 hcheck).2.2, hsame,
    ← filter_steps (check_eq_ok.1 hcheck').2.2, hplain'] at hplain
  exact (Except.ok.inj hplain).symm

theorem exists_locate_of_read {disk : Disk} {path : Path} {bytes : Bytes}
    (h : disk.read path = .ok bytes) : ∃ place, disk.locate true path = .ok place := by
  unfold read at h
  cases hlocate : disk.locate true path with
  | ok place => exact ⟨place, rfl⟩
  | error error =>
    rw [hlocate] at h
    exact absurd h (by simp [bind, Except.bind])

/-- Spellings that can be read give the same text. -/
theorem readText_unique {disk : Disk} {path other : Path} {text found : Text}
    (hsame : path.components = other.components) (hpath : disk.readText path = .ok text)
    (hother : disk.readText other = .ok found) : text = found := by
  obtain ⟨bytes, hread, hdecode⟩ := readText_eq_ok.1 hpath
  obtain ⟨bytes', hread', hdecode'⟩ := readText_eq_ok.1 hother
  obtain ⟨place, hplace⟩ := exists_locate_of_read hread
  obtain ⟨place', hplace'⟩ := exists_locate_of_read hread'
  have hlocate : disk.locate true path = disk.locate true other := by
    rw [hplace, hplace', locate_unique hsame hplace hplace']
  have hbytes : disk.read path = disk.read other := by
    unfold read
    rw [hlocate]
  rw [hread, hread'] at hbytes
  rw [Except.ok.inj hbytes, hdecode'] at hdecode
  exact (Option.some.inj hdecode).symm

end Disk

end WorkflowNav
