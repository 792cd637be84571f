/-
Going down from a root, and the order of paths.

A search never makes up a path. It starts at the root it was given and joins to it the names that
directories list, so every path it touches is the root with names behind it. Caches know a path by
its components only. What makes that safe is that below one root nothing is lost: the components of
a path determine the names (`descend_injective`), and hence the path as it is written.

The order of paths is the order of their component lists, which is the lexicographic order of the
standard library over `Component.compare`. So it is enough to know that components are compared by
a total order.
-/
import WorkflowNav.Path

set_option autoImplicit false

namespace WorkflowNav

open Text (Bytes)

/-! ## Cutting -/

section Cut

variable {α : Type} [BEq α]

theorem cut_ne_nil (sep : α) (xs : List α) : cut sep xs ≠ [] := by
  cases xs with
  | nil => simp [cut]
  | cons x rest =>
    rw [cut]
    split
    · simp
    · split <;> simp

variable [LawfulBEq α]

/-- A list without the separator is one piece. -/
theorem cut_of_not_mem {sep : α} {xs : List α} (h : sep ∉ xs) : cut sep xs = [xs] := by
  induction xs with
  | nil => rfl
  | cons x rest ih =>
    rw [List.mem_cons, not_or] at h
    have hx : (x == sep) = false := beq_false_of_ne (Ne.symm h.1)
    rw [cut, hx, ih h.2]
    rfl

/-- Cutting at a separator that is known to be there. -/
theorem cut_append (sep : α) (xs ys : List α) :
    cut sep (xs ++ sep :: ys) = cut sep xs ++ cut sep ys := by
  induction xs with
  | nil => simp [cut]
  | cons x rest ih =>
    rw [List.cons_append, cut, cut, ih]
    split
    · rfl
    · -- the first piece of what follows grows by `x`, on either side
      cases hrest : cut sep rest with
      | nil => exact absurd hrest (cut_ne_nil sep rest)
      | cons piece more => rfl

end Cut

namespace Path

/-! ## Names -/

/-- What an entry of a directory can be called: not empty, not divided, and not one of the pieces
that stand for a directory. -/
structure IsName (name : Bytes) : Prop where
  ne_nil : name ≠ []
  slash_notMem : slash ∉ name
  ne_dot : name ≠ Component.dot
  ne_dots : name ≠ Component.dots

instance (name : Bytes) : Decidable (IsName name) :=
  decidable_of_iff (name ≠ [] ∧ slash ∉ name ∧ name ≠ Component.dot ∧ name ≠ Component.dots)
    ⟨fun h => ⟨h.1, h.2.1, h.2.2.1, h.2.2.2⟩,
      fun h => ⟨h.ne_nil, h.slash_notMem, h.ne_dot, h.ne_dots⟩⟩

theorem IsName.ofPiece? {name : Bytes} (h : IsName name) :
    Component.ofPiece? name = some (.name name) := by
  rw [Component.ofPiece?, if_neg (not_or.2 ⟨h.ne_nil, h.ne_dot⟩), if_neg h.ne_dots]

/-- The top of a disk. -/
def top : Path := ⟨[slash]⟩

/-- The path that leads from a root through some names. -/
def descend (root : Path) (names : List Bytes) : Path := names.foldl join root

@[simp] theorem descend_nil (root : Path) : root.descend [] = root := rfl

theorem descend_cons (root : Path) (name : Bytes) (names : List Bytes) :
    root.descend (name :: names) = (root.join name).descend names := rfl

theorem descend_append (root : Path) (names more : List Bytes) :
    root.descend (names ++ more) = (root.descend names).descend more :=
  List.foldl_append

theorem descend_concat (root : Path) (names : List Bytes) (name : Bytes) :
    root.descend (names ++ [name]) = (root.descend names).join name := by
  rw [descend_append]
  rfl

/-! ## Components of a path below a root -/

/-- The component in front, which depends on the first piece and on whether there is a second. -/
private def front : List Bytes → List Component
  | [] :: _ :: _ => [.root]
  | first :: _ => if first = Component.dot then [.here] else []
  | [] => []

private theorem components_eq (path : Path) :
    path.components
      = front (cut slash path.bytes) ++ (cut slash path.bytes).filterMap Component.ofPiece? := rfl

/-- The bytes of a joined path: the name stands behind a slash, except below the empty path. -/
theorem join_cases (root : Path) (name : Bytes) :
    (root.bytes = [] ∧ (root.join name).bytes = name)
      ∨ (∃ above, root.bytes = above ++ [slash] ∧ (root.join name).bytes = above ++ slash :: name)
      ∨ (root.bytes ≠ [] ∧ (root.join name).bytes = root.bytes ++ slash :: name) := by
  by_cases hnil : root.bytes = []
  · left
    simp [join, hnil]
  · by_cases hslash : root.bytes.getLast? = some slash
    · right; left
      obtain ⟨above, habove⟩ := List.getLast?_eq_some_iff.1 hslash
      exact ⟨above, habove, by simp [join, habove]⟩
    · right; right
      exact ⟨hnil, by simp [join, hnil, hslash]⟩

theorem bytes_isPrefix_join (root : Path) (name : Bytes) :
    root.bytes <+: (root.join name).bytes := by
  rcases join_cases root name with ⟨hroot, -⟩ | ⟨above, hroot, hjoin⟩ | ⟨-, hjoin⟩
  · rw [hroot]
    exact List.nil_prefix
  · rw [hroot, hjoin]
    exact ⟨name, by simp⟩
  · rw [hjoin]
    exact List.prefix_append _ _

/-- A name adds one component at the end. -/
theorem components_join (root : Path) {name : Bytes} (h : IsName name) :
    (root.join name).components = root.components ++ [.name name] := by
  have hname : cut slash name = [name] := cut_of_not_mem h.slash_notMem
  have hpiece : [name].filterMap Component.ofPiece? = [.name name] := by simp [h.ofPiece?]
  rw [components_eq, components_eq]
  rcases join_cases root name with ⟨hroot, hjoin⟩ | ⟨above, hroot, hjoin⟩ | ⟨hroot, hjoin⟩
  · rw [hjoin, hroot, hname, hpiece]
    have hdot : front [name] = [] := by simp [front, h.ne_dot]
    rw [hdot]
    rfl
  · rw [hjoin, hroot, cut_append, cut_append, hname, List.filterMap_append, List.filterMap_append,
      hpiece]
    obtain ⟨first, more, hcut⟩ := List.exists_cons_of_ne_nil (cut_ne_nil slash above)
    rw [hcut]
    cases more <;> cases first <;> simp [front, cut, Component.ofPiece?]
  · rw [hjoin, cut_append, hname, List.filterMap_append, hpiece]
    obtain ⟨first, more, hcut⟩ := List.exists_cons_of_ne_nil (cut_ne_nil slash root.bytes)
    -- a root that is one empty piece would be the empty path
    have hfirst : more = [] → first ≠ [] := by
      rintro rfl rfl
      cases hbytes : root.bytes with
      | nil => exact hroot hbytes
      | cons b rest =>
        rw [hbytes, cut] at hcut
        split at hcut
        · exact cut_ne_nil slash rest (List.cons.inj hcut).2
        · split at hcut <;> simp at hcut
    rw [hcut]
    cases more <;> cases first <;> simp_all [front]

theorem components_descend (root : Path) {names : List Bytes} (h : ∀ name ∈ names, IsName name) :
    (root.descend names).components = root.components ++ names.map .name := by
  induction names generalizing root with
  | nil => simp
  | cons name names ih =>
    rw [descend_cons, ih _ fun other hother => h other (List.mem_cons_of_mem _ hother),
      components_join _ (h name List.mem_cons_self)]
    simp

/-- Below one root, components determine the names. -/
theorem descend_injective (root : Path) {names others : List Bytes}
    (hnames : ∀ name ∈ names, IsName name) (hothers : ∀ name ∈ others, IsName name)
    (h : (root.descend names).components = (root.descend others).components) : names = others := by
  rw [components_descend _ hnames, components_descend _ hothers, List.append_cancel_left_eq] at h
  exact (List.map_inj_right fun _ _ => Component.name.inj).1 h

/-! ## Order -/

/-- Bytes are compared by `<` and `=`, which is a total order of byte strings. -/
private theorem bytes_transCmp :
    Std.TransCmp fun s t : Bytes => if s < t then .lt else if s = t then .eq else .gt :=
  Std.TransOrd.compareOfLessAndEq_of_antisymm_of_trans_of_total_of_not_le
    (α := Bytes) List.le_antisymm List.le_trans List.le_total List.not_le

instance : Std.TransCmp Component.compare where
  eq_swap {a b} := by
    cases a <;> cases b <;> try rfl
    exact bytes_transCmp.eq_swap
  isLE_trans {a b c} hab hbc := by
    cases a <;> cases b <;> cases c <;> try first | rfl | contradiction
    exact bytes_transCmp.isLE_trans hab hbc

instance : Std.LawfulEqCmp Component.compare where
  compare_self {a} := by
    cases a <;> try rfl
    next s => simp [Component.compare]
  eq_of_compare {a b} h := by
    cases a <;> cases b <;> try first | rfl | contradiction
    next s t =>
      have hst : s = t :=
        (compareOfLessAndEq_eq_eq (α := Bytes) List.le_refl List.not_le).1 h
      rw [hst]

theorem compareComponents_eq (as bs : List Component) :
    compareComponents as bs = List.compareLex Component.compare as bs := by
  induction as generalizing bs with
  | nil => cases bs <;> rfl
  | cons a as ih =>
    cases bs with
    | nil => rfl
    | cons b bs =>
      rw [compareComponents, List.compareLex_cons_cons, ih]
      cases a.compare b <;> rfl

theorem le_iff {a b : Path} :
    le a b = true ↔ (List.compareLex Component.compare a.components b.components).isLE := by
  rw [le, compareComponents_eq]
  cases List.compareLex Component.compare a.components b.components <;> decide

theorem le_trans {a b c : Path} (hab : le a b = true) (hbc : le b c = true) : le a c = true := by
  rw [le_iff] at *
  exact Std.TransCmp.isLE_trans hab hbc

theorem le_total (a b : Path) : (le a b || le b a) = true := by
  have hswap : List.compareLex Component.compare b.components a.components
      = (List.compareLex Component.compare a.components b.components).swap :=
    Std.OrientedCmp.eq_swap
  rw [Bool.or_eq_true, le_iff, le_iff, hswap]
  cases List.compareLex Component.compare a.components b.components <;> decide

/-- What two paths have in common at the front does not decide their order. -/
theorem compareLex_append_left (front as bs : List Component) :
    List.compareLex Component.compare (front ++ as) (front ++ bs)
      = List.compareLex Component.compare as bs := by
  induction front with
  | nil => rfl
  | cons a front ih =>
    have hself : Component.compare a a = .eq := Std.ReflCmp.compare_self
    rw [List.cons_append, List.cons_append, List.compareLex_cons_cons, hself, ih]
    rfl

/-- Below one root the first names decide, if they differ. -/
theorem le_descend_of_lt (root : Path) {name other : Bytes} {names others : List Bytes}
    (hnames : ∀ n ∈ name :: names, IsName n) (hothers : ∀ n ∈ other :: others, IsName n)
    (hlt : name < other) :
    le (root.descend (name :: names)) (root.descend (other :: others)) = true := by
  rw [le_iff, components_descend _ hnames, components_descend _ hothers, compareLex_append_left,
    List.map_cons, List.map_cons, List.compareLex_cons_cons]
  simp [Component.compare, hlt]

/-- Paths that stand at or before each other are the same, though not always written the same. -/
theorem components_eq_of_le {a b : Path} (hab : le a b = true) (hba : le b a = true) :
    a.components = b.components := by
  rw [le_iff] at *
  exact Std.LawfulEqCmp.eq_of_compare (Std.OrientedCmp.isLE_antisymm hab hba)

end Path

end WorkflowNav
