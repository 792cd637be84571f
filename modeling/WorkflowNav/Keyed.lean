/-
Values under keys.

Files on a disk, cached texts and open documents are all few enough to be kept in a list of pairs.
Each key stands in it at most once, because putting a value drops the old one first. The order of
the pairs is never shown.
-/

set_option autoImplicit false

namespace WorkflowNav.Keyed

variable {κ υ : Type} [DecidableEq κ]

/-- The value under a key. -/
def get? (key : κ) (pairs : List (κ × υ)) : Option υ := (pairs.find? (·.1 = key)).map (·.2)

/-- The pairs without a key. -/
def erase (key : κ) (pairs : List (κ × υ)) : List (κ × υ) := pairs.filter (·.1 ≠ key)

/-- The pairs with a value put under a key. -/
def put (key : κ) (value : υ) (pairs : List (κ × υ)) : List (κ × υ) :=
  (key, value) :: erase key pairs

theorem get?_put_self (key : κ) (value : υ) (pairs : List (κ × υ)) :
    get? key (put key value pairs) = some value := by
  simp [get?, put]

theorem get?_erase_self (key : κ) (pairs : List (κ × υ)) : get? key (erase key pairs) = none := by
  simp [get?, erase]

theorem get?_erase_of_ne {key other : κ} (h : other ≠ key) (pairs : List (κ × υ)) :
    get? other (erase key pairs) = get? other pairs := by
  induction pairs with
  | nil => rfl
  | cons pair pairs ih =>
    by_cases hk : pair.1 = key <;> by_cases ho : pair.1 = other <;>
      simp_all [get?, erase]

theorem get?_put_of_ne {key other : κ} (h : other ≠ key) (value : υ) (pairs : List (κ × υ)) :
    get? other (put key value pairs) = get? other pairs := by
  have : get? other (put key value pairs) = get? other (erase key pairs) := by
    simp [get?, put, Ne.symm h]
  rw [this, get?_erase_of_ne h]

theorem mem_of_get? {key : κ} {value : υ} {pairs : List (κ × υ)}
    (h : get? key pairs = some value) : (key, value) ∈ pairs := by
  rw [get?, Option.map_eq_some_iff] at h
  obtain ⟨pair, hfind, rfl⟩ := h
  have hkey : pair.1 = key := by simpa using List.find?_some hfind
  rw [← hkey]
  exact List.mem_of_find?_eq_some hfind

/-- With one pair to a key, what stands under a key is what is found there. -/
theorem get?_of_mem {key : κ} {value : υ} {pairs : List (κ × υ)}
    (hnodup : (pairs.map Prod.fst).Nodup) (h : (key, value) ∈ pairs) :
    get? key pairs = some value := by
  induction pairs with
  | nil => exact absurd h List.not_mem_nil
  | cons pair pairs ih =>
    rw [List.map_cons, List.nodup_cons] at hnodup
    rcases List.mem_cons.1 h with rfl | h
    · simp [get?]
    · have hne : pair.1 ≠ key := fun heq =>
        hnodup.1 (List.mem_map.2 ⟨(key, value), h, heq.symm⟩)
      have hskip : get? key (pair :: pairs) = get? key pairs := by simp [get?, hne]
      rw [hskip, ih hnodup.2 h]

end WorkflowNav.Keyed
