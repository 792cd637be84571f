/-
Batches.

Directories and files are worked on a batch at a time. A batch is full except for the last, and the
batches one after the other are the list they came from, whatever their size.
-/

set_option autoImplicit false

namespace WorkflowNav

/-- Cut a list into batches of `size` elements, or of one if `size` is zero. -/
def batches {α : Type} (size : Nat) (xs : List α) : List (List α) :=
  match xs with
  | [] => []
  | x :: rest => (x :: rest.take (size - 1)) :: batches size (rest.drop (size - 1))
  termination_by xs.length
  decreasing_by simp only [List.length_cons, List.length_drop]; omega

theorem flatten_batches {α : Type} (size : Nat) (xs : List α) : (batches size xs).flatten = xs := by
  fun_induction batches size xs with
  | case1 => rfl
  | case2 x rest ih => simp [ih]

end WorkflowNav
