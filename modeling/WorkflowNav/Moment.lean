/-
What an operation finds when it looks up from its own state: the disk, and the time.

Both are given from outside and neither is changed by a search. Time counts milliseconds from any
fixed instant.
-/
import WorkflowNav.Disk

set_option autoImplicit false

namespace WorkflowNav

/-- The disk and the time at an instant. -/
structure Moment where
  disk : Disk := {}
  now : Nat := 0
  deriving DecidableEq, Repr

/-- Milliseconds in some seconds. -/
def seconds (n : Nat) : Nat := 1000 * n

end WorkflowNav
