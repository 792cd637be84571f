/-
Whole numbers in double precision.

A double keeps 53 binary digits, so a longer number is rounded to the nearest that has no more, and
of two equally near ones to the even one. A number times a power of ten is computed the way it is on
doubles: each factor is rounded, and then the product. What matters is whether it stays in range.
-/

set_option autoImplicit false

namespace WorkflowNav.Double

/-- The number of binary digits that are kept. -/
def precision : Nat := 53

/-- The first number out of range. -/
def limit : Nat := Nat.pow 2 1024

/-- The largest power of ten in range. -/
def maxPower : Nat := 308

/-- Round a number to the digits that are kept. -/
def round (n : Nat) : Nat :=
  let unit := Nat.pow 2 (n.log2 + 1 - precision)
  let low := n / unit
  let rest := n % unit
  if 2 * rest < unit || (2 * rest == unit && low % 2 == 0) then low * unit else (low + 1) * unit

/-- Whether `significand` times ten to the `exponent` is in range. -/
def isFinite (significand : Nat) (exponent : Int) : Bool :=
  match exponent with
  | .negSucc _ => true
  | .ofNat power =>
    significand == 0
      || (power ≤ maxPower && round (round significand * round (Nat.pow 10 power)) < limit)

end WorkflowNav.Double
