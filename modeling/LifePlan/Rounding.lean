/-!
# Rounding

What has to be rounded goes to the nearest neighbour, and a half to the even one: quotients to whole numbers,
and numbers to those that have 53 binary digits.
-/

namespace LifePlan.Rounding

/-- The whole number nearest to a quotient. -/
def nearest (n divisor : Nat) : Nat :=
  let double := 2 * (n % divisor)
  if double > divisor ∨ (double = divisor ∧ n / divisor % 2 = 1) then n / divisor + 1 else n / divisor

/-- The number of binary digits that are kept. -/
def binaryDigits : Nat := 53

/-- The whole number nearest to a quotient of all that have no more binary digits than are kept, but for
zeros at the end. -/
def kept (n divisor : Nat) : Nat :=
  let unit := 1 <<< ((n / divisor).log2 + 1 - binaryDigits)
  unit * nearest n (divisor * unit)

/-- The first power of two that is too great to be kept. -/
def limit : Nat := 1 <<< 1024

end LifePlan.Rounding
