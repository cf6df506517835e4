import LifePlan.Rounding

/-!
# Fractions of a YAML document

A fraction is taken to the nearest number that has 53 binary digits, and so are products and sums. A number
that is too great for that is infinite, and what has no value is undefined.
-/

namespace LifePlan.Yaml

/-- A fraction. -/
inductive Fraction where
  /-- So many times the smallest fraction above zero. -/
  | finite (units : Int)
  | infinite (isNegative : Bool)
  | undefined
  deriving DecidableEq, Repr

namespace Fraction

/-- How many of the smallest fraction make one. -/
def one : Nat := 1 <<< 1074

/-- Zero. -/
def zero : Fraction := .finite 0

/-! ## Rounding -/

/-- The fraction nearest to a quotient of so many of the smallest one. -/
def ofUnits (isNegative : Bool) (n divisor : Nat) : Fraction :=
  let units := Rounding.kept n divisor
  if Rounding.limit * one ≤ units then .infinite isNegative
  else .finite (if isNegative then -units else units)

/-- The fraction nearest to a number of times a power of ten. -/
def ofDecimal (n : Nat) (exponent : Int) : Fraction :=
  let size := (Nat.toDigits 10 n).length + exponent
  if n = 0 ∨ size < -330 then .zero
  else if size > 310 then .infinite false
  else ofUnits false (n * Nat.pow 10 exponent.toNat * one) (Nat.pow 10 (-exponent).toNat)

/-! ## Arithmetic -/

/-- The opposite fraction. -/
def opposite : Fraction → Fraction
  | .finite units => .finite (-units)
  | .infinite isNegative => .infinite !isNegative
  | .undefined => .undefined

/-- So many times a fraction; the number is not zero. -/
def times (n : Nat) : Fraction → Fraction
  | .finite units => ofUnits (units < 0) (units.natAbs * n) 1
  | f => f

/-- The sum of two fractions. -/
def plus : Fraction → Fraction → Fraction
  | .finite m, .finite n => ofUnits (m + n < 0) (m + n).natAbs 1
  | .infinite a, .infinite b => if a = b then .infinite a else .undefined
  | .undefined, _ => .undefined
  | _, .undefined => .undefined
  | .infinite a, _ => .infinite a
  | _, .infinite b => .infinite b

/-- The whole number that a fraction is, if it is one. -/
def whole? : Fraction → Option Int
  | .finite units => if units % one = 0 then some (units / one) else none
  | _ => none

end Fraction

end LifePlan.Yaml
