import LifePlan.Rounding

/-!
# Numbers with a point

A whole number as it is written with a point, be it with a fixed number of places or with an exponent. It is
taken to the nearest number that has 53 binary digits first.
-/

namespace LifePlan.Log.Fraction

/-! ## Digits -/

/-- Some digits, the first of which stands before the point, and the power of ten that they are times. -/
structure Scientific where
  digits : List Char
  exponent : Nat
  deriving DecidableEq, Repr

/-- A number with so many digits that count. -/
def scientific (count n : Nat) : Scientific :=
  let written := Nat.toDigits 10 n
  if written.length ≤ count then
    ⟨written ++ List.replicate (count - written.length) '0', written.length - 1⟩
  else
    let digits := Nat.toDigits 10 (Rounding.nearest n (Nat.pow 10 (written.length - count)))
    ⟨digits.take count, digits.length + (written.length - count) - 1⟩

/-- What stands behind the point, with the point; with no places the point may be left out. -/
def behindPoint (keepPoint : Bool) (places : List Char) : List Char :=
  if places = [] && !keepPoint then [] else '.' :: places

/-- The digits without the zeros at the end. -/
def dropZeros (digits : List Char) : List Char := (digits.reverse.dropWhile (· = '0')).reverse

/-- The exponent, with its sign and at least two digits. -/
def exponent (letter : Char) (n : Nat) : List Char :=
  let digits := Nat.toDigits 10 n
  letter :: '+' :: List.replicate (2 - digits.length) '0' ++ digits

/-! ## Styles -/

/-- A number with a fixed number of places. -/
def fixed (keepPoint : Bool) (places n : Nat) : List Char :=
  Nat.toDigits 10 n ++ behindPoint keepPoint (List.replicate places '0')

/-- A number with a fixed number of places and an exponent. -/
def withExponent (keepPoint : Bool) (letter : Char) (places n : Nat) : List Char :=
  let s := scientific (places + 1) n
  s.digits.take 1 ++ behindPoint keepPoint (s.digits.drop 1) ++ exponent letter s.exponent

/-- A number with so many digits that count, without zeros at the end unless they are to be kept; one that
has more digits before the point has an exponent. -/
def general (keepAll : Bool) (letter : Char) (count n : Nat) : List Char :=
  let count := max count 1
  let s := scientific count n
  let places (digits : List Char) : List Char :=
    behindPoint keepAll (if keepAll then digits else dropZeros digits)
  if s.exponent < count then
    s.digits.take (s.exponent + 1) ++ places (s.digits.drop (s.exponent + 1))
  else s.digits.take 1 ++ places (s.digits.drop 1) ++ exponent letter s.exponent

end LifePlan.Log.Fraction
