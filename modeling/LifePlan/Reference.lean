import LifePlan.Fault
import LifePlan.Text.Quoted

/-!
# Numbers and description

The remainder of a command line names a record by numbers and may go on with a description:
`2.1 "walk to work"`. Numbers count from 1, are written in ASCII digits with an optional minus sign, and
are closed by a delimiter or by the end of the text. What has been begun like a number and is not closed
in this way belongs to the description, so `2nd place` is all description.
-/

namespace LifePlan

namespace Reference

/-! ## Numerals -/

/-- The characters that close a number. The minus sign is not among them. -/
def isDelimiter (c : Char) : Bool :=
  c == ' ' || c == '.' || c == '#' || c == ',' || c == '/' || c == '|' || c == ';' || c == ':'

/-- Splits a text into the numerals at its front and the rest. What has been begun of the next numeral is
given backwards. -/
def scan (begun : List Char) : List Char → List (List Char) × List Char
  | [] => if begun = [] ∨ begun = ['-'] then ([], begun) else ([begun.reverse], [])
  | c :: cs =>
    if c.isDigit then scan (c :: begun) cs
    else if c = '-' ∧ begun = [] then scan ['-'] cs
    else if isDelimiter c ∧ begun ≠ ['-'] then
      if begun = [] then scan [] cs
      else (begun.reverse :: (scan [] cs).1, (scan [] cs).2)
    else ([], begun.reverse ++ c :: cs)

/-- The number that digits write. -/
def digitsValue (ds : List Char) : Nat :=
  ds.foldl (fun n d => 10 * n + (d.toNat - 48)) 0

/-- The number that a numeral writes. -/
def numeralValue : List Char → Except Misuse Int
  | '-' :: ds =>
    if ds.length > digitLimit then .error (.tooManyDigits ds.length) else .ok (-(digitsValue ds : Int))
  | ds =>
    if ds.length > digitLimit then .error (.tooManyDigits ds.length) else .ok (digitsValue ds)

/-- Numbers count from 1. -/
def checkNumber (n : Int) : Except Fault Int :=
  if n = 0 then .error (.number 0 .zero)
  else if n < 0 then .error (.number n .negative)
  else .ok n

end Reference

/-! ## References -/

/-- What follows the command and the item: where, and what to write there. -/
structure Reference where
  /-- The numbers, counted from 0. -/
  indices : Path
  description : String
  deriving DecidableEq, Repr

namespace Reference

/-- The numbers as the user typed them. -/
def numbers (r : Reference) : List Int := r.indices.map (· + 1)

/-- Reads a remainder. A numeral that is too long fails before any number is looked at; after that the
first number below 1 does. -/
def parse (remainder : String) : Except Failure Reference := do
  let (numerals, tail) := scan [] (Text.strip remainder.toList)
  let values ← (numerals.mapM numeralValue).mapError .misuse
  let numbers ← (values.mapM checkNumber).mapError .fault
  return ⟨numbers.map (· - 1), String.ofList (Text.unquote tail)⟩

end Reference

end LifePlan
