import LifePlan.Calendar
import LifePlan.Text.Literal
import LifePlan.Text.Numeral

/-!
# What can be wrong with a YAML document

A document can have characters that it must not have, pieces that are no tokens, tokens out of place, names
for values that there are not, and values that mean nothing. Each flaw has its wording in one function.
-/

namespace LifePlan.Yaml

/-- What is wrong with a document. -/
inductive Flaw where
  /-- It has a character that it must not have. -/
  | character
  /-- It has a piece that is no token. -/
  | token
  /-- Its tokens are out of place. -/
  | shape
  /-- There is more than one document, or a name for a value stands for none or for two. -/
  | document
  /-- Too many collections stand inside of each other. -/
  | tooDeep
  /-- A value cannot be what its tag says. -/
  | meaning
  /-- The code of a character is beyond all characters. -/
  | code
  /-- The code of a character is beyond all codes. -/
  | hugeCode
  /-- A text that is to be a truth value is none. -/
  | noTruthValue
  /-- A text that is to be a number is empty. -/
  | emptyNumeral
  /-- A text that is to be a date is none. -/
  | noDate
  /-- A text that is to be a whole number of a base is none. -/
  | numeral (base : Nat) (text : String)
  /-- A number is too great for a fraction. -/
  | tooGreat
  /-- A date is to be made of what is no text. -/
  | notText
  /-- A whole number has too many digits. -/
  | tooManyDigits (digits : Nat)
  /-- A text that is to be a fraction is none. -/
  | fraction (text : String)
  /-- A date does not exist. -/
  | date (flaw : DateFlaw)
  deriving DecidableEq, Repr

/-- The wording of a flaw. -/
def Flaw.message : Flaw → String
  | .character => "unacceptable character"
  | .token => "cannot find a token"
  | .shape => "token out of place"
  | .document => "not a single document"
  | .tooDeep => "nested too deep"
  | .meaning => "value does not fit its tag"
  | .code => "chr() arg not in range(0x110000)"
  | .hugeCode => "code too large"
  | .noTruthValue => "not a truth value"
  | .emptyNumeral => "empty numeral"
  | .noDate => "not a date"
  | .tooGreat => "number too great for a fraction"
  | .notText => "not a text"
  | .numeral base text =>
    "invalid literal for int() with base " ++ toString base ++ ": " ++
      String.ofList ((Text.spell text.toList).take 200)
  | .tooManyDigits digits => digitLimitMessage digits
  | .fraction text => "could not convert string to float: " ++ String.ofList (Text.spell text.toList)
  | .date flaw => flaw.message

end LifePlan.Yaml
