import LifePlan.Text.Literal

/-!
# Values in messages

A value that a message tells: a text, a number, a truth value, nothing, or some of these in a list or under
names. It is either shown, where a text stands for itself, or spelled as it would be in a program, where a
text stands in quotes. Inside a list or a mapping every value is spelled.
-/

namespace LifePlan.Log

/-- A value for a message. -/
inductive Datum where
  | text (s : String)
  | int (n : Int)
  | bool (b : Bool)
  | null
  | list (items : List Datum)
  | mapping (members : List (String × Datum))
  deriving Repr, Inhabited

namespace Datum

mutual

/-- The value as it is spelled in a program, if texts are put between quotes in the given way. -/
def spelled (spell : List Char → List Char) : Datum → String
  | .text s => String.ofList (spell s.toList)
  | .int n => toString n
  | .bool b => if b then "True" else "False"
  | .null => "None"
  | .list items => "[" ++ ", ".intercalate (spelledItems spell items) ++ "]"
  | .mapping members => "\x7b" ++ ", ".intercalate (spelledMembers spell members) ++ "\x7d"

/-- The items of a list as they are spelled. -/
def spelledItems (spell : List Char → List Char) : List Datum → List String
  | [] => []
  | item :: rest => item.spelled spell :: spelledItems spell rest

/-- The members of a mapping as they are spelled. -/
def spelledMembers (spell : List Char → List Char) : List (String × Datum) → List String
  | [] => []
  | (name, value) :: rest =>
    (String.ofList (spell name.toList) ++ ": " ++ value.spelled spell) :: spelledMembers spell rest

end

/-- The value as it is spelled in a program. -/
def literal (d : Datum) : String := d.spelled Text.spell

/-- The value as it is spelled in a program, in ASCII. -/
def asciiLiteral (d : Datum) : String := d.spelled Text.spellAscii

/-- The value as it is shown. -/
def shown : Datum → String
  | .text s => s
  | d => d.literal

/-- Some values as they are shown together: a single one as it is, and several in brackets. -/
def shownAll : List Datum → String
  | [] => ""
  | [d] => d.shown
  | ds => "(" ++ ", ".intercalate (spelledItems Text.spell ds) ++ ")"

/-- The value as a number. -/
def number? : Datum → Option Int
  | .int n => some n
  | .bool b => some (if b then 1 else 0)
  | _ => none

end Datum

end LifePlan.Log
