import LifePlan.Json.Text
import LifePlan.Json.Value

/-!
# Writing JSON

A value is written over several lines: every item and every member on a line of its own, two spaces deeper
than its container. An empty container takes no line of its own.
-/

namespace LifePlan.Json

/-- A text between quotes. -/
def quote (s : String) : List Char := '"' :: (escape s.toList ++ ['"'])

/-- The break before a line at a depth. -/
def lineBreak (depth : Nat) : List Char := '\n' :: List.replicate (2 * depth) ' '

mutual

/-- The characters of a value that starts at a depth. -/
def Value.write (depth : Nat) : Value → List Char
  | .null => "null".toList
  | .bool true => "true".toList
  | .bool false => "false".toList
  | .number numeral => numeral.toList
  | .text s => quote s
  | .array [] => ['[', ']']
  | .array (v :: vs) =>
    '[' :: (lineBreak (depth + 1) ++ v.write (depth + 1) ++ writeItems (depth + 1) vs ++
      lineBreak depth ++ [']'])
  | .object [] => ['\x7b', '\x7d']
  | .object (m :: ms) =>
    '\x7b' :: (lineBreak (depth + 1) ++ writeMember (depth + 1) m ++ writeMembers (depth + 1) ms ++
      lineBreak depth ++ ['\x7d'])

/-- The items after the first one. -/
def writeItems (depth : Nat) : List Value → List Char
  | [] => []
  | v :: vs => ',' :: (lineBreak depth ++ v.write depth ++ writeItems depth vs)

/-- A name and its value. -/
def writeMember (depth : Nat) : String × Value → List Char
  | (name, v) => quote name ++ ':' :: ' ' :: v.write depth

/-- The members after the first one. -/
def writeMembers (depth : Nat) : List (String × Value) → List Char
  | [] => []
  | m :: ms => ',' :: (lineBreak depth ++ writeMember depth m ++ writeMembers depth ms)

end

/-- The document of a value. -/
def write (v : Value) : List Char := v.write 0

end LifePlan.Json
