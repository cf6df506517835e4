/-!
# JSON values

Values of the JSON data format. A number keeps its text, since the programs here never calculate with
one; an object keeps its members in order, repeated names included.
-/

namespace LifePlan.Json

/-- A JSON value. -/
inductive Value where
  | null
  | bool (b : Bool)
  | number (numeral : String)
  | text (s : String)
  | array (items : List Value)
  | object (members : List (String × Value))
  deriving Repr

/-- The value of the last member of a name. -/
def lookup (members : List (String × Value)) (name : String) : Option Value :=
  members.foldl (fun found m => if m.1 = name then some m.2 else found) none

end LifePlan.Json
