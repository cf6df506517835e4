/-!
# Named values in order

A list of names with their values, as settings are given: a later value for a name takes the place of the
earlier one, and the name keeps the place where it was first given.
-/

namespace LifePlan

/-- Names with values, each name once. -/
abbrev Bindings (α : Type) := List (String × α)

namespace Bindings

variable {α : Type}

/-- Gives a name a value. -/
def assign (name : String) (value : α) : Bindings α → Bindings α
  | [] => [(name, value)]
  | (n, v) :: rest => if n = name then (n, value) :: rest else (n, v) :: assign name value rest

/-- Gives one name after the other its value. -/
def assignAll (bs : Bindings α) (given : List (String × α)) : Bindings α :=
  given.foldl (fun bs g => bs.assign g.1 g.2) bs

/-- The value of a name. -/
def get? (bs : Bindings α) (name : String) : Option α := bs.lookup name

@[simp] theorem get?_nil (name : String) : get? ([] : Bindings α) name = none := rfl

end Bindings

end LifePlan
