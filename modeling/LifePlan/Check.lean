import LifePlan.Help
import LifePlan.Plan.Address
import LifePlan.Reference

/-!
# Checks before a change

Whether a line gives the right count of numbers, and whether a change could be made on the plan as it is.
Every check comes before the plan is touched, so a line that fails changes nothing.
-/

namespace LifePlan

namespace Check

/-- How many numbers a command on an item needs. -/
def requiredIndices (command : Command) (item : Item) : Except Failure Nat := do
  let kind ← Plan.kindOf item
  return if command = .add then kind.depth - 1 else kind.depth

/-- The count of numbers must be the one needed. -/
def arity (command : Command) (item : Item) (path : Path) : Except Failure Unit := do
  let expected ← requiredIndices command item
  let kind ← Plan.kindOf item
  if path.length > expected then
    .error (.fault (.count command item path.length expected .tooMany))
  else if path.length < expected then
    .error (.fault (.count command item path.length expected (.tooFew (Help.usage command kind))))
  else .ok ()

/-- The command must be able to change the plan at the place: to add, the parent must be there and have
room; to update or to remove, the record must be there. -/
def target (p : Plan) (command : Command) (item : Item) (path : Path) : Except Failure Unit :=
  match command with
  | .add => do
    let siblings ← p.children item path .add
    if siblings.length ≥ maxChildren then .error (.fault (.full item maxChildren)) else .ok ()
  | .update => do
    let _ ← p.node item path .update
    .ok ()
  | .remove => do
    let _ ← p.node item path .remove
    .ok ()
  | _ => .error (.misuse (.addressless command))

end Check

end LifePlan
