import LifePlan.Fault
import LifePlan.Plan.Basic

/-!
# Looking records up by their place

A path is followed from the plan downwards, one index per kind of the lineage, each time anew: a removed
record shifts its later siblings. A path of the wrong length is a misuse; an index that is not there is
a fault that names what the record was wanted for.
-/

namespace LifePlan

/-- The element at an index that may be negative or too large. -/
def at? {α : Type} (xs : List α) : Int → Option α
  | .ofNat n => xs[n]?
  | .negSucc _ => none

@[simp] theorem at?_natCast {α : Type} (xs : List α) (n : Nat) : at? xs (n : Int) = xs[n]? := rfl

/-- An index is there exactly within the bounds of the list. -/
theorem isSome_at?_iff {α : Type} (xs : List α) (i : Int) :
    (at? xs i).isSome = true ↔ 0 ≤ i ∧ i < xs.length := by
  cases i with
  | ofNat n => simp [at?]
  | negSucc n => simp [at?]

namespace Plan

/-- The record of a kind at a path. -/
def node? (p : Plan) (kind : Kind) (path : Path) : Option Node :=
  match kind, path with
  | .goal, [g] => (at? p.goals g).map .goal
  | .action, [g, a] => do
    let goal ← at? p.goals g
    (at? goal.actions a).map .action
  | .agreement, [g, a, ag] => do
    let goal ← at? p.goals g
    let action ← at? goal.actions a
    (at? action.agreements ag).map .agreement
  | .alert, [g, a, ag, al] => do
    let goal ← at? p.goals g
    let action ← at? goal.actions a
    let agreement ← at? action.agreements ag
    (at? agreement.alerts al).map .alert
  | .result, [g, r] => do
    let goal ← at? p.goals g
    (at? goal.results r).map .result
  | _, _ => none

/-- The records of a kind under the parent at a path. -/
def children? (p : Plan) (kind : Kind) (path : Path) : Option (List Node) :=
  match kind, path with
  | .goal, [] => some (p.goals.map .goal)
  | .action, [g] => do
    let goal ← at? p.goals g
    return goal.actions.map .action
  | .agreement, [g, a] => do
    let goal ← at? p.goals g
    let action ← at? goal.actions a
    return action.agreements.map .agreement
  | .alert, [g, a, ag] => do
    let goal ← at? p.goals g
    let action ← at? goal.actions a
    let agreement ← at? action.agreements ag
    return agreement.alerts.map .alert
  | .result, [g] => do
    let goal ← at? p.goals g
    return goal.results.map .result
  | _, _ => none

/-- The kind of an item; records of every kind have no place in common. -/
def kindOf (item : Item) : Except Failure Kind :=
  match item.kind? with
  | some kind => .ok kind
  | none => .error (.misuse .noRecordKind)

/-- The record at a path, or why there is none. -/
def node (p : Plan) (item : Item) (path : Path) (purpose : Purpose) : Except Failure Node := do
  let kind ← kindOf item
  if path.length ≠ kind.depth then .error (.misuse (.pathLength path item kind.depth))
  else
    match p.node? kind path with
    | some node => .ok node
    | none => .error (.fault (.missing purpose item path))

/-- The records of an item under the parent at a path, or why there is no such parent. -/
def children (p : Plan) (item : Item) (parent : Path) (purpose : Purpose) :
    Except Failure (List Node) := do
  let kind ← kindOf item
  if parent.length ≠ kind.depth - 1 then
    .error (.misuse (.pathLength parent item (kind.depth - 1)))
  else
    match p.children? kind parent with
    | some nodes => .ok nodes
    | none => .error (.fault (.missing purpose item parent))

end Plan

end LifePlan
