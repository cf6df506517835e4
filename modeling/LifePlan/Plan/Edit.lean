import LifePlan.Plan.Address

/-!
# Changing a plan

Adding a record at the end of its parent's list, replacing a description, removing a record with all that
it owns, clearing the whole plan. A change that fails leaves the plan as it was.
-/

namespace LifePlan

/-! ## Changes at a place -/

/-- The goal with one action changed. -/
def Goal.modifyAction (x : Goal) (a : Int) (f : Action → Action) : Goal :=
  { x with actions := x.actions.modify a.toNat f }

/-- The action with one agreement changed. -/
def Action.modifyAgreement (x : Action) (ag : Int) (f : Agreement → Agreement) : Action :=
  { x with agreements := x.agreements.modify ag.toNat f }

namespace Plan

/-- The plan with one goal changed. -/
def modifyGoal (p : Plan) (g : Int) (f : Goal → Goal) : Plan :=
  { p with goals := p.goals.modify g.toNat f }

/-- The plan with one action changed. -/
def modifyAction (p : Plan) (g a : Int) (f : Action → Action) : Plan :=
  p.modifyGoal g fun goal => goal.modifyAction a f

/-- The plan with one agreement changed. -/
def modifyAgreement (p : Plan) (g a ag : Int) (f : Agreement → Agreement) : Plan :=
  p.modifyAction g a fun action => action.modifyAgreement ag f

/-- The plan with a new record after the last one of its kind under the parent at a path. -/
def append (p : Plan) (kind : Kind) (parent : Path) (date description : String) : Plan :=
  match kind, parent with
  | .goal, [] => { p with goals := p.goals ++ [⟨date, description, [], []⟩] }
  | .action, [g] =>
    p.modifyGoal g fun x => { x with actions := x.actions ++ [⟨date, description, []⟩] }
  | .agreement, [g, a] =>
    p.modifyAction g a fun x => { x with agreements := x.agreements ++ [⟨date, description, []⟩] }
  | .alert, [g, a, ag] =>
    p.modifyAgreement g a ag fun x => { x with alerts := x.alerts ++ [⟨date, description⟩] }
  | .result, [g] =>
    p.modifyGoal g fun x => { x with results := x.results ++ [⟨date, description⟩] }
  | _, _ => p

/-- The plan with another description for the record at a path. -/
def describe (p : Plan) (kind : Kind) (path : Path) (description : String) : Plan :=
  match kind, path with
  | .goal, [g] => p.modifyGoal g fun x => { x with description := description }
  | .action, [g, a] => p.modifyAction g a fun x => { x with description := description }
  | .agreement, [g, a, ag] =>
    p.modifyAgreement g a ag fun x => { x with description := description }
  | .alert, [g, a, ag, al] =>
    p.modifyAgreement g a ag fun x =>
      { x with alerts := x.alerts.modify al.toNat fun y => { y with description := description } }
  | .result, [g, r] =>
    p.modifyGoal g fun x =>
      { x with results := x.results.modify r.toNat fun y => { y with description := description } }
  | _, _ => p

/-- The plan without the record at a path. -/
def erase (p : Plan) (kind : Kind) (path : Path) : Plan :=
  match kind, path with
  | .goal, [g] => { p with goals := p.goals.eraseIdx g.toNat }
  | .action, [g, a] => p.modifyGoal g fun x => { x with actions := x.actions.eraseIdx a.toNat }
  | .agreement, [g, a, ag] =>
    p.modifyAction g a fun x => { x with agreements := x.agreements.eraseIdx ag.toNat }
  | .alert, [g, a, ag, al] =>
    p.modifyAgreement g a ag fun x => { x with alerts := x.alerts.eraseIdx al.toNat }
  | .result, [g, r] => p.modifyGoal g fun x => { x with results := x.results.eraseIdx r.toNat }
  | _, _ => p

/-! ## Changes with their failures -/

/-- Adds a record under the parent at a path; the parent must be there and must have room. The new record
takes one reading of the clock, and only if it is made. -/
def add (p : Plan) (clock : Clock) (item : Item) (parent : Path) (description : String) :
    Except Failure (Node × Plan × Clock) := do
  let kind ← kindOf item
  let siblings ← p.children item parent .add
  if siblings.length ≥ maxChildren then .error (.fault (.full item maxChildren))
  else
    .ok (.fresh kind clock.now description, p.append kind parent clock.now description, clock.tick)

/-- Replaces the description of the record at a path. -/
def update (p : Plan) (item : Item) (path : Path) (description : String) :
    Except Failure (Node × Plan) := do
  let kind ← kindOf item
  let node ← p.node item path .update
  .ok (node.describe description, p.describe kind path description)

/-- Removes the record at a path, and gives it back. -/
def remove (p : Plan) (item : Item) (path : Path) : Except Failure (Node × Plan) := do
  let kind ← kindOf item
  let node ← p.node item path .remove
  .ok (node, p.erase kind path)

/-- Removes the goals and the personal data; birthday and date become the present. -/
def clear (_p : Plan) (clock : Clock) : Plan × Clock := fresh clock

end Plan

end LifePlan
