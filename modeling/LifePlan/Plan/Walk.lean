import LifePlan.Fault
import LifePlan.Plan.Basic

/-!
# Walking through a plan

The records of a plan in the order in which they are listed: a goal is followed by its actions, each with
its agreements and their alerts, and then by its results. Each comes with its path.
-/

namespace LifePlan

/-- A record with its place. -/
structure Entry where
  path : Path
  node : Node
  deriving DecidableEq, Repr

/-- The record's kind. -/
def Entry.kind (e : Entry) : Kind := e.node.kind

/-- The entries of a list of siblings, the first of which has the index `i` below `path`. -/
def entriesFrom {α : Type} (f : Path → α → List Entry) (path : Path) (i : Nat) : List α → List Entry
  | [] => []
  | x :: xs => f (path ++ [(i : Int)]) x ++ entriesFrom f path (i + 1) xs

@[simp] theorem entriesFrom_nil {α : Type} (f : Path → α → List Entry) (path : Path) (i : Nat) :
    entriesFrom f path i [] = [] := rfl

@[simp] theorem entriesFrom_cons {α : Type} (f : Path → α → List Entry) (path : Path) (i : Nat)
    (x : α) (xs : List α) :
    entriesFrom f path i (x :: xs) = f (path ++ [(i : Int)]) x ++ entriesFrom f path (i + 1) xs := rfl

theorem entriesFrom_append {α : Type} (f : Path → α → List Entry) (path : Path) (i : Nat)
    (xs ys : List α) :
    entriesFrom f path i (xs ++ ys) =
      entriesFrom f path i xs ++ entriesFrom f path (i + xs.length) ys := by
  induction xs generalizing i with
  | nil => simp
  | cons x xs ih => simp [ih, Nat.add_assoc, Nat.add_comm 1]

/-- An alert as an entry. -/
def Alert.entries (path : Path) (x : Alert) : List Entry := [⟨path, .alert x⟩]

/-- A result as an entry. -/
def Result.entries (path : Path) (x : Result) : List Entry := [⟨path, .result x⟩]

/-- An agreement and its alerts. -/
def Agreement.entries (path : Path) (x : Agreement) : List Entry :=
  ⟨path, .agreement x⟩ :: entriesFrom Alert.entries path 0 x.alerts

/-- An action and what it owns. -/
def Action.entries (path : Path) (x : Action) : List Entry :=
  ⟨path, .action x⟩ :: entriesFrom Agreement.entries path 0 x.agreements

/-- A goal, its actions and what they own, and its results. -/
def Goal.entries (path : Path) (x : Goal) : List Entry :=
  ⟨path, .goal x⟩ ::
    (entriesFrom Action.entries path 0 x.actions ++ entriesFrom Result.entries path 0 x.results)

namespace Plan

/-- Every record of the plan with its place, in the order of a listing. -/
def walk (p : Plan) : List Entry := entriesFrom Goal.entries [] 0 p.goals

/-- The entries of an item. -/
def select (p : Plan) (item : Item) : List Entry := p.walk.filter fun e => item.covers e.kind

/-- How many records of an item there are. -/
def count (p : Plan) (item : Item) : Nat := p.walk.countP fun e => item.covers e.kind

theorem count_eq_length_select (p : Plan) (item : Item) : p.count item = (p.select item).length :=
  List.countP_eq_length_filter

end Plan

end LifePlan
