/-!
# Kinds of record, items and commands

The static shape of a life plan. A plan holds goals; a goal holds actions and results; an action holds
agreements; an agreement holds alerts. A kind's lineage lists the kinds from the plan down to it, so its
depth is the number of indices that address one record.

An item is what a command is about: the records of one kind, or all of them.
-/

namespace LifePlan

/-- The most records of one kind that may be added under one parent. -/
def maxChildren : Nat := 7

/-! ## Kinds -/

/-- The kinds of record. -/
inductive Kind where
  | goal
  | action
  | agreement
  | alert
  | result
  deriving DecidableEq, Repr

namespace Kind

/-- The kind's name, as it is typed and printed. -/
def name : Kind → String
  | .goal => "goal"
  | .action => "action"
  | .agreement => "agreement"
  | .alert => "alert"
  | .result => "result"

/-- The kind's name at the start of a line of a listing. -/
def label : Kind → String
  | .goal => "Goal"
  | .action => "Action"
  | .agreement => "Agreement"
  | .alert => "Alert"
  | .result => "Result"

/-- The kinds from the plan down to this one. -/
def lineage : Kind → List Kind
  | .goal => [.goal]
  | .action => [.goal, .action]
  | .agreement => [.goal, .action, .agreement]
  | .alert => [.goal, .action, .agreement, .alert]
  | .result => [.goal, .result]

/-- The number of indices that address one record of the kind. -/
def depth (kind : Kind) : Nat := kind.lineage.length

/-- Every kind, outer ones first. -/
def all : List Kind := [.goal, .action, .agreement, .alert, .result]

theorem mem_all (kind : Kind) : kind ∈ all := by cases kind <;> decide

/-- A lineage ends with the kind itself. -/
theorem getLast?_lineage (kind : Kind) : kind.lineage.getLast? = some kind := by
  cases kind <;> rfl

theorem depth_pos (kind : Kind) : 0 < kind.depth := by cases kind <;> decide

end Kind

/-! ## Items -/

/-- What a command is about. -/
inductive Item where
  | one (kind : Kind)
  | all
  deriving DecidableEq, Repr

namespace Item

/-- The item's name. -/
def name : Item → String
  | .one kind => kind.name
  | .all => "all"

/-- The name of a list of such records. -/
def plural (item : Item) : String := item.name ++ "s"

/-- The kind, if the item is the records of one kind. -/
def kind? : Item → Option Kind
  | .one kind => some kind
  | .all => none

/-- Whether records of the kind belong to the item. -/
def covers : Item → Kind → Bool
  | .one kind, k => k = kind
  | .all, _ => true

@[simp] theorem covers_all (kind : Kind) : covers .all kind = true := rfl

@[simp] theorem covers_one (kind k : Kind) : covers (.one kind) k = decide (k = kind) := rfl

end Item

/-! ## Commands -/

/-- The commands, with one more for a line that names none. -/
inductive Command where
  | add
  | list
  | update
  | remove
  | help
  | clear
  | erase
  | exit
  | abandon
  | unknown
  deriving DecidableEq, Repr

namespace Command

/-- The command's full word. -/
def name : Command → String
  | .add => "add"
  | .list => "show"
  | .update => "update"
  | .remove => "remove"
  | .help => "help"
  | .clear => "clear"
  | .erase => "erase"
  | .exit => "exit"
  | .abandon => "exit!"
  | .unknown => "unknown"

/-- Whether the command works on an item. -/
def takesItem : Command → Bool
  | .add | .list | .update | .remove => true
  | _ => false

/-- Every command. -/
def all : List Command :=
  [.add, .list, .update, .remove, .help, .clear, .erase, .exit, .abandon, .unknown]

theorem mem_all (command : Command) : command ∈ all := by cases command <;> decide

end Command

end LifePlan
