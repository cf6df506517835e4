import LifePlan.Kind
import LifePlan.Text.Numeral

/-!
# Faults, misuse and what ends a session

A `Fault` is what goes wrong in a user's work: a bad number, a record that is not there, a full list, a
file that cannot be read. The interpreter tells the user and goes on. A `Misuse` is a call that no line
of a correct program makes, a number beyond what can be read, or a null character where there can be none.
Each has its wording in one function.
-/

namespace LifePlan

/-- The place of a record: an index at each level, counted from 0. -/
abbrev Path := List Int

/-- What a record was looked up for. -/
inductive Purpose where
  | visit
  | add
  | update
  | remove
  deriving DecidableEq, Repr

/-- The verb of a lookup that found nothing. -/
def Purpose.verb : Purpose → String
  | .visit => "do"
  | .add => "add"
  | .update => "update"
  | .remove => "remove"

/-! ## Faults -/

/-- Why a typed number cannot be used. -/
inductive NumberFlaw where
  | zero
  | negative
  | other (reason : String)
  deriving DecidableEq, Repr

/-- The reason, in words. -/
def NumberFlaw.reason : NumberFlaw → String
  | .zero => "numbers start at 1"
  | .negative => "numbers can't be negative"
  | .other reason => reason

/-- Why a count of numbers is wrong. -/
inductive CountFlaw where
  | tooMany
  | tooFew (usage : String)
  | other (message : String)
  deriving DecidableEq, Repr

/-- What was to be done with a file. -/
inductive FileTask where
  | access
  | loadPlan
  | savePlan
  | exportPlan
  | history (action : String)
  deriving DecidableEq, Repr

/-- The task, in words. -/
def FileTask.action : FileTask → String
  | .access => "access"
  | .loadPlan => "load"
  | .savePlan => "save"
  | .exportPlan => "export data to"
  | .history action => action

/-- What goes wrong in a user's work. -/
inductive Fault where
  | general (message : String)
  /-- A number, as typed. -/
  | number (number : Int) (flaw : NumberFlaw)
  | count (command : Command) (item : Item) (given expected : Int) (flaw : CountFlaw)
  | missing (purpose : Purpose) (item : Item) (path : Path)
  | nothingToShow (item : Item)
  | full (item : Item) (limit : Int)
  | unknownCommand (words : List String)
  | file (task : FileTask) (name : String) (reason : Option String)
  deriving DecidableEq, Repr

namespace Fault

/-- Where a user who is lost may look. -/
def helpHint : String := "Use help for a list of commands"

/-- The wording of a fault. -/
def message : Fault → String
  | .general message => message
  | .number n flaw => "Invalid number " ++ toString n ++ ": " ++ flaw.reason
  | .count _ _ _ expected .tooMany =>
    "Too many indexes. " ++ if expected = 0 then "Use none" else "Use less"
  | .count _ _ _ _ (.tooFew usage) => "Not enough indexes. Usage: " ++ usage
  | .count _ _ _ _ (.other message) => message
  | .missing purpose _ _ => "Nothing to " ++ purpose.verb ++ ". " ++ helpHint
  | .nothingToShow _ => "Nothing to show. " ++ helpHint
  | .full item limit => "Maximum number of allowed " ++ item.plural ++ " is " ++ toString limit
  | .unknownCommand words => "Unknown command " ++ " ".intercalate words ++ ". " ++ helpHint
  | .file task name reason =>
    "Unable to " ++ task.action ++ " " ++ name ++
      match reason with
      | some reason => if reason.isEmpty then "" else ": " ++ reason
      | none => ""

end Fault

/-! ## Misuse -/

/-- A call that cannot be answered. -/
inductive Misuse where
  /-- A path with the wrong number of indices. -/
  | pathLength (path : Path) (item : Item) (expected : Nat)
  /-- Records of every kind have no place in common. -/
  | noRecordKind
  /-- The command does not address a record. -/
  | addressless (command : Command)
  /-- A numeral with more digits than are read. -/
  | tooManyDigits (digits : Nat)
  /-- A word is wanted before the first one of a line. -/
  | noSuchWord
  /-- A plan has nothing to tell under a name. -/
  | noSuchField (name : String)
  /-- The name of a file has a null character. -/
  | nullInName
  /-- A line for the history has a null character. -/
  | nullInLine
  deriving DecidableEq, Repr

/-- The wording of a misuse. -/
def Misuse.message : Misuse → String
  | .pathLength path item expected =>
    "Path [" ++ ", ".intercalate (path.map toString) ++ "] does not address a " ++ item.name ++
      " (expected " ++ toString expected ++ " indices)"
  | .noRecordKind => "'all' is not a record kind"
  | .addressless command => "Command '" ++ command.name ++ "' does not address a record"
  | .tooManyDigits digits => digitLimitMessage digits
  | .noSuchWord => "list index out of range"
  | .noSuchField name => "\"Plan\" object has no field \"" ++ name ++ "\""
  | .nullInName => "embedded null byte"
  | .nullInLine => "embedded null character"

/-! ## Failures -/

/-- A fault or a misuse. -/
inductive Failure where
  | fault (fault : Fault)
  | misuse (misuse : Misuse)
  deriving DecidableEq, Repr

/-- What can end a session from outside its commands, besides a failure. -/
inductive Escape where
  | failure (failure : Failure)
  /-- The bytes of a file are no text. -/
  | undecodable
  /-- It cannot be told whether there is a file, since its name is too long. -/
  | nameTooLong
  /-- It is not known where the user's files are. -/
  | homeless
  /-- The answers to a question have ended. -/
  | endOfAnswers
  | readerBroken (message : String)
  deriving DecidableEq, Repr

end LifePlan
