import LifePlan.Log.Template
import LifePlan.Text.Case

/-!
# The log

A log has a level, below which messages do not count, and is heard by at most one handler. The handler tells
every message with the data file in use and the name of the logger.
-/

namespace LifePlan

/-! ## Levels -/

/-- How much a message matters. -/
inductive Log.Level where
  | notSet
  | debug
  | info
  | warning
  | error
  | critical
  deriving DecidableEq, Repr

namespace Log.Level

/-- The level's name. -/
def name : Level → String
  | .notSet => "NOTSET"
  | .debug => "DEBUG"
  | .info => "INFO"
  | .warning => "WARNING"
  | .error => "ERROR"
  | .critical => "CRITICAL"

/-- The level as a number. -/
def number : Level → Int
  | .notSet => 0
  | .debug => 10
  | .info => 20
  | .warning => 30
  | .error => 40
  | .critical => 50

/-- The level of a name; two of them have a second name. -/
def ofName? (name : String) : Option Level :=
  match name with
  | "WARN" => some .warning
  | "FATAL" => some .critical
  | _ => [notSet, debug, info, warning, error, critical].find? (·.name = name)

end Log.Level

/-! ## State -/

/-- A log. -/
structure Log where
  level : Log.Level
  /-- Whether a handler listens. -/
  heard : Bool
  /-- The data files in use, innermost first. -/
  files : List String
  deriving DecidableEq, Repr

namespace Log

/-- The log at the start of a run. -/
def initial : Log := ⟨.warning, false, []⟩

/-- The wording for a level that there is not. -/
def unknownLevel (name : String) : String := "Unknown level: " ++ String.ofList (Text.spell name.toList)

/-- Sets the level by its name, in any case, and lets a handler listen. The name of a level that there is not
is given back in capitals. -/
def configure (log : Log) (name : String) : Except String Log :=
  let name := String.ofList (Text.upper name.toList)
  match Level.ofName? name with
  | some level => .ok { log with level := level, heard := true }
  | none => .error name

/-- Starts the use of a data file. -/
def enter (log : Log) (file : String) : Log := { log with files := file :: log.files }

/-- Ends the use of the last data file. -/
def exit (log : Log) : Log := { log with files := log.files.drop 1 }

/-- The data file in use, or a dash. -/
def file (log : Log) : String := log.files.head?.getD "-"

/-! ## Messages -/

/-- Whether a message of a level counts; nothing counts at level 0 or below. -/
def counts (log : Log) (number : Int) : Bool := 0 < number && log.level.number ≤ number

/-- The line that the handler tells. -/
def line (log : Log) (logger message : String) : String :=
  "file=" ++ log.file ++ " " ++ logger ++ ": " ++ message

/-- What every handler tells of a message. -/
def tell (log : Log) (logger template : String) (values : List Datum) : Except TemplateFlaw (List String) :=
  if log.heard then do
    let message ← fill template values
    return [log.line logger message]
  else .ok []

end Log

end LifePlan
