import LifePlan.FileName

/-!
# Settings

What can be set: three files, how much is logged, whether there is colour, and whether a new data file is
made without asking. A source gives a setting a value of some kind, and only some values make sense for it.
-/

namespace LifePlan

/-- What can be set. -/
inductive Setting where
  | dataFile
  | historyFile
  | exportFile
  | logLevel
  | color
  | assumeYes
  deriving DecidableEq, Repr

/-- The setting's name. -/
def Setting.name : Setting → String
  | .dataFile => "data_file"
  | .historyFile => "history_file"
  | .exportFile => "export_file"
  | .logLevel => "log_level"
  | .color => "color"
  | .assumeYes => "assume_yes"

/-- A value that a source gives. -/
inductive Given where
  | text (s : String)
  | bool (b : Bool)
  | int (n : Int)
  /-- A text that is given as its bytes, which is no name of a file. -/
  | bytes (s : String)
  /-- A value of a kind that nothing can be set to. -/
  | other
  deriving DecidableEq, Repr

namespace Given

/-- The words for yes. -/
def yesWords : List String := ["true", "1", "yes", "on", "t", "y"]

/-- The words for no. -/
def noWords : List String := ["false", "0", "no", "off", "f", "n"]

/-- A word as yes or no; its case does not matter. -/
def wordBool? (s : String) : Option Bool :=
  let word := s.map Char.toLower
  if word ∈ yesWords then some true else if word ∈ noWords then some false else none

/-- The value as yes or no. -/
def bool? : Given → Option Bool
  | .bool b => some b
  | .int n => if n = 1 then some true else if n = 0 then some false else none
  | .text s => wordBool? s
  | .bytes s => wordBool? s
  | .other => none

/-- The value as a text. -/
def text? : Given → Option String
  | .text s => some s
  | .bytes s => some s
  | _ => none

/-- The value as the name of a file. -/
def file? : Given → Option FileName
  | .text s => some (.ofText s)
  | _ => none

end Given

/-- The settings of a run. -/
structure Settings where
  dataFile : FileName
  historyFile : FileName
  exportFile : FileName
  logLevel : String
  color : Bool
  assumeYes : Bool
  deriving DecidableEq, Repr

namespace Settings

/-- The usual data file in a home directory. -/
def usualDataFile (home : FileName) : FileName := home.child "lipla.dat"

/-- The usual history file in a home directory. -/
def usualHistoryFile (home : FileName) : FileName := home.child "lipla.his"

/-- The settings when nothing is given. -/
def usual (home : FileName) : Settings where
  dataFile := usualDataFile home
  historyFile := usualHistoryFile home
  exportFile := ⟨0, ["lipla.xml"]⟩
  logLevel := "WARNING"
  color := true
  assumeYes := false

/-- A value that is given, if it makes sense; or else the usual one. -/
def choose {α : Type} (read? : Given → Option α) (given : Option Given) (usual : α) : Option α :=
  match given with
  | some g => read? g
  | none => some usual

/-- The settings from the value given for each of them. If one makes no sense there are no settings. -/
def ofGiven (home : FileName) (given : Setting → Option Given) : Option Settings := do
  let usual := Settings.usual home
  let dataFile ← choose Given.file? (given .dataFile) usual.dataFile
  let historyFile ← choose Given.file? (given .historyFile) usual.historyFile
  let exportFile ← choose Given.file? (given .exportFile) usual.exportFile
  let logLevel ← choose Given.text? (given .logLevel) usual.logLevel
  let color ← choose Given.bool? (given .color) usual.color
  let assumeYes ← choose Given.bool? (given .assumeYes) usual.assumeYes
  return ⟨dataFile, historyFile, exportFile, logLevel, color, assumeYes⟩

/-- Whether the values given leave a file to be found in the home directory. -/
def needsHome (given : Setting → Option Given) : Bool :=
  (given .dataFile).isNone || (given .historyFile).isNone

/-- Whether the data file is the usual one. -/
def usesUsualDataFile (s : Settings) (home : FileName) : Bool := s.dataFile = usualDataFile home

end Settings

end LifePlan
