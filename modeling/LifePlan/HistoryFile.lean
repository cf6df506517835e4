import LifePlan.Archive

/-!
# History files

The command lines of earlier runs, one on each line of a file. When they are read, empty lines count for
nothing, and neither does a last line that was not finished. If the file starts with a time mark, a hash mark
before a digit, then all lines that start so are time marks.
-/

namespace LifePlan.HistoryFile

/-- The finished lines of a file: those with a line feed behind them, without a carriage return before it. -/
def finishedLines (cs : List Char) : List (List Char) :=
  (Text.splitOn '\n' cs).dropLast.map fun l => if l.getLast? = some '\r' then l.dropLast else l

/-- A line up to a null character. -/
def beforeNull (line : List Char) : List Char := line.takeWhile (· ≠ '\x00')

/-- Whether a line is a time mark. -/
def isTimeMark : List Char → Bool
  | '#' :: d :: _ => d.isDigit
  | _ => false

/-- The command lines in a file. -/
def parse (cs : List Char) : List String :=
  let lines := (finishedLines cs).map beforeNull |>.filter fun l => !l.isEmpty
  let lines := if isTimeMark cs then lines.filter fun l => !isTimeMark l else lines
  lines.map String.ofList

/-- Whether a line can be kept: it can unless it holds a null character. The locale is taken to have bytes for every
character. -/
def keeps (line : String) : Bool := !line.toList.contains '\x00'

/-- The file of some command lines. -/
def print (lines : List String) : List Char := lines.flatMap fun l => l.toList ++ ['\n']

/-- What is told of a directory in the place of a history file. -/
def notAFile : String := "Invalid argument"

/-- The command lines in a file. A file that is not there holds none. -/
def load (s : Store) (file : FileName) : Except Escape (List String) :=
  match s.search file with
  | .error _ => .error .nameTooLong
  | .ok none => .ok []
  | .ok (some .directory) =>
    .error (.failure (.fault (.file (.history "load") file.text (some notAFile))))
  | .ok (some (.file content)) =>
    .ok (((String.fromUTF8? content).map fun t => parse t.toList).getD [])

/-- How many bytes longer than a file's name that of its draft is. -/
def draftExtra : Nat := 10

/-- The name under which a history is drafted before it takes the place of an earlier one. -/
def draftName (file : FileName) : FileName :=
  match file.parts.getLast? with
  | some part => { file with parts := file.parts.dropLast ++ [part ++ "".pushn '-' draftExtra] }
  | none => file

/-- Whether command lines can be written to a file: if there is one already, then a draft of the new one must
fit beside it. -/
def hasRoom (s : Store) (file : FileName) : Bool :=
  match s.find? file with
  | some (.file _) => (s.locate (draftName file)).toOption.isSome
  | _ => true

/-- Writes command lines to a file. In the place of an earlier one they are drafted first, so that this one is left
alone if the disk does not take them all; what the disk does with the file is what it does with the draft. -/
def save (s : Store) (file : FileName) (lines : List String) : Except (Failure × Store) Store :=
  if hasRoom s file then
    match s.find? file, Archive.write s (.history "save") file (print lines) with
    | some (.file _), .error (failure, _) => .error (failure, s)
    | _, result => result
  else .error (.fault (.file (.history "save") file.text (some Trouble.nameTooLong.reason)), s)

end LifePlan.HistoryFile
