import LifePlan.Fault
import LifePlan.Plan.Document
import LifePlan.Plan.Export
import LifePlan.Store
import LifePlan.Text.Lines

/-!
# Plans in files

A plan is loaded from its data file, saved to it and exported to a file for other tools. Writing replaces
what the file held, and a write that fails halfway has replaced it by the beginning of the new text. A file that
cannot be read, or that holds no plan, is a fault with the file's name; bytes that are no text at all are not,
and a name that no file can have is misuse.
-/

namespace LifePlan

namespace Archive

/-- What is told of a file that holds no plan. -/
def invalidPlan : String := "ValidationError"

/-- The characters of a file's bytes, each line break being a line feed. -/
def decode (content : ByteArray) : Option (List Char) :=
  (String.fromUTF8? content).map fun s => Text.unifyBreaks s.toList

/-- The bytes of some characters. -/
def encode (cs : List Char) : ByteArray := (String.ofList cs).toUTF8

/-- What trouble with a file comes to, given the words for it. -/
def failure (task : FileTask) (file : FileName) (words : Trouble → String) (trouble : Trouble) : Failure :=
  match trouble with
  | .nullInName => .misuse .nullInName
  | trouble => .fault (.file task file.text (some (words trouble)))

/-- Loads the plan in a file; times that it lacks are read from the clock. -/
def load (s : Store) (file : FileName) (clock : Clock) : Except Escape (Plan × Clock) :=
  match s.read file with
  | .error trouble => .error (.failure (failure .loadPlan file Trouble.title trouble))
  | .ok content =>
    match decode content with
    | none => .error .undecodable
    | some document =>
      match Plan.read? document clock with
      | none => .error (.failure (.fault (.file .loadPlan file.text (some invalidPlan))))
      | some loaded => .ok loaded

/-- Writes the bytes for some task. A failure comes with the store that it leaves. -/
def write (s : Store) (task : FileTask) (file : FileName) (cs : List Char) : Except (Failure × Store) Store :=
  match s.write file (encode cs) with
  | .ok s => .ok s
  | .error (trouble, s) => .error (failure task file Trouble.reason trouble, s)

/-- Saves a plan in a file. -/
def save (s : Store) (file : FileName) (p : Plan) : Except (Failure × Store) Store :=
  write s .savePlan file p.write

/-- Exports a plan to a file. -/
def exportPlan (s : Store) (file : FileName) (p : Plan) : Except (Failure × Store) Store :=
  write s .exportPlan file p.exported

end Archive

end LifePlan
