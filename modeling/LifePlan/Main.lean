import LifePlan.CommandLine
import Std.Time.Zoned

/-!
# The program

The arguments, the environment, the clock, the files that a run can touch and the lines of the standard
input are handed to `LifePlan.CommandLine`, which decides all else; what it shows is printed, and the files
that it has changed are written.
-/

namespace LifePlan

namespace Program

/-! ## The world outside -/

/-- The variables that are looked at, with the values that the environment gives them. -/
def environment : IO (Bindings String) := do
  let settings : List Setting := [.dataFile, .historyFile, .exportFile, .logLevel, .color, .assumeYes]
  let names :=
    ["HOME", "LIPLA_CONFIG_FILE", "LIPLA_ENV_FILE"] ++
      settings.map fun s => (Settings.variableStart ++ s.name).map Char.toUpper
  names.filterMapM fun name => return (← IO.getEnv name).map fun value => (name, value)

/-- A clock that starts now. -/
def clock : IO Clock := do
  let now ← Std.Time.DateTime.now
  let offset := now.timezone.offset.second.val
  return ⟨⟨now.toTimestamp.toSecondsSinceUnixEpoch.val + offset, offset⟩⟩

/-- What is under a name: a file, a directory or nothing. -/
def look (name : FileName) : IO (Option StoreEntry) := do
  try
    return some (.file (← IO.FS.readBinFile name.text))
  catch
    | .noFileOrDirectory .. => return none
    | .inappropriateType none .. => return some .directory
    | .inappropriateType .. => return none
    | trouble => throw trouble

/-- The store with what is under some names, and with all that they lead through. -/
def gather (store : Store) (names : List FileName) : IO Store :=
  names.foldlM (fun store name => do
    let ways := (List.range (name.parts.length + 1)).map fun n => { name with parts := name.parts.take n }
    ways.foldlM (fun store way => do
      match ← look way with
      | some entry => return store.put (way.parts.foldl Store.step (Store.start way)) entry
      | none => return store) store) store

/-- Writes the bytes of a file, and tells whether that has failed. -/
def failsToWrite (name : FileName) (content : ByteArray) : IO Bool := do
  try
    IO.FS.writeBinFile name.text content
    return false
  catch _ => return true

/-- Writes the files under some names whose bytes are not what they were, and gives back the names of those
that cannot be written. -/
def writeBack (before after : Store) (names : List FileName) : IO (List FileName) :=
  names.filterM fun name =>
    match before.find? name, after.find? name with
    | some (.file old), some (.file content) =>
      if old.data = content.data then return false else failsToWrite name content
    | _, some (.file content) => failsToWrite name content
    | _, _ => return false

/-! ## Conversation -/

/-- Prints some events. -/
def present (screen : Screen) (events : List Event) : IO Unit := do
  let out ← IO.getStdout
  events.forM fun e => out.putStr (e.text screen)
  out.flush

/-- The lines that come next: those that wait already, or else those that end with the next line feed of the
standard input. There are none when the input has ended. -/
def nextLines (waiting : List String) : IO (List String) := do
  if waiting.isEmpty then
    let text ← (← IO.getStdin).getLine
    return (Text.lines text.toList).map String.ofList
  else return waiting

/-- Holds a session to its end; some lines may wait for it. -/
partial def converse (screen : Screen) (waiting : List String) (s : Session) : IO Session := do
  present screen s.transcript
  let s := { s with transcript := [], interpreter := { s.interpreter with clock := ← clock } }
  match s.phase with
  | .asking =>
    let lines ← nextLines waiting
    converse screen lines.tail (s.answer lines.head?)
  | .reading =>
    let lines ← nextLines waiting
    converse screen lines.tail (s.react ((lines.head?.map Input.line).getD .endOfInput))
  | .ended _ => return s

/-! ## Runs -/

/-- Prints what a run leaves, and writes the files that it has changed. If one of them cannot be written, a
run that would have succeeded has another exit code. -/
def conclude (screen : Screen) (before : Store) (names : List FileName) (unwritten : Nat) (r : Report) :
    IO UInt32 := do
  present screen r.transcript
  let failed ← writeBack before r.store names
  present screen (failed.map fun name => .shown (.trouble "Unable to save" name.text))
  r.breakdown.forM fun cause => do (← IO.getStderr).putStrLn cause.summary
  return UInt32.ofNat (if r.exitCode = 0 ∧ !failed.isEmpty then unwritten else r.exitCode)

end Program

end LifePlan

open LifePlan Program in
/-- Runs the program with its arguments. -/
def main (arguments : List String) : IO UInt32 := do
  let environment ← environment
  let terminal ← (← IO.getStdout).isTty
  let screen (settings : Settings) : Screen := ⟨terminal, terminal && settings.color⟩
  let sources := (Settings.envFileOf environment).toOption.toList ++ (Settings.configFileOf environment).toList
  let store ← gather .empty sources
  match Job.ofArguments store environment arguments with
  | .refuse => conclude ⟨terminal, false⟩ store [] 0 (.plain store 2 [.callUsage])
  | .inform inquiry => conclude ⟨terminal, false⟩ store [] 0 (.plain store 0 [inquiry.answer])
  | .breakOff cause => conclude ⟨terminal, false⟩ store [] 0 (.broken store cause)
  | .exportPlan settings target =>
    let store ← gather store [settings.dataFile, target]
    conclude (screen settings) store [target] 1 (exportFile store (← clock) settings.dataFile target)
  | .converse setup =>
    let names := [setup.settings.historyFile, setup.settings.dataFile]
    let store ← gather store names
    let session ← converse (screen setup.settings) [] (.start setup store (← clock))
    conclude (screen setup.settings) store names 0 session.report
