import LifePlan.HistoryFile
import LifePlan.Log.Basic
import LifePlan.Session
import LifePlan.Settings.Sources

/-!
# The command line

The program is called with the name of a data file, or to export the plan in it, with the name of the file to
write. What is to be done follows from the arguments, the environment and the files alone; a session then
takes its lines from the standard input.
-/

namespace LifePlan

/-! ## Arguments -/

/-- What the program may be asked about itself. -/
inductive Inquiry where
  | version
  | help
  deriving DecidableEq, Repr

/-- How the program is called. -/
structure Call where
  files : List String
  isExport : Bool
  /-- What is asked first. -/
  inquiry : Option Inquiry
  deriving DecidableEq, Repr

namespace Call

/-- A call without arguments. -/
def empty : Call := ⟨[], false, none⟩

/-- The call with one more file. -/
def withFile (c : Call) (file : String) : Call := { c with files := c.files ++ [file] }

/-- The call that also asks for something. -/
def withInquiry (c : Call) (inquiry : Inquiry) : Call := { c with inquiry := c.inquiry <|> some inquiry }

/-- The call with an option of one letter. -/
def withLetter (c : Call) (letter : Char) : Option Call :=
  match letter with
  | 'x' => some { c with isExport := true }
  | 'v' => some (c.withInquiry .version)
  | _ => none

/-- The call with an argument that starts with a dash. -/
def withOption (c : Call) (argument : String) : Option Call :=
  match argument with
  | "--export" => some { c with isExport := true }
  | "--version" => some (c.withInquiry .version)
  | "--help" => some (c.withInquiry .help)
  | _ =>
    match argument.toList.drop 1 with
    | '-' :: _ => none
    | letters => letters.foldlM withLetter c

/-- Whether an argument is an option: a dash with something behind it. -/
def isOption (argument : String) : Bool :=
  match argument.toList with
  | '-' :: _ :: _ => true
  | _ => false

/-- Reads the arguments that follow some others. After two dashes all are files. -/
def parseFrom (c : Call) : List String → Option Call
  | [] => some c
  | a :: as =>
    if a = "--" then some (as.foldl withFile c)
    else if isOption a then do
      let c ← c.withOption a
      c.parseFrom as
    else (c.withFile a).parseFrom as

/-- Reads the arguments. -/
def parse (arguments : List String) : Option Call := empty.parseFrom arguments

/-- Whether the name of a file has a null character. -/
def hasNull (c : Call) : Bool := c.files.any fun file => (FileName.ofText file).hasNull

/-- Whether the files fit: at most a data file, and a second one only to be written. -/
def fits (c : Call) : Bool := c.files.length ≤ (if c.isExport then 2 else 1)

end Call

/-! ## What is to be done -/

/-- Why the program breaks off. -/
inductive Breakdown where
  | settings (flaw : SettingsFlaw)
  /-- The log level is none, in capitals. -/
  | level (name : String)
  /-- An argument has a null character. -/
  | nullInArgument
  | session (cause : Escape)
  deriving DecidableEq, Repr

/-- The wording for a user without a home directory. -/
def noHome : String := "Could not determine home directory."

/-- The breakdown, in a few words. -/
def Breakdown.summary : Breakdown → String
  | .settings (.file trouble) => "A file of settings cannot be read: " ++ trouble.reason
  | .settings .undecodable => "The settings are no text"
  | .settings (.yaml flaw) => "The configuration file is no YAML: " ++ flaw.message
  | .settings .notSettings => "The configuration file holds no settings"
  | .settings (.notAPair index length) => SettingsFlaw.pairMessage index length
  | .settings .homeless => noHome
  | .settings .invalid => "A setting has a value that makes no sense"
  | .level name => Log.unknownLevel name
  | .nullInArgument => "An argument has a null character"
  | .session (.failure (.fault fault)) => fault.message
  | .session (.failure (.misuse misuse)) => misuse.message
  | .session .undecodable => "The data file is no text"
  | .session .nameTooLong => "The name of a file is too long"
  | .session .homeless => noHome
  | .session .endOfAnswers => "The question was not answered"
  | .session (.readerBroken message) => message

/-- What a call asks for. -/
inductive Job where
  /-- The call is not understood. -/
  | refuse
  | inform (inquiry : Inquiry)
  | breakOff (cause : Breakdown)
  /-- A plan is to be exported. -/
  | exportPlan (settings : Settings) (target : FileName)
  /-- A session is to be held. -/
  | converse (setup : Setup)

/-- The history is kept in a file. -/
def fileKeeper : Keeper := ⟨HistoryFile.load, HistoryFile.keeps, HistoryFile.save⟩

namespace Job

/-- The job of a call that asks for no information. -/
def ofCall (store : Store) (environment : Bindings String) (c : Call) : Job :=
  let overrides := c.files.head?.toList.map fun file => (Setting.dataFile.name, Given.text file)
  match Settings.load store environment overrides with
  | .error flaw => .breakOff (.settings flaw)
  | .ok settings =>
    match Log.initial.configure settings.logLevel with
    | .error name => .breakOff (.level name)
    | .ok _ =>
      if c.isExport then
        .exportPlan settings ((c.files[1]?.map FileName.ofText).getD settings.exportFile)
      else
        .converse ⟨settings, (Settings.homeOf environment).map settings.usesUsualDataFile, fileKeeper⟩

/-- The job that arguments ask for. -/
def ofArguments (store : Store) (environment : Bindings String) (arguments : List String) : Job :=
  match Call.parse arguments with
  | none => .refuse
  | some c =>
    match c.inquiry with
    | some inquiry => .inform inquiry
    | none =>
      if c.hasNull then .breakOff .nullInArgument
      else if c.fits then ofCall store environment c
      else .refuse

end Job

/-! ## What comes of it -/

/-- What a run leaves. -/
structure Report where
  exitCode : Nat
  /-- What was printed, in pieces that are shown and prompts. -/
  transcript : List Event
  breakdown : Option Breakdown
  store : Store
  history : List String

namespace Report

/-- A run that does nothing but show something. -/
def plain (store : Store) (exitCode : Nat) (displays : List Display) : Report :=
  ⟨exitCode, displays.map .shown, none, store, []⟩

/-- A run that breaks off before it has shown anything. -/
def broken (store : Store) (cause : Breakdown) : Report := ⟨1, [], some cause, store, []⟩

end Report

namespace Inquiry

/-- What answers an inquiry. -/
def answer : Inquiry → Display
  | .version => .version
  | .help => .callUsage

end Inquiry

/-- Exports a plan. -/
def exportFile (store : Store) (clock : Clock) (data target : FileName) : Report :=
  match Archive.load store data clock with
  | .error (.failure (.fault fault)) => .plain store 1 [.notice fault.message]
  | .error cause => .broken store (.session cause)
  | .ok (plan, _) =>
    match Archive.exportPlan store target plan with
    | .error (.fault fault, store) => .plain store 1 [.notice fault.message]
    | .error (cause, store) => .broken store (.session (.failure cause))
    | .ok store => .plain store 0 [.exported data.text target.text]

namespace Session

/-- The report of a session that has ended. A plan that cannot be loaded is told of; when the answers to the
question end, the run is given up. -/
def report (s : Session) : Report :=
  let report (exitCode : Nat) (displays : List Display) (breakdown : Option Breakdown) : Report :=
    ⟨exitCode, s.transcript ++ displays.map .shown, breakdown, s.store, s.history⟩
  match s.phase with
  | .ended (.escaped (.failure (.fault fault))) => report 1 [.notice fault.message] none
  | .ended (.escaped .endOfAnswers) => report 1 [.gap, .aborted] none
  | .ended (.escaped cause) => report 1 [] (some (.session cause))
  | _ => report 0 [] none

end Session

/-- A whole run, with the lines of the standard input. They answer the question before a new file, if it is
put, and then they are the lines of the session. -/
def run (store : Store) (environment : Bindings String) (clock : Clock) (arguments input : List String) :
    Report :=
  match Job.ofArguments store environment arguments with
  | .refuse => .plain store 2 [.callUsage]
  | .inform inquiry => .plain store 0 [inquiry.answer]
  | .breakOff cause => .broken store cause
  | .exportPlan settings target => exportFile store clock settings.dataFile target
  | .converse setup =>
    let (session, rest) := (Session.start setup store clock).answerAll input
    (session.readAll (rest.map .line)).1.report

/-- What an event prints; prompts are printed without a line break. -/
def Event.text (screen : Screen) : Event → String
  | .shown d => d.text screen
  | .prompted prompt _ => prompt
  | .keptHistory _ => ""

/-- Everything that a run prints. -/
def Report.output (r : Report) (screen : Screen) : String :=
  String.join (r.transcript.map (·.text screen))

end LifePlan
