import LifePlan.Archive
import LifePlan.Interpreter
import LifePlan.Settings.Basic

/-!
# Sessions

A session works on one data file. It loads the history and the plan, or asks before it starts a new file;
it greets the user and takes line after line until one of them ends it. Whenever the user was greeted, the
history is saved at the end, however the session ends; the plan is saved only if the user leaves with
`exit`. Neither a history nor a plan that cannot be saved is a reason to fail, unless its file's name is none.

A session is a state that waits for an answer or a line, or that has ended. What it shows and what it asks
for is written down in a transcript.
-/

namespace LifePlan

/-! ## What a session needs -/

/-- How the history is kept between sessions. -/
structure Keeper where
  load : Store → FileName → Except Escape (List String)
  /-- Whether a line can be kept at all. -/
  keeps : String → Bool
  /-- A failure comes with the store that it leaves. -/
  save : Store → FileName → List String → Except (Failure × Store) Store

/-- What a session starts from. -/
structure Setup where
  settings : Settings
  /-- Whether the data file is the usual one, if it is known where that would be. -/
  isUsual : Option Bool
  keeper : Keeper

/-- What comes when a line is asked for. -/
inductive Input where
  | line (text : String)
  | interrupt
  | endOfInput
  /-- The reader breaks down. -/
  | broken (message : String)
  deriving DecidableEq, Repr

/-! ## What a session leaves -/

/-- How a session ends. -/
inductive Ending where
  /-- The user left; the plan is saved or not. -/
  | left (save : Bool)
  /-- The user did not want a new data file. -/
  | declined
  | escaped (cause : Escape)
  deriving DecidableEq, Repr

/-- What happens in a session, as it can be seen from outside. -/
inductive Event where
  | shown (display : Display)
  /-- A line is asked for. -/
  | prompted (prompt prefill : String)
  /-- The history is saved, or cannot be saved. -/
  | keptHistory (saved : Bool)
  deriving DecidableEq, Repr

/-- What a session waits for. -/
inductive Phase where
  /-- The answer to the question before a new data file. -/
  | asking
  | reading
  | ended (ending : Ending)
  deriving DecidableEq, Repr

/-- A session. -/
structure Session where
  setup : Setup
  store : Store
  interpreter : Interpreter
  phase : Phase
  transcript : List Event

namespace Session

/-- The settings of the session. -/
def settings (s : Session) : Settings := s.setup.settings

/-- The command lines so far. -/
def history (s : Session) : List String := s.interpreter.history.getD []

/-! ## Steps -/

/-- Writes an event down. -/
def note (s : Session) (e : Event) : Session := { s with transcript := s.transcript ++ [e] }

/-- Shows something. -/
def display (s : Session) (d : Display) : Session := s.note (.shown d)

/-- Asks for the next line. -/
def promptNext (s : Session) : Session :=
  { s with phase := .reading }.note (.prompted s.interpreter.prompt s.interpreter.prefill)

/-- Ends the session. -/
def finish (s : Session) (ending : Ending) : Session := { s with phase := .ended ending }

/-! ## The start -/

/-- The greeting, for a data file that is the usual one or not. -/
def greeting (s : Session) (isUsual : Bool) : Display :=
  if isUsual && s.interpreter.plan.isEmpty then .welcome else .database s.settings.dataFile.text

/-- Greets the user and asks for the first line. -/
def greet (s : Session) : Session :=
  match s.setup.isUsual with
  | some isUsual => (s.display (s.greeting isUsual)).promptNext
  | none => s.finish (.escaped .homeless)

/-- The question before a new data file. -/
def ask (s : Session) : Session :=
  { s with phase := .asking }.display (.question s.settings.dataFile.text)

/-- Opens the plan, or asks before a new data file. -/
def openPlan (s : Session) : Session :=
  match s.store.search s.settings.dataFile with
  | .error _ => s.finish (.escaped .nameTooLong)
  | .ok (some _) =>
    match Archive.load s.store s.settings.dataFile s.interpreter.clock with
    | .ok (plan, clock) =>
      { s with interpreter := { s.interpreter with plan := plan, clock := clock } }.greet
    | .error cause => s.finish (.escaped cause)
  | .ok none => if s.settings.assumeYes then s.greet else s.ask

/-- Loads the history of earlier sessions, and opens the plan. -/
def begin (s : Session) : Session :=
  match s.setup.keeper.load s.store s.settings.historyFile with
  | .ok lines =>
    { s with
      interpreter :=
        { s.interpreter with history := s.interpreter.history.map (· ++ lines) } }.openPlan
  | .error (.failure (.fault _)) =>
    (s.display (.trouble "Unable to load" s.settings.historyFile.text)).openPlan
  | .error cause => s.finish (.escaped cause)

/-- Starts a session, with a plan that is new until another one is loaded. -/
def start (setup : Setup) (store : Store) (clock : Clock) : Session :=
  let (plan, clock) := Plan.fresh clock
  begin ⟨setup, store, ⟨plan, clock, none, some []⟩, .reading, []⟩

/-! ## The question -/

/-- What an answer means, if it means anything: an empty one is a yes. What follows a line break in it is no
part of the answer. -/
def meaning? (answer : String) : Option Bool :=
  if answer = "" then some true
  else
    match Text.lower (Text.strip (answer.toList.takeWhile (· ≠ '\n'))) with
    | ['y'] => some true
    | ['n'] => some false
    | _ => none

/-- Takes an answer to the question; there may be none. -/
def answer (s : Session) (given : Option String) : Session :=
  match given with
  | none => s.finish (.escaped .endOfAnswers)
  | some text =>
    match meaning? text with
    | some true => s.greet
    | some false => s.finish .declined
    | none => (s.display .yesOrNo).ask

/-! ## The end -/

/-- Saves the history at an ending, which stays what it is unless the file's name is none. -/
def saveHistory (s : Session) (ending : Ending) : Session × Ending :=
  match s.setup.keeper.save s.store s.settings.historyFile s.history with
  | .ok store => ({ s with store := store }.note (.keptHistory true), ending)
  | .error (.fault _, store) =>
    (({ s with store := store }.note (.keptHistory false)).display
      (.trouble "Unable to save" s.settings.historyFile.text), ending)
  | .error (cause, store) =>
    ({ s with store := store }.note (.keptHistory false), .escaped (.failure cause))

/-- Saves the plan at an ending, which stays what it is unless the file's name is none. -/
def savePlan (s : Session) (ending : Ending) : Session × Ending :=
  match Archive.save s.store s.settings.dataFile s.interpreter.plan with
  | .ok store => ({ s with store := store }, ending)
  | .error (.fault _, store) =>
    ({ s with store := store }.display (.trouble "Unable to save" s.settings.dataFile.text), ending)
  | .error (cause, store) => ({ s with store := store }, .escaped (.failure cause))

/-- Ends a session whose plan was opened. -/
def close (s : Session) (ending : Ending) : Session :=
  let (s, ending) := s.saveHistory ending
  let (s, ending) := if ending = .left true then s.savePlan ending else (s, ending)
  s.finish ending

/-! ## Lines -/

/-- Goes on after a line, or ends. -/
def proceed (s : Session) : Except Failure Outcome → Session
  | .ok .continue => s.promptNext
  | .ok .awaitingDescription => s.promptNext
  | .ok .exitSave => s.close (.left true)
  | .ok .exitNoSave => s.close (.left false)
  | .error failure => s.close (.escaped (.failure failure))

/-- Takes what comes when a line is asked for. An interrupt gives up a change that waits for its
description, and otherwise ends the session; so does a line that fails. -/
def react (s : Session) : Input → Session
  | .line text =>
    let reply := s.interpreter.feedInto s.setup.keeper.keeps text
    (reply.shown.foldl display { s with interpreter := reply.state }).proceed reply.outcome
  | .interrupt =>
    if s.interpreter.pending.isSome then
      { s.display .gap with interpreter := s.interpreter.cancel }.promptNext
    else (s.display .gap).close (.left false)
  | .endOfInput => (s.display .gap).close (.left false)
  | .broken message => s.close (.escaped (.readerBroken message))

/-! ## Whole sessions -/

/-- Answers the question until it is settled, and gives back the answers that are left. -/
def answerAll (s : Session) : List String → Session × List String
  | [] => (if s.phase = .asking then s.answer none else s, [])
  | a :: as => if s.phase = .asking then (s.answer (some a)).answerAll as else (s, a :: as)

/-- Takes inputs until the session ends, and gives back those that are left. After the last one comes the
end of input. -/
def readAll (s : Session) : List Input → Session × List Input
  | [] => (if s.phase = .reading then s.react .endOfInput else s, [])
  | i :: is => if s.phase = .reading then (s.react i).readAll is else (s, i :: is)

/-- A whole session: how it ends, and the inputs that are left. -/
def run (setup : Setup) (store : Store) (clock : Clock) (answers : List String) (script : List Input) :
    Session × List Input :=
  ((start setup store clock).answerAll answers).1.readAll script

/-! ## What was seen -/

/-- What the session has shown. -/
def displays (s : Session) : List Display :=
  s.transcript.filterMap fun e =>
    match e with
    | .shown d => some d
    | _ => none

/-- The prompts and the texts offered with them. -/
def prompts (s : Session) : List (String × String) :=
  s.transcript.filterMap fun e =>
    match e with
    | .prompted prompt prefill => some (prompt, prefill)
    | _ => none

/-- How often the history was saved. -/
def timesSaved (s : Session) : Nat := s.transcript.count (.keptHistory true)

end Session

end LifePlan
