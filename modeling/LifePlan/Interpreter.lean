import LifePlan.Check
import LifePlan.Display
import LifePlan.Plan.Edit
import LifePlan.Plan.Walk
import LifePlan.Resolution

/-!
# The interpreter

The interpreter takes one line at a time. Most lines are carried out at once. An addition or an update
without a description waits for it: the following lines are read as that description until one of them
has text, or until the pending change is cancelled.

A step is a function from the state and the line to a reply: the new state, the outcome, and what is
shown. Faults are shown as notices; only misuse can end a line without an outcome, and then the plan is
as it was. A history may refuse a line that it gets, which is misuse too, and then the line is not even
looked at; which lines it keeps is a parameter of the steps.
-/

namespace LifePlan

/-! ## State -/

/-- What the loop around the interpreter does after a line. -/
inductive Outcome where
  | continue
  | awaitingDescription
  | exitSave
  | exitNoSave
  deriving DecidableEq, Repr

/-- The changes that can wait for a description. -/
inductive Change where
  | add
  | update
  deriving DecidableEq, Repr

/-- The command of a change. -/
def Change.command : Change → Command
  | .add => .add
  | .update => .update

/-- A change that waits for its description. -/
structure Pending where
  change : Change
  kind : Kind
  /-- The place of the parent for an addition, of the record itself for an update. -/
  path : Path
  /-- The text offered to the user for editing. -/
  prefill : String
  deriving DecidableEq, Repr

/-- The state between two lines. -/
structure Interpreter where
  plan : Plan
  clock : Clock
  pending : Option Pending
  /-- The command lines so far, oldest first, if a history is kept. -/
  history : Option (List String)
  deriving DecidableEq, Repr

/-- What comes of a line. -/
structure Reply where
  state : Interpreter
  outcome : Except Failure Outcome
  shown : List Display

namespace Reply

/-- A reply that shows nothing. -/
def silent (state : Interpreter) (outcome : Outcome) : Reply := ⟨state, .ok outcome, []⟩

/-- A fault is shown as a notice and the loop goes on; all else stays as it is. -/
def report (r : Reply) : Reply :=
  match r.outcome with
  | .error (.fault fault) => ⟨r.state, .ok .continue, r.shown ++ [.notice fault.message]⟩
  | _ => r

end Reply

namespace Interpreter

/-- The prompt for command lines. -/
def mainPrompt : String := "Lipla> "

/-- The prompt for a description. -/
def descriptionPrompt : String := "Description (Ctrl-C to abort): "

/-- The prompt for the next line. -/
def prompt (s : Interpreter) : String :=
  if s.pending.isSome then descriptionPrompt else mainPrompt

/-- The text to be offered for editing with the next line. -/
def prefill (s : Interpreter) : String :=
  match s.pending with
  | some pending => pending.prefill
  | none => ""

/-! ## Changes -/

/-- Carries out a change on the plan. -/
def apply (s : Interpreter) (change : Change) (kind : Kind) (path : Path) (description : String) :
    Except Failure Interpreter :=
  match change with
  | .add => do
    let (_, plan, clock) ← s.plan.add s.clock (.one kind) path description
    return { s with plan := plan, clock := clock }
  | .update => do
    let (_, plan) ← s.plan.update (.one kind) path description
    return { s with plan := plan }

/-- The text offered for a change: nothing for an addition, the present description for an update. -/
def offer (s : Interpreter) (change : Change) (kind : Kind) (path : Path) : Except Failure String :=
  match change with
  | .add => .ok ""
  | .update => do
    let node ← s.plan.node (.one kind) path .visit
    return node.description

/-- The kind of record that a line is about; a line about everything is no change. -/
def recordKind (q : Query) : Except Failure Kind :=
  match q.item with
  | some (.one kind) => .ok kind
  | _ => .error (.fault (.unknownCommand q.offendingWords))

/-- The rest of a line, if it has the words that are counted off. -/
def restOf (q : Query) : Except Failure String :=
  match q.remainder? with
  | some text => .ok text
  | none => .error (.misuse .noSuchWord)

/-- The record and the place that a line is about, after all checks. -/
def locate (s : Interpreter) (q : Query) (command : Command) : Except Failure (Kind × Reference) := do
  let kind ← recordKind q
  let text ← restOf q
  let reference ← Reference.parse text
  Check.arity command (.one kind) reference.indices
  Check.target s.plan command (.one kind) reference.indices
  return (kind, reference)

/-- Adds or updates, now or when the description comes. -/
def change (s : Interpreter) (change : Change) (q : Query) : Except Failure (Interpreter × Outcome) := do
  let (kind, reference) ← s.locate q change.command
  if reference.description.isEmpty then
    let prefill ← s.offer change kind reference.indices
    return ({ s with pending := some ⟨change, kind, reference.indices, prefill⟩ }, .awaitingDescription)
  else
    let s ← s.apply change kind reference.indices reference.description
    return (s, .continue)

/-- Removes a record. -/
def remove (s : Interpreter) (q : Query) : Except Failure (Interpreter × Outcome) := do
  let (kind, reference) ← s.locate q .remove
  let (_, plan) ← s.plan.remove (.one kind) reference.indices
  return ({ s with plan := plan }, .continue)

/-! ## Listings and help -/

/-- Lists the records of an item. -/
def list (s : Interpreter) (item : Item) : Except Failure Display :=
  if s.plan.count item = 0 then .error (.fault (.nothingToShow item))
  else .ok (.listing item (s.plan.select item))

/-- The help on a line, or on all commands. -/
def help (target : Option Query) : Display :=
  match target with
  | none => .helpTable
  | some q =>
    match Help.find? q.command q.item with
    | some entry => .help entry
    | none => .noHelp (q.words.take 2)

/-! ## Lines -/

/-- Carries out a line that has been read. -/
def dispatch (s : Interpreter) (r : Resolution) : Reply :=
  let reply (result : Except Failure (Interpreter × Outcome)) : Reply :=
    match result with
    | .ok (state, outcome) => .silent state outcome
    | .error failure => ⟨s, .error failure, []⟩
  if r.isComplete then
    match r.command with
    | .add => reply (s.change .add r.toQuery)
    | .update => reply (s.change .update r.toQuery)
    | .remove => reply (s.remove r.toQuery)
    | .list =>
      match s.list (r.item.getD .all) with
      | .ok display => ⟨s, .ok .continue, [display]⟩
      | .error failure => ⟨s, .error failure, []⟩
    | .help => ⟨s, .ok .continue, [help r.target]⟩
    | .clear => ⟨s, .ok .continue, [.cleared]⟩
    | .erase => .silent { s with history := s.history.map fun _ => [] } .continue
    | .exit => .silent s .exitSave
    | .abandon => .silent s .exitNoSave
    | .unknown => ⟨s, .error (.fault (.unknownCommand r.offendingWords)), []⟩
  else ⟨s, .error (.fault (.unknownCommand r.offendingWords)), []⟩

/-- The line as it is recorded, if it is: every line but a blank one and one that erases the history. -/
def recorded? (line : String) : Option String :=
  if Text.isBlankText line.toList ∨ (resolve line).command = .erase then none
  else some (String.ofList (Text.strip line.toList))

/-- The state with a command line added to the history, if it is recorded. -/
def record (s : Interpreter) (line : String) : Interpreter :=
  { s with history := s.history.map (· ++ (recorded? line).toList) }

/-- Adds a command line to the history, if it is recorded and the history keeps it. -/
def recordInto (s : Interpreter) (keeps : String → Bool) (line : String) : Except Failure Interpreter :=
  if (s.history.bind fun _ => recorded? line).all keeps then .ok (s.record line)
  else .error (.misuse .nullInLine)

/-- Reads a command line, records it and carries it out. A blank line does nothing, and neither does one that the
history refuses. -/
def executeInto (s : Interpreter) (keeps : String → Bool) (line : String) : Reply :=
  if Text.isBlankText line.toList then .silent s .continue
  else
    match s.recordInto keeps line with
    | .ok s => (s.dispatch (resolve line)).report
    | .error failure => ⟨s, .error failure, []⟩

/-- Takes a line as the description that is waited for. A line without text is passed over. The change is
checked again, since the plan may have changed in the meantime. -/
def resume (s : Interpreter) (pending : Pending) (line : String) : Reply :=
  let description := String.ofList (Text.unquote line.toList)
  if description.isEmpty then .silent s .awaitingDescription
  else
    let idle := { s with pending := none }
    let result := do
      Check.target idle.plan pending.change.command (.one pending.kind) pending.path
      idle.apply pending.change pending.kind pending.path description
    match result with
    | .ok state => .silent state .continue
    | .error failure => Reply.report ⟨idle, .error failure, []⟩

/-- Takes one line. -/
def feedInto (s : Interpreter) (keeps : String → Bool) (line : String) : Reply :=
  match s.pending with
  | some pending => s.resume pending line
  | none => s.executeInto keeps line

/-- Executes a line with a history that keeps every line. -/
def execute (s : Interpreter) (line : String) : Reply := s.executeInto (fun _ => true) line

/-- Takes one line with a history that keeps every line. -/
def feed (s : Interpreter) (line : String) : Reply := s.feedInto (fun _ => true) line

/-- Gives up the pending change. -/
def cancel (s : Interpreter) : Interpreter := { s with pending := none }

end Interpreter

end LifePlan
