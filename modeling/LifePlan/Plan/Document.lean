import LifePlan.Json.Reader
import LifePlan.Json.Writer
import LifePlan.Plan.Basic

/-!
# The plan as a document

A plan is kept as a JSON document whose names are the names of its fields. A document is read strictly: a
text must be a text, a list a list, a record an object. What is not given takes its default, and a time
that is not given is read from the clock: the times of a record before those of the records it owns, the
birthday of the plan before its goals and its date after them. Names that mean nothing are passed over.
-/

namespace LifePlan

open Json (Value)

/-! ## Writing -/

/-- What every record has. -/
def recordMembers (date description : String) : List (String × Value) :=
  [("date", .text date), ("description", .text description)]

/-- The document of an alert. -/
def Alert.toValue (x : Alert) : Value := .object (recordMembers x.date x.description)

/-- The document of a result. -/
def Result.toValue (x : Result) : Value := .object (recordMembers x.date x.description)

/-- The document of an agreement. -/
def Agreement.toValue (x : Agreement) : Value :=
  .object (recordMembers x.date x.description ++ [("alerts", .array (x.alerts.map Alert.toValue))])

/-- The document of an action. -/
def Action.toValue (x : Action) : Value :=
  .object (recordMembers x.date x.description ++
    [("agreements", .array (x.agreements.map Agreement.toValue))])

/-- The document of a goal. -/
def Goal.toValue (x : Goal) : Value :=
  .object (recordMembers x.date x.description ++
    [("actions", .array (x.actions.map Action.toValue)),
      ("results", .array (x.results.map Result.toValue))])

/-- The document of a record. -/
def Node.toValue : Node → Value
  | .goal x => x.toValue
  | .action x => x.toValue
  | .agreement x => x.toValue
  | .alert x => x.toValue
  | .result x => x.toValue

namespace Plan

/-- The plan's text in a field, with the field's name. -/
def member (p : Plan) (f : Field) : String × Value := (f.name, .text (p.get f))

/-- The document of a plan. -/
def toValue (p : Plan) : Value :=
  .object
    ([p.member .firstname, p.member .lastname, p.member .birthday, p.member .address, p.member .zip,
      p.member .city, p.member .country, p.member .state, p.member .telephone, p.member .mobile,
      p.member .email, ("goals", .array (p.goals.map Goal.toValue)), p.member .date, p.member .about])

/-- The characters of a plan's document. -/
def write (p : Plan) : List Char := Json.write p.toValue

end Plan

/-! ## Reading -/

/-- A reader of documents: it may fail, and it reads the clock for times that are not given. -/
abbrev Decoder (α : Type) := StateT Clock Option α

namespace Decoder

/-- No value. -/
def fail {α : Type} : Decoder α := fun _ => none

/-- The present time. -/
def now : Decoder String := fun clock => some (clock.now, clock.tick)

/-- A text. -/
def text : Value → Decoder String
  | .text s => pure s
  | _ => fail

/-- A text that may be missing. -/
def textOr (default : String) (members : List (String × Value)) (name : String) : Decoder String :=
  match Json.lookup members name with
  | some v => text v
  | none => pure default

/-- A time that may be missing. -/
def time (members : List (String × Value)) (name : String) : Decoder String :=
  match Json.lookup members name with
  | some v => text v
  | none => now

/-- The items of a list, from first to last. -/
def items {α : Type} (item : Value → Decoder α) : List Value → Decoder (List α)
  | [] => pure []
  | v :: vs => do
    let x ← item v
    let xs ← items item vs
    return x :: xs

/-- A list that may be missing. -/
def list {α : Type} (item : Value → Decoder α) (members : List (String × Value)) (name : String) :
    Decoder (List α) :=
  match Json.lookup members name with
  | some (.array vs) => items item vs
  | some _ => fail
  | none => pure []

/-- The members of an object. -/
def members : Value → Decoder (List (String × Value))
  | .object ms => pure ms
  | _ => fail

end Decoder

open Decoder

/-- Reads an alert. -/
def Alert.ofValue (v : Value) : Decoder Alert := do
  let ms ← members v
  let date ← time ms "date"
  let description ← textOr "" ms "description"
  return ⟨date, description⟩

/-- Reads a result. -/
def Result.ofValue (v : Value) : Decoder Result := do
  let ms ← members v
  let date ← time ms "date"
  let description ← textOr "" ms "description"
  return ⟨date, description⟩

/-- Reads an agreement. -/
def Agreement.ofValue (v : Value) : Decoder Agreement := do
  let ms ← members v
  let date ← time ms "date"
  let description ← textOr "" ms "description"
  let alerts ← list Alert.ofValue ms "alerts"
  return ⟨date, description, alerts⟩

/-- Reads an action. -/
def Action.ofValue (v : Value) : Decoder Action := do
  let ms ← members v
  let date ← time ms "date"
  let description ← textOr "" ms "description"
  let agreements ← list Agreement.ofValue ms "agreements"
  return ⟨date, description, agreements⟩

/-- Reads a goal. -/
def Goal.ofValue (v : Value) : Decoder Goal := do
  let ms ← members v
  let date ← time ms "date"
  let description ← textOr "" ms "description"
  let actions ← list Action.ofValue ms "actions"
  let results ← list Result.ofValue ms "results"
  return ⟨date, description, actions, results⟩

namespace Plan

/-- Reads a plan. -/
def ofValue (v : Value) : Decoder Plan := do
  let ms ← members v
  let firstname ← textOr "" ms "firstname"
  let lastname ← textOr "" ms "lastname"
  let birthday ← time ms "birthday"
  let address ← textOr "" ms "address"
  let zip ← textOr "" ms "zip"
  let city ← textOr "" ms "city"
  let country ← textOr "" ms "country"
  let state ← textOr "" ms "state"
  let telephone ← textOr "" ms "telephone"
  let mobile ← textOr "" ms "mobile"
  let email ← textOr "" ms "email"
  let goals ← list Goal.ofValue ms "goals"
  let date ← time ms "date"
  let about ← textOr "" ms "about"
  return ⟨firstname, lastname, birthday, address, zip, city, country, state, telephone, mobile, email,
    goals, date, about⟩

/-- Reads the characters of a plan's document. -/
def read? (document : List Char) (clock : Clock) : Option (Plan × Clock) := do
  let v ← Json.read? document
  (ofValue v).run clock

end Plan

end LifePlan
