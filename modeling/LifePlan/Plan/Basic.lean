import LifePlan.Clock
import LifePlan.Kind

/-!
# The life plan

A plan is some personal information and an ordered list of goals. A record of any kind has a date, set
when it is made and never changed, and a description. A parent owns its children, and the order of a
list is the order in which its records were added.
-/

namespace LifePlan

/-! ## Records -/

/-- How a temptation is to be avoided. -/
structure Alert where
  date : String
  description : String
  deriving DecidableEq, Repr

/-- A short-term performance that keeps an action on track. -/
structure Agreement where
  date : String
  description : String
  alerts : List Alert
  deriving DecidableEq, Repr

/-- A medium-term performance towards a goal. -/
structure Action where
  date : String
  description : String
  agreements : List Agreement
  deriving DecidableEq, Repr

/-- An evaluation of the progress made towards a goal. -/
structure Result where
  date : String
  description : String
  deriving DecidableEq, Repr

/-- A long-term accomplishment. -/
structure Goal where
  date : String
  description : String
  actions : List Action
  results : List Result
  deriving DecidableEq, Repr

/-- A record of any kind, with all that it owns. -/
inductive Node where
  | goal (goal : Goal)
  | action (action : Action)
  | agreement (agreement : Agreement)
  | alert (alert : Alert)
  | result (result : Result)
  deriving DecidableEq, Repr

namespace Node

/-- The record's kind. -/
def kind : Node → Kind
  | .goal _ => .goal
  | .action _ => .action
  | .agreement _ => .agreement
  | .alert _ => .alert
  | .result _ => .result

/-- The record's date. -/
def date : Node → String
  | .goal x => x.date
  | .action x => x.date
  | .agreement x => x.date
  | .alert x => x.date
  | .result x => x.date

/-- The record's description. -/
def description : Node → String
  | .goal x => x.description
  | .action x => x.description
  | .agreement x => x.description
  | .alert x => x.description
  | .result x => x.description

/-- The record with another description. -/
def describe (d : String) : Node → Node
  | .goal x => .goal { x with description := d }
  | .action x => .action { x with description := d }
  | .agreement x => .agreement { x with description := d }
  | .alert x => .alert { x with description := d }
  | .result x => .result { x with description := d }

/-- A new record without children. -/
def fresh (kind : Kind) (date description : String) : Node :=
  match kind with
  | .goal => .goal ⟨date, description, [], []⟩
  | .action => .action ⟨date, description, []⟩
  | .agreement => .agreement ⟨date, description, []⟩
  | .alert => .alert ⟨date, description⟩
  | .result => .result ⟨date, description⟩

@[simp] theorem kind_fresh (kind : Kind) (date description : String) :
    (fresh kind date description).kind = kind := by cases kind <;> rfl

@[simp] theorem date_fresh (kind : Kind) (date description : String) :
    (fresh kind date description).date = date := by cases kind <;> rfl

@[simp] theorem description_fresh (kind : Kind) (date description : String) :
    (fresh kind date description).description = description := by cases kind <;> rfl

@[simp] theorem kind_describe (d : String) (n : Node) : (n.describe d).kind = n.kind := by
  cases n <;> rfl

@[simp] theorem date_describe (d : String) (n : Node) : (n.describe d).date = n.date := by
  cases n <;> rfl

@[simp] theorem description_describe (d : String) (n : Node) : (n.describe d).description = d := by
  cases n <;> rfl

end Node

/-! ## Plans -/

/-- A life plan. -/
structure Plan where
  firstname : String
  lastname : String
  birthday : String
  address : String
  zip : String
  city : String
  country : String
  state : String
  telephone : String
  mobile : String
  email : String
  goals : List Goal
  date : String
  about : String
  deriving DecidableEq, Repr

/-- The texts that a plan holds beside its goals. -/
inductive Field where
  | firstname
  | lastname
  | birthday
  | address
  | zip
  | city
  | country
  | state
  | telephone
  | mobile
  | email
  | date
  | about
  deriving DecidableEq, Repr

namespace Field

/-- The field's name in a document. -/
def name : Field → String
  | .firstname => "firstname"
  | .lastname => "lastname"
  | .birthday => "birthday"
  | .address => "address"
  | .zip => "zip"
  | .city => "city"
  | .country => "country"
  | .state => "state"
  | .telephone => "telephone"
  | .mobile => "mobile"
  | .email => "email"
  | .date => "date"
  | .about => "about"

/-- Every field, in the order of an exported document. -/
def all : List Field :=
  [.firstname, .lastname, .birthday, .address, .zip, .city, .country, .state, .telephone, .mobile,
    .email, .date, .about]

/-- Whether the field says when something was: the birthday and the date of the plan. -/
def isTime : Field → Bool
  | .birthday | .date => true
  | _ => false

end Field

namespace Plan

/-- A plan's text in a field. -/
def get (p : Plan) : Field → String
  | .firstname => p.firstname
  | .lastname => p.lastname
  | .birthday => p.birthday
  | .address => p.address
  | .zip => p.zip
  | .city => p.city
  | .country => p.country
  | .state => p.state
  | .telephone => p.telephone
  | .mobile => p.mobile
  | .email => p.email
  | .date => p.date
  | .about => p.about

/-- The plan with another text in a field. -/
def set (p : Plan) (field : Field) (text : String) : Plan :=
  match field with
  | .firstname => { p with firstname := text }
  | .lastname => { p with lastname := text }
  | .birthday => { p with birthday := text }
  | .address => { p with address := text }
  | .zip => { p with zip := text }
  | .city => { p with city := text }
  | .country => { p with country := text }
  | .state => { p with state := text }
  | .telephone => { p with telephone := text }
  | .mobile => { p with mobile := text }
  | .email => { p with email := text }
  | .date => { p with date := text }
  | .about => { p with about := text }

@[simp] theorem get_set_self (p : Plan) (field : Field) (text : String) :
    (p.set field text).get field = text := by cases field <;> rfl

theorem get_set_of_ne (p : Plan) {f g : Field} (h : f ≠ g) (text : String) :
    (p.set f text).get g = p.get g := by
  cases f <;> cases g <;> first | rfl | exact absurd rfl h

/-- A plan without data, from its birthday and its date. -/
def blank (birthday date : String) : Plan :=
  ⟨"", "", birthday, "", "", "", "", "", "", "", "", [], date, ""⟩

/-- A plan without data that is made now: the birthday is read from the clock first, then the date. -/
def fresh (clock : Clock) : Plan × Clock :=
  (blank clock.now clock.tick.now, clock.tick.tick)

/-- Whether the plan has neither goals nor personal data; its birthday and its date do not count. -/
def isEmpty (p : Plan) : Bool :=
  p.goals.isEmpty && Field.all.all fun f => f.isTime || (p.get f).isEmpty

end Plan

end LifePlan
