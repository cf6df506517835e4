import LifePlan.Plan.Basic
import LifePlan.Xml

/-!
# The plan for other tools

A plan is given to other tools as an XML document: its personal fields, then its goals. A record is an
element that holds its date as a comment, its description as the text behind the comment, and then the
records it owns, the results of a goal before its actions.
-/

namespace LifePlan

/-- The element of a record. -/
def recordXml (kind : Kind) (date description : String) (children : List Xml) : Xml :=
  .element kind.name [] (.comment date.toList description.toList :: children) []

/-- The element of an alert. -/
def Alert.toXml (x : Alert) : Xml := recordXml .alert x.date x.description []

/-- The element of a result. -/
def Result.toXml (x : Result) : Xml := recordXml .result x.date x.description []

/-- The element of an agreement. -/
def Agreement.toXml (x : Agreement) : Xml :=
  recordXml .agreement x.date x.description (x.alerts.map Alert.toXml)

/-- The element of an action. -/
def Action.toXml (x : Action) : Xml :=
  recordXml .action x.date x.description (x.agreements.map Agreement.toXml)

/-- The element of a goal. -/
def Goal.toXml (x : Goal) : Xml :=
  recordXml .goal x.date x.description (x.results.map Result.toXml ++ x.actions.map Action.toXml)

namespace Plan

/-- The element of a personal field. -/
def fieldXml (p : Plan) (f : Field) : Xml := .element f.name (p.get f).toList [] []

/-- The root element of a plan. -/
def toXml (p : Plan) : Xml :=
  .element "lifePlan" [] (Field.all.map p.fieldXml ++ p.goals.map Goal.toXml) []

/-- The characters of a plan's XML document. -/
def exported (p : Plan) : List Char := p.toXml.document

end Plan

end LifePlan
