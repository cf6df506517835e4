import LifePlan.LineEditor
import LifePlan.Main
import LifePlan.Proofs.Json.RoundTrip
import LifePlan.Proofs.Plan.Document
import LifePlan.Proofs.Except
import LifePlan.Proofs.Store
import LifePlan.Proofs.Archive
import LifePlan.Proofs.Check
import LifePlan.Proofs.Resolution
import LifePlan.Proofs.Interpreter.Effect
import LifePlan.Proofs.Interpreter.Pending
import LifePlan.Proofs.Session.Step
import LifePlan.Proofs.Session.Durability
import LifePlan.Proofs.Plan.FanOut
import LifePlan.Proofs.Interpreter.Request
import LifePlan.Proofs.Text.Blank
import LifePlan.Proofs.Text.Quoted
import LifePlan.Proofs.Numbers
import LifePlan.Proofs.Interpreter.Inline
import LifePlan.Proofs.Interpreter.Failure
import LifePlan.Proofs.Plan.Regrow
import LifePlan.Proofs.Interpreter.Replay
import LifePlan.Proofs.Interpreter.History
import LifePlan.Proofs.Interpreter.Alike
import LifePlan.Proofs.Session.Thinning
import LifePlan.Proofs.Loading
import LifePlan.Proofs.Plan.Siblings
import LifePlan.Proofs.Markup
import LifePlan.Proofs.Escaped
import LifePlan.Proofs.Screen
import LifePlan.Proofs.Listing
import LifePlan.Proofs.Interpreter.Addressing
import LifePlan.Proofs.Xml
import LifePlan.Proofs.Plan.Export
import LifePlan.Proofs.CommandLine
import LifePlan.Proofs.Interpreter.Help
import LifePlan.Proofs.Plan.Wording
import LifePlan.Proofs.Interpreter.Prefill
import LifePlan.Proofs.Plan.Route
import LifePlan.Proofs.Plan.Address
import LifePlan.Proofs.Plan.Traversal
import LifePlan.Proofs.Plan.Stretch
import LifePlan.Proofs.Plan.Removal
import LifePlan.Proofs.Plan.Addition
import LifePlan.Proofs.Plan.Independence
import LifePlan.Proofs.Plan.Steps
import LifePlan.Proofs.Grammar
import LifePlan.Proofs.Interpreter.Resume
import LifePlan.Proofs.Interpreter.WordOrder
import LifePlan.Proofs.Remainder
import LifePlan.Proofs.Interpreter.Wording
import LifePlan.Proofs.Notice
import LifePlan.Proofs.Interpreter.Verbatim
import LifePlan.Proofs.Settings.Precedence
