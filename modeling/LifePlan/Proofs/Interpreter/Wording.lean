import LifePlan.Proofs.Interpreter.Failure
import LifePlan.Proofs.Interpreter.Request
import LifePlan.Proofs.Plan.Wording

/-!
# What is stored as a description

A description comes behind the numbers of an addition or an update, or on a line of its own while one of these waits.
In each way it is trimmed before it is looked at, so that an edit gives a record a text without white space at its ends
or none at all (`Edits.allDescribed`). The history may refuse a line, which then changes nothing. It follows that no
sequence of requests makes a description blank or leaves white space at its ends (`isTidy_handleAllInto`).
-/

namespace LifePlan

/-- Every record of the plan is described, without white space at the ends. -/
def Plan.IsTidy (p : Plan) : Prop := p.AllDescribed fun d => Text.IsTidy d.toList

namespace Interpreter

variable {s s' : Interpreter} {keeps : String → Bool} {P : String → Prop}

/-! ## Calls as requests -/

/-- A call is a request. -/
def Call.request : Call → Request
  | .feed line => .feed line
  | .cancel => .cancel

/-- So calls are a sequence of requests. -/
theorem runInto_eq_handleAllInto (s : Interpreter) (keeps : String → Bool) (calls : List Call) :
    s.runInto keeps calls = s.handleAllInto keeps (calls.map Call.request) := by
  rw [runInto, handleAllInto, List.foldl_map]
  congr 1
  funext s call
  cases call with
  | feed | cancel => rfl

/-! ## What holds of all descriptions -/

/-- An edit of one record keeps what holds of all descriptions, if it holds of all texts without white space at their
ends. -/
theorem Edits.allDescribed (h : Edits s s') (hP : ∀ d : String, Text.IsTidy d.toList → P d)
    (hs : s.plan.AllDescribed P) : s'.plan.AllDescribed P := by
  cases h with
  | kept hplan _ => rwa [hplan]
  | edited h htidy => exact hs.edit h (htidy.imp_right (hP _))

/-- So does a request, whatever the history refuses. -/
theorem allDescribed_handleInto (hP : ∀ d : String, Text.IsTidy d.toList → P d) (hs : s.plan.AllDescribed P)
    (keeps : String → Bool) (request : Request) : (s.handleInto keeps request).plan.AllDescribed P :=
  (edits_handleInto s keeps request).allDescribed hP hs

/-- **So do all sequences of requests.** -/
theorem allDescribed_handleAllInto (hP : ∀ d : String, Text.IsTidy d.toList → P d) (hs : s.plan.AllDescribed P)
    (keeps : String → Bool) (requests : List Request) : (s.handleAllInto keeps requests).plan.AllDescribed P := by
  induction requests generalizing s with
  | nil => exact hs
  | cons request requests ih => exact ih (allDescribed_handleInto hP hs keeps request)

/-- Calls lead from a tidy plan to tidy plans. -/
theorem isTidy_runInto (h : s.plan.IsTidy) (keeps : String → Bool) (calls : List Call) :
    (s.runInto keeps calls).plan.IsTidy := by
  rw [runInto_eq_handleAllInto]
  exact allDescribed_handleAllInto (fun _ => id) h keeps _

/-- **No sequence of requests stores a description that is blank or has white space at its ends**, whatever waits at the
start and whatever the history refuses. If no record of the plan has such a description, then none has one afterwards;
and in any plan, every record has a description afterwards that a record had before, or one with text in it and without
white space at its ends. -/
theorem isTidy_handleAllInto (s : Interpreter) (keeps : String → Bool) (requests : List Request) :
    let after := s.handleAllInto keeps requests
    (s.plan.IsTidy → after.plan.IsTidy) ∧
      ∀ row ∈ after.plan.rows,
        (∃ old ∈ s.plan.rows, old.description = row.description) ∨ Text.IsTidy row.description.toList := by
  intro after
  refine ⟨fun h => allDescribed_handleAllInto (fun _ => id) h keeps requests, ?_⟩
  have hbefore : s.plan.AllDescribed fun d =>
      (∃ old ∈ s.plan.rows, old.description = d) ∨ Text.IsTidy d.toList :=
    fun row hrow => .inl ⟨row, hrow, rfl⟩
  exact allDescribed_handleAllInto (fun _ => .inr) hbefore keeps requests

/-- Quotes, delimiters and white space in any mixture are a description only if they hold some text. -/
theorem isTidy_handleAllInto_oneGoal :
    let after := oneGoal.handleAllInto HistoryFile.keeps
      [.feed "add goal #. \" ' \u00a0x' \"", .feed "update goal 1", .feed "'' \u2003 \"", .execute "add result 1 ,' '",
        .feed "\t\" so \"\u2028", .feed "update goal 1 \x00"]
    oneGoal.plan.IsTidy ∧ after.plan.IsTidy ∧
      after.plan.rows.map Row.description = ["health", "so", "' \u00a0x'"] := by
  intro after
  have hbefore : oneGoal.plan.IsTidy := by
    have hrows : oneGoal.plan.rows = [⟨.goal, [0], "", "health"⟩] := by decide
    intro row hrow
    rw [hrows] at hrow
    obtain rfl := List.mem_singleton.mp hrow
    exact (by decide : Text.IsTidy "health".toList)
  exact ⟨hbefore, (isTidy_handleAllInto _ _ _).1 hbefore, by decide +kernel⟩

end Interpreter

end LifePlan
