import LifePlan.Proofs.Interpreter.Failure
import LifePlan.Proofs.Interpreter.Request
import Mathlib.Data.List.DropRight

/-!
# What the history holds

The history is a log of command lines. A line that comes while nothing waits is logged without the white space
at its ends, whatever comes of it, unless it is blank or the history refuses it; a line that erases the history
empties the log, itself included. Descriptions are not logged. So after any calls the history holds the command
lines behind the last one that erased it (`history_runInto`).
-/

namespace LifePlan

namespace Interpreter

variable {s : Interpreter} {keeps : String → Bool} {line : String} {lines : List String}

/-! ## The log of some lines -/

/-- A line without the white space at its ends. -/
def trimmed (line : String) : String := String.ofList (Text.strip line.toList)

/-- Whether a line erases the history. -/
def erases (line : String) : Bool := (resolve line).command = .erase

/-- Whether a line is logged, by a history that refuses some of them. -/
def isLogged (keeps : String → Bool) (line : String) : Bool :=
  !Text.isBlankText line.toList && keeps (trimmed line)

/-- What is logged of some command lines: those behind the last one that erases the history. -/
def logged (keeps : String → Bool) (lines : List String) : List String :=
  ((lines.rtakeWhile fun line => !erases line).filter (isLogged keeps)).map trimmed

/-- After a line that erases the history nothing is logged. -/
theorem logged_concat_of_erases (h : erases line = true) : logged keeps (lines ++ [line]) = [] := by
  rw [logged, List.rtakeWhile_concat_neg _ _ _ (by rw [h]; exact Bool.false_ne_true)]
  rfl

/-- Any other line is logged behind those before it, or it is not logged. -/
theorem logged_concat_of_not_erases (h : ¬ erases line = true) :
    logged keeps (lines ++ [line]) =
      logged keeps lines ++ if isLogged keeps line = true then [trimmed line] else [] := by
  rw [logged, List.rtakeWhile_concat_pos _ _ _ (by rw [Bool.eq_false_iff.mpr h]; rfl), List.filter_append,
    List.map_append, logged]
  by_cases hlogged : isLogged keeps line = true
  · rw [if_pos hlogged, List.filter_cons_of_pos hlogged]
    rfl
  · rw [if_neg hlogged, List.filter_cons_of_neg hlogged]
    rfl

/-! ## Command lines -/

/-- The line of a call that comes while nothing waits. -/
def commandLine? (s : Interpreter) : Call → Option String
  | .feed line => if s.pending.isNone then some line else none
  | .cancel => none

/-- The lines of some calls that come while nothing waits, in their order. -/
def commandLines (s : Interpreter) (keeps : String → Bool) : List Call → List String
  | [] => []
  | call :: calls => (s.commandLine? call).toList ++ commandLines (s.afterInto keeps call) keeps calls

/-! ## One line -/

/-- A blank line does not erase the history. -/
theorem not_erases_of_blank (h : Text.isBlankText line.toList = true) : ¬ erases line = true := by
  rw [erases, command_resolve_of_isBlankText h]
  decide

/-- A change that is carried out is no matter for the history. -/
theorem history_of_apply {change : Change} {kind : Kind} {path : Path} {description : String} {s' : Interpreter}
    (h : s.apply change kind path description = .ok s') : s'.history = s.history := by
  cases change with
  | add =>
    obtain ⟨added, -, h⟩ := Except.bind_eq_ok.mp h
    cases h
    rfl
  | update =>
    obtain ⟨updated, -, h⟩ := Except.bind_eq_ok.mp h
    cases h
    rfl

/-- Neither is a change that waits. -/
theorem history_of_change {change : Change} {q : Query} {s' : Interpreter} {outcome : Outcome}
    (h : s.change change q = .ok (s', outcome)) : s'.history = s.history := by
  obtain ⟨⟨kind, reference⟩, -, h⟩ := Except.bind_eq_ok.mp h
  simp only at h
  by_cases hempty : reference.description.isEmpty = true
  · rw [if_pos hempty] at h
    obtain ⟨prefill, -, h⟩ := Except.bind_eq_ok.mp h
    cases h
    rfl
  · rw [if_neg hempty] at h
    obtain ⟨state, happly, h⟩ := Except.bind_eq_ok.mp h
    cases h
    exact history_of_apply happly

/-- Nor is any change of the records. -/
theorem history_of_edited {q : Query} {s' : Interpreter} {outcome : Outcome}
    (h : s.edited q = .ok (s', outcome)) : s'.history = s.history := by
  unfold edited at h
  split at h
  · exact history_of_change h
  · exact history_of_change h
  · obtain ⟨⟨kind, reference⟩, -, h⟩ := Except.bind_eq_ok.mp h
    obtain ⟨removed, -, h⟩ := Except.bind_eq_ok.mp h
    cases h
    rfl
  · cases h

/-- **Only a line that erases the history changes it** when it is carried out. -/
theorem history_dispatch {r : Resolution} (h : r.command ≠ .erase) : (s.dispatch r).state.history = s.history := by
  have hdispatched := dispatched s r
  generalize s.dispatch r = reply at hdispatched ⊢
  cases hdispatched with
  | edited hedited => exact history_of_edited hedited
  | erased hcommand => exact absurd hcommand h
  | failed | told | shown | saved | abandoned => rfl

/-- A line that erases the history does only that. -/
theorem dispatch_of_erase {r : Resolution} (h : r.command = .erase) :
    s.dispatch r = .silent { s with history := s.history.map fun _ => [] } .continue := by
  have hcomplete : r.isComplete = true := by
    rw [Query.isComplete, h]
    rfl
  simp only [dispatch, if_pos hcomplete, h]

/-- A description is not logged. -/
theorem history_resume (s : Interpreter) (pending : Pending) (line : String) :
    (s.resume pending line).state.history = s.history := by
  unfold resume
  by_cases hempty : (String.ofList (Text.unquote line.toList)).isEmpty = true
  · simp only [if_pos hempty]
    rfl
  · simp only [if_neg hempty]
    split
    · next state hresult =>
      obtain ⟨_, -, happly⟩ := Except.bind_eq_ok.mp hresult
      exact history_of_apply (s := { s with pending := none }) happly
    · rw [state_report]

/-- A history that is not given a blank line has nothing to refuse. -/
theorem not_refuses_of_blank (h : Text.isBlankText line.toList = true) : ¬ s.Refuses keeps line :=
  fun hrefuses => hrefuses.text h

/-- Neither has one that is to be erased. -/
theorem not_refuses_of_erases (h : erases line = true) : ¬ s.Refuses keeps line :=
  fun hrefuses => hrefuses.command (of_decide_eq_true h)

/-- **One line is logged** if it comes while nothing waits, as the log says. -/
theorem history_feedInto (hidle : s.pending = none) (hlog : s.history = some (logged keeps lines))
    (line : String) : (s.feedInto keeps line).state.history = some (logged keeps (lines ++ [line])) := by
  by_cases hblank : Text.isBlankText line.toList = true
  · have hskipped : ¬ isLogged keeps line = true := by
      rw [isLogged, hblank]
      exact Bool.false_ne_true
    rw [feedInto_of_not_refuses (not_refuses_of_blank hblank), feed_of_idle hidle, execute_of_blank hblank,
      logged_concat_of_not_erases (not_erases_of_blank hblank), if_neg hskipped, List.append_nil]
    exact hlog
  · by_cases herases : erases line = true
    · rw [feedInto_of_not_refuses (not_refuses_of_erases herases), feed_of_idle hidle, execute_of_text hblank,
        logged_concat_of_erases herases, state_report, dispatch_of_erase (of_decide_eq_true herases)]
      simp only [Reply.silent, record, hlog, Option.map_some]
    · have hcommand : (resolve line).command ≠ .erase := fun h => herases (decide_eq_true h)
      rw [logged_concat_of_not_erases herases]
      by_cases hkeeps : keeps (trimmed line) = true
      -- the line is recorded before it is carried out, so it is logged whatever comes of it
      · have hkept : ¬ s.Refuses keeps line := fun hrefuses => by
          rw [trimmed, hrefuses.refused] at hkeeps
          cases hkeeps
        have hlogged : isLogged keeps line = true := by
          rw [isLogged, Bool.eq_false_iff.mpr hblank, hkeeps]
          rfl
        have hrecorded : recorded? line = some (trimmed line) := by
          rw [recorded?, if_neg (fun h => h.elim hblank hcommand)]
          rfl
        rw [feedInto_of_not_refuses hkept, feed_of_idle hidle, execute_of_text hblank, if_pos hlogged, state_report,
          history_dispatch hcommand]
        simp only [record, hlog, Option.map_some, hrecorded, Option.toList_some]
      · have hrefuses : s.Refuses keeps line :=
          ⟨hidle, by rw [hlog]; rfl, hblank, hcommand, Bool.eq_false_iff.mpr hkeeps⟩
        have hskipped : ¬ isLogged keeps line = true := by
          rw [isLogged, Bool.eq_false_iff.mpr hkeeps, Bool.and_false]
          exact Bool.false_ne_true
        rw [feedInto_of_refuses hrefuses, if_neg hskipped, List.append_nil]
        exact hlog

/-! ## Runs -/

/-- **A call logs its line** if that comes while nothing waits, and otherwise it is no matter for the history. -/
theorem history_afterInto (hlog : s.history = some (logged keeps lines)) (call : Call) :
    (s.afterInto keeps call).history = some (logged keeps (lines ++ (s.commandLine? call).toList)) := by
  cases call with
  | feed line =>
    rcases hpending : s.pending with _ | pending
    · rw [commandLine?, hpending]
      exact history_feedInto hpending hlog line
    · rw [commandLine?, hpending, afterInto, feedInto_of_waiting hpending, history_resume]
      simpa using hlog
  | cancel =>
    rw [commandLine?, Option.toList_none, List.append_nil]
    exact hlog

/-- What was logged before some calls is followed by what they log. -/
theorem history_runInto_of_logged (hlog : s.history = some (logged keeps lines)) (calls : List Call) :
    (s.runInto keeps calls).history = some (logged keeps (lines ++ s.commandLines keeps calls)) := by
  induction calls generalizing s lines with
  | nil =>
    rw [commandLines, List.append_nil]
    exact hlog
  | cons call calls ih =>
    rw [commandLines, ← List.append_assoc]
    exact ih (history_afterInto hlog call)

/-- **The history is an exact log of command lines.** Whatever is asked of an interpreter whose history is empty
at first, and whatever comes of it, the history holds the lines that came while nothing waited, without the
white space at their ends: in order and as often as they came, those behind the last one that erased the history,
but no blank ones and none that the history refuses. -/
theorem history_runInto (keeps : String → Bool) (plan : Plan) (clock : Clock) (calls : List Call) :
    let s : Interpreter := ⟨plan, clock, none, some []⟩
    (s.runInto keeps calls).history = some (logged keeps (s.commandLines keeps calls)) :=
  @history_runInto_of_logged _ keeps [] rfl calls

/-- A line that erases the history, one that fails and one that waits, with its description behind it. -/
example :
    let s : Interpreter := ⟨Plan.blank "" "", ⟨⟨0, 0⟩⟩, none, some []⟩
    (s.runInto HistoryFile.keeps
      [.feed "show", .feed " ER now", .feed " add goal 1 ", .feed "add goal", .feed "erase"]).history =
        some ["add goal 1", "add goal"] := by decide

/-- **A history that is kept in a file does not log a line with a null character**, although it comes while nothing
waits, is not blank and does not erase the history. -/
theorem history_null :
    let line := "add goal x\x00"
    ¬ Text.isBlankText line.toList = true ∧ ¬ erases line = true ∧
      oneGoal.commandLines HistoryFile.keeps [.feed line] = [line] ∧
        (oneGoal.runInto HistoryFile.keeps [.feed line]).history ≠ some [line] := by
  decide

end Interpreter

end LifePlan
