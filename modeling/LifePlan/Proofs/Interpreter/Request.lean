import LifePlan.Proofs.Interpreter.Effect
import LifePlan.Proofs.Plan.FanOut

/-!
# What requests do to the plan

The interpreter can be asked to take a line, to execute a line as a command even while a change waits for its
description, and to give up what waits (`Request`). Whatever is asked, and whatever lines the history refuses, the
plan and the clock stay as they are or one record is edited as `Plan.edit` does it (`edits_handleInto`), so what
edits keep is kept by all sequences of requests (`heir_handleAllInto`). It follows that no list of records outgrows
a bound that is not below the one for additions, and that a list that was loaded with more records than that never
becomes longer (`fanOut_handleAllInto`).
-/

namespace LifePlan

namespace Interpreter

variable {s s' : Interpreter} {keeps : String → Bool}

/-! ## Requests -/

/-- What the interpreter can be asked to do. -/
inductive Request where
  | feed (line : String)
  /-- A line is executed as a command, whether or not a change waits. -/
  | execute (line : String)
  | cancel
  deriving DecidableEq, Repr

/-- The state after a request, where the history may refuse lines. -/
def handleInto (keeps : String → Bool) (s : Interpreter) : Request → Interpreter
  | .feed line => (s.feedInto keeps line).state
  | .execute line => (s.executeInto keeps line).state
  | .cancel => s.cancel

/-- The state after some requests, one after the other. -/
def handleAllInto (s : Interpreter) (keeps : String → Bool) (requests : List Request) : Interpreter :=
  requests.foldl (handleInto keeps) s

/-! ## One request -/

/-- From one state to another, at most one record of the plan was edited, and a description that was given has no
white space at its ends. -/
inductive Edits (s s' : Interpreter) : Prop
  | kept (hplan : s'.plan = s.plan) (hclock : s'.clock = s.clock)
  | edited {command : Command} {kind : Kind} {path : Path} {description : String}
      (h : s.plan.edit s.clock command kind path description = .ok (s'.plan, s'.clock))
      (htidy : command = .remove ∨ Text.IsTidy description.toList)

/-- What is found was read from the rest of the line. -/
theorem exists_parse_of_locate {q : Query} {command : Command} {kind : Kind} {reference : Reference}
    (h : s.locate q command = .ok (kind, reference)) : ∃ text, Reference.parse text = .ok reference := by
  obtain ⟨_, -, h⟩ := Except.bind_eq_ok.mp h
  obtain ⟨text, -, h⟩ := Except.bind_eq_ok.mp h
  obtain ⟨reference', hparse, h⟩ := Except.bind_eq_ok.mp h
  obtain ⟨_, -, h⟩ := Except.bind_eq_ok.mp h
  obtain ⟨_, -, h⟩ := Except.bind_eq_ok.mp h
  cases h
  exact ⟨text, hparse⟩

/-- A change that was carried out is an edit. -/
theorem edit_of_apply {change : Change} {kind : Kind} {path : Path} {description : String}
    (h : s.apply change kind path description = .ok s') :
    s.plan.edit s.clock change.command kind path description = .ok (s'.plan, s'.clock) := by
  cases change with
  | add =>
    obtain ⟨⟨node, plan, clock⟩, hadd, h⟩ := Except.bind_eq_ok.mp h
    cases h
    rw [Change.command, Plan.edit, hadd]
    rfl
  | update =>
    obtain ⟨⟨node, plan⟩, hupdate, h⟩ := Except.bind_eq_ok.mp h
    cases h
    rw [Change.command, Plan.edit, hupdate]
    rfl

/-- A change is carried out, or it waits. -/
theorem edits_change {change : Change} {q : Query} {outcome : Outcome}
    (h : s.change change q = .ok (s', outcome)) : Edits s s' := by
  obtain ⟨⟨kind, reference⟩, hlocate, h⟩ := Except.bind_eq_ok.mp h
  simp only at h
  by_cases hempty : reference.description.isEmpty = true
  · rw [if_pos hempty] at h
    obtain ⟨prefill, -, h⟩ := Except.bind_eq_ok.mp h
    cases h
    exact .kept rfl rfl
  · rw [if_neg hempty] at h
    obtain ⟨state, happly, h⟩ := Except.bind_eq_ok.mp h
    cases h
    obtain ⟨text, hparse⟩ := exists_parse_of_locate hlocate
    have htidy := Reference.isTidy_of_parse hparse fun hnone => hempty (String.isEmpty_iff.mpr hnone)
    exact .edited (edit_of_apply happly) (.inr htidy)

/-- A removal is carried out. -/
theorem edits_remove {q : Query} {outcome : Outcome} (h : s.remove q = .ok (s', outcome)) : Edits s s' := by
  obtain ⟨⟨kind, reference⟩, -, h⟩ := Except.bind_eq_ok.mp h
  obtain ⟨⟨node, plan⟩, hremove, h⟩ := Except.bind_eq_ok.mp h
  cases h
  have hedit : s.plan.edit s.clock .remove kind reference.indices "" = .ok (plan, s.clock) := by
    rw [Plan.edit, hremove]
    rfl
  exact .edited hedit (.inl rfl)

/-- What changes records edits at most one. -/
theorem edits_edited {q : Query} {outcome : Outcome} (h : s.edited q = .ok (s', outcome)) : Edits s s' := by
  unfold edited at h
  split at h
  · exact edits_change h
  · exact edits_change h
  · exact edits_remove h
  · cases h

/-- A line that is carried out edits at most one record. -/
theorem edits_dispatch (s : Interpreter) (r : Resolution) : Edits s (s.dispatch r).state := by
  have hdispatched := dispatched s r
  generalize s.dispatch r = reply at hdispatched ⊢
  cases hdispatched with
  | edited h => exact edits_edited h
  | failed | told | shown | erased | saved | abandoned => exact .kept rfl rfl

/-- To tell a fault as a notice leaves the state as it is. -/
@[simp] theorem state_report (r : Reply) : r.report.state = r.state := by
  unfold Reply.report
  split
  · rfl
  · rfl

/-- A command line that is recorded edits at most one record. -/
theorem edits_execute (s : Interpreter) (line : String) : Edits s (s.execute line).state := by
  by_cases hblank : Text.isBlankText line.toList = true
  · rw [execute_of_blank hblank]
    exact .kept rfl rfl
  · rw [execute_of_text hblank, state_report]
    -- to record the line changes neither the plan nor the clock
    cases edits_dispatch (s.record line) (resolve line) with
    | kept hplan hclock => exact .kept hplan hclock
    | edited h htidy => exact .edited h htidy

/-- A command line edits at most one record, and none if the history refuses it. -/
theorem edits_executeInto (s : Interpreter) (keeps : String → Bool) (line : String) :
    Edits s (s.executeInto keeps line).state := by
  rcases s.executeInto_cases keeps line with hdone | hrefused
  · rw [hdone]
    exact edits_execute s line
  · rw [hrefused]
    exact .kept rfl rfl

/-- A description edits at most one record. -/
theorem edits_resume (s : Interpreter) (pending : Pending) (line : String) :
    Edits s (s.resume pending line).state := by
  unfold resume
  by_cases hempty : (String.ofList (Text.unquote line.toList)).isEmpty = true
  · simp only [if_pos hempty]
    exact .kept rfl rfl
  · simp only [if_neg hempty]
    split
    · next state hresult =>
      obtain ⟨_, -, happly⟩ := Except.bind_eq_ok.mp hresult
      have htidy := Text.isTidy_ofList_unquote fun hnone => hempty (String.isEmpty_iff.mpr hnone)
      exact .edited (edit_of_apply (s := { s with pending := none }) happly) (.inr htidy)
    · rw [state_report]
      exact .kept rfl rfl

/-- **Whatever is asked, at most one record is edited.** -/
theorem edits_handleInto (s : Interpreter) (keeps : String → Bool) (request : Request) :
    Edits s (s.handleInto keeps request) := by
  cases request with
  | feed line =>
    rw [handleInto]
    rcases hpending : s.pending with _ | pending
    · rw [feedInto_of_idle hpending]
      exact edits_executeInto s keeps line
    · rw [feedInto_of_waiting hpending]
      exact edits_resume s pending line
  | execute line => exact edits_executeInto s keeps line
  | cancel => exact .kept rfl rfl

/-! ## Many requests -/

/-- Whatever is asked, the plan afterwards is an heir of the plan before. -/
theorem heir_handleInto (s : Interpreter) (keeps : String → Bool) (request : Request) :
    s.plan.Heir (s.handleInto keeps request).plan := by
  cases edits_handleInto s keeps request with
  | kept hplan hclock =>
    rw [hplan]
    exact Plan.Heir.refl s.plan
  | edited h _ => exact Plan.heir_edit h

/-- **After any requests the plan is an heir of what it was.** -/
theorem heir_handleAllInto (s : Interpreter) (keeps : String → Bool) (requests : List Request) :
    s.plan.Heir (s.handleAllInto keeps requests).plan := by
  induction requests generalizing s with
  | nil => exact Plan.Heir.refl s.plan
  | cons request requests ih => exact (heir_handleInto s keeps request).trans (ih (s.handleInto keeps request))

/-- **No list of records outgrows its bound**, whatever is asked, whatever waits at the start and whatever lines the
history refuses. A bound that is not below the one for additions is kept in all lists of the plan; and each list of the
plan afterwards holds records that were in the list before, or new ones behind them, and is no longer than it was
before or than records may be added. So a list of more than `maxChildren` records can only become shorter. -/
theorem fanOut_handleAllInto (s : Interpreter) (keeps : String → Bool) (requests : List Request) :
    (∀ m, maxChildren ≤ m → s.plan.Within m → (s.handleAllInto keeps requests).plan.Within m) ∧
      s.plan.Heir (s.handleAllInto keeps requests).plan :=
  ⟨fun _ hm h => (heir_handleAllInto s keeps requests).within hm h, heir_handleAllInto s keeps requests⟩

/-- A plan with one goal more than may be added, as it may have been loaded. -/
def eightGoals : Interpreter :=
  ⟨{ Plan.blank "" "" with goals := List.replicate 8 ⟨"", "walk", [], []⟩ }, ⟨⟨0, 0⟩⟩, none, some []⟩

/-- The eight goals become seven and never more: one is removed while another waits for its description, and
what was refused before is refused again. -/
theorem fanOut_handleAllInto_eightGoals :
    let after := eightGoals.handleAllInto HistoryFile.keeps
      [.feed "add goal swim", .feed "update goal 1", .execute "remove goal 8", .feed "run",
        .feed "add goal swim"]
    maxChildren ≤ 8 ∧ eightGoals.plan.Within 8 ∧ after.plan.Within 8 ∧ eightGoals.plan.Heir after.plan ∧
      after.plan.goals.map Goal.description = "run" :: List.replicate 6 "walk" := by
  intro after
  obtain ⟨hwithin, hheir⟩ := fanOut_handleAllInto eightGoals HistoryFile.keeps
    [.feed "add goal swim", .feed "update goal 1", .execute "remove goal 8", .feed "run",
      .feed "add goal swim"]
  exact ⟨by decide, by decide, hwithin 8 (by decide) (by decide), hheir, by decide⟩

end Interpreter

end LifePlan
