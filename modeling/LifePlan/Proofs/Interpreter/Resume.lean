import LifePlan.Proofs.Interpreter.Pending
import LifePlan.Proofs.Interpreter.Request
import LifePlan.Proofs.Plan.Steps

/-!
# Waiting while the plan changes

The plan belongs to the loop around the interpreter, which may change it while a change waits for its description
(`Plan.Operation`). Then the record or the parent that the change is about may be gone, another record may have taken
its place, or the list may have been filled. Whatever has happened, what waits has as many numbers as its command needs
(`Pending.Counted`), which does not depend on the plan. So the line with the description either makes the change on the
plan as it is now, or it fails with a fault that is told, and the plan stays (`feedInto_operated`).
-/

namespace LifePlan

/-! ## Changes from outside -/

/-- What can be done to a plan: with any item, at any place, with any description. -/
inductive Plan.Operation where
  | add (item : Item) (parent : Path) (description : String)
  | update (item : Item) (path : Path) (description : String)
  | remove (item : Item) (path : Path)
  | clear
  deriving DecidableEq, Repr

/-- The plan and the clock afterwards. They stay as they are if it fails. -/
def Plan.operate (p : Plan) (clock : Clock) : Plan.Operation → Plan × Clock
  | .add item parent description =>
    match p.add clock item parent description with
    | .ok (_, q, clock') => (q, clock')
    | .error _ => (p, clock)
  | .update item path description =>
    match p.update item path description with
    | .ok (_, q) => (q, clock)
    | .error _ => (p, clock)
  | .remove item path =>
    match p.remove item path with
    | .ok (_, q) => (q, clock)
    | .error _ => (p, clock)
  | .clear => p.clear clock

/-- There are as many numbers as the command needs. -/
def Pending.Counted (pending : Pending) : Prop :=
  pending.path.length = Check.needed pending.change.command pending.kind

/-- What has the right numbers fails only with a fault. -/
theorem Pending.Counted.exists_fault {p : Plan} {pending : Pending} {failure : Failure} (h : pending.Counted)
    (hrefuses : Check.Refuses p pending.change.command (.one pending.kind) pending.path failure) :
    ∃ fault, failure = .fault fault := by
  cases hrefuses with
  | addressless hedits => exact absurd pending.change.edits_command hedits
  | pathLength hedits hlength => exact absurd h hlength
  | missing => exact ⟨_, rfl⟩
  | full => exact ⟨_, rfl⟩

namespace Interpreter

variable {s s' : Interpreter} {pending : Pending} {keeps : String → Bool} {line : String}

/-- The state after the plan has been changed. -/
def operate (s : Interpreter) (operation : Plan.Operation) : Interpreter :=
  { s with plan := (s.plan.operate s.clock operation).1, clock := (s.plan.operate s.clock operation).2 }

/-- The state after the plan has been changed several times. -/
def operateAll (s : Interpreter) (operations : List Plan.Operation) : Interpreter := operations.foldl operate s

/-- What can happen to the interpreter: it is asked for something, or its plan is changed. -/
inductive Happening where
  | asked (request : Request)
  | changed (operation : Plan.Operation)
  deriving DecidableEq, Repr

/-- The state after something has happened, where the history may refuse lines. -/
def happen (keeps : String → Bool) (s : Interpreter) : Happening → Interpreter
  | .asked request => s.handleInto keeps request
  | .changed operation => s.operate operation

/-- The state after several things have happened, one after the other. -/
def happenAll (s : Interpreter) (keeps : String → Bool) (happenings : List Happening) : Interpreter :=
  happenings.foldl (happen keeps) s

/-- Changes of the plan leave what waits as it is. -/
theorem pending_operateAll (s : Interpreter) (operations : List Plan.Operation) :
    (s.operateAll operations).pending = s.pending := by
  induction operations generalizing s with
  | nil => rfl
  | cons operation operations ih => exact ih (s.operate operation)

/-! ## The numbers of what waits -/

/-- What waits has as many numbers as its command needs. -/
def AwaitsCounted (s : Interpreter) : Prop := ∀ pending ∈ s.pending, pending.Counted

/-- This is so where nothing waits. -/
theorem awaitsCounted_of_idle (h : s.pending = none) : s.AwaitsCounted := by
  intro pending hpending
  rw [h] at hpending
  cases hpending

/-- Only what waits matters. -/
theorem AwaitsCounted.of_pending_eq (h : s.AwaitsCounted) (hpending : s'.pending = s.pending) : s'.AwaitsCounted := by
  intro pending hmem
  rw [hpending] at hmem
  exact h pending hmem

/-- A change that begins to wait has passed the check of its numbers. -/
theorem awaitsCounted_change {change : Change} {q : Query} {outcome : Outcome} (h : s.AwaitsCounted)
    (hchange : s.change change q = .ok (s', outcome)) : s'.AwaitsCounted := by
  obtain ⟨⟨kind, reference⟩, hlocate, hchange⟩ := Except.bind_eq_ok.mp hchange
  simp only at hchange
  by_cases hempty : reference.description.isEmpty = true
  · rw [if_pos hempty] at hchange
    obtain ⟨prefill, -, hchange⟩ := Except.bind_eq_ok.mp hchange
    cases hchange
    intro pending hpending
    cases hpending
    exact (of_locate hlocate).1
  · rw [if_neg hempty] at hchange
    obtain ⟨state, happly, hchange⟩ := Except.bind_eq_ok.mp hchange
    cases hchange
    exact h.of_pending_eq (pending_of_apply happly)

/-- Nothing else that changes records begins to wait. -/
theorem awaitsCounted_edited {q : Query} {outcome : Outcome} (h : s.AwaitsCounted)
    (hedited : s.edited q = .ok (s', outcome)) : s'.AwaitsCounted := by
  unfold edited at hedited
  split at hedited
  · exact awaitsCounted_change h hedited
  · exact awaitsCounted_change h hedited
  · obtain ⟨found, -, hedited⟩ := Except.bind_eq_ok.mp hedited
    obtain ⟨removed, -, hedited⟩ := Except.bind_eq_ok.mp hedited
    cases hedited
    exact h
  · cases hedited

/-- Neither does any other line that is carried out. -/
theorem awaitsCounted_dispatch (h : s.AwaitsCounted) (r : Resolution) : (s.dispatch r).state.AwaitsCounted := by
  have hdispatched := dispatched s r
  generalize s.dispatch r = reply at hdispatched ⊢
  cases hdispatched with
  | edited hedited => exact awaitsCounted_edited h hedited
  | failed | told | shown | erased | saved | abandoned => exact h

/-- A command line is carried out as it is read, or the history refuses it. -/
theorem awaitsCounted_executeInto (h : s.AwaitsCounted) (keeps : String → Bool) (line : String) :
    (s.executeInto keeps line).state.AwaitsCounted := by
  rcases s.executeInto_cases keeps line with hdone | hrefused
  · rw [hdone]
    by_cases hblank : Text.isBlankText line.toList = true
    · rw [execute_of_blank hblank]
      exact h
    · rw [execute_of_text hblank, state_report]
      exact awaitsCounted_dispatch (s := s.record line) h (resolve line)
  · rw [hrefused]
    exact h

/-- After a description the same change waits, or nothing does. -/
theorem pending_resume (s : Interpreter) (pending : Pending) (line : String) :
    (s.resume pending line).state.pending = s.pending ∨ (s.resume pending line).state.pending = none := by
  unfold resume
  by_cases hempty : (String.ofList (Text.unquote line.toList)).isEmpty = true
  · simp only [if_pos hempty]
    exact .inl rfl
  · simp only [if_neg hempty]
    refine .inr ?_
    split
    · next state hresult =>
      obtain ⟨_, -, happly⟩ := Except.bind_eq_ok.mp hresult
      exact pending_of_apply happly
    · rw [state_report]

/-- **Whatever happens, the numbers of what waits are as many as are needed.** -/
theorem awaitsCounted_happen (h : s.AwaitsCounted) (keeps : String → Bool) (happening : Happening) :
    (s.happen keeps happening).AwaitsCounted := by
  cases happening with
  | changed operation => exact h
  | asked request =>
    cases request with
    | feed line =>
      rw [happen, handleInto]
      rcases hpending : s.pending with _ | pending
      · rw [feedInto_of_idle hpending]
        exact awaitsCounted_executeInto h keeps line
      · rw [feedInto_of_waiting hpending]
        rcases pending_resume s pending line with hkept | hnone
        · exact h.of_pending_eq hkept
        · exact awaitsCounted_of_idle hnone
    | execute line => exact awaitsCounted_executeInto h keeps line
    | cancel => exact awaitsCounted_of_idle rfl

/-- So they are after everything that has happened. -/
theorem awaitsCounted_happenAll (h : s.AwaitsCounted) (keeps : String → Bool) (happenings : List Happening) :
    (s.happenAll keeps happenings).AwaitsCounted := by
  induction happenings generalizing s with
  | nil => exact h
  | cons happening happenings ih => exact ih (awaitsCounted_happen h keeps happening)

/-! ## The description -/

/-- **A description is safe on a plan that has changed.** Take any state that requests and changes of the plan lead
to, whatever lines the history refuses, in which a change waits, and let the plan be changed any further. A line without
text changes nothing, and the interpreter waits on. With any other line it waits no longer, and the loop goes on: either
the change is made, with the kind and the numbers that waited and with the text of the line, on the plan as it is, and
nothing is shown; or the plan does not take this change, and then it stays as it is and the fault is told. -/
theorem feedInto_operated (keeps : String → Bool) (plan : Plan) (clock : Clock) (history : Option (List String))
    (happenings : List Happening) :
    let s := happenAll ⟨plan, clock, none, history⟩ keeps happenings
    ∀ pending ∈ s.pending, ∀ (operations : List Plan.Operation) (line : String),
      let t := s.operateAll operations
      let description := String.ofList (Text.unquote line.toList)
      let edited := t.plan.edit t.clock pending.change.command pending.kind pending.path description
      (description = "" → t.feedInto keeps line = ⟨t, .ok .awaitingDescription, []⟩) ∧
        (description ≠ "" →
          (∃ plan' clock', edited = .ok (plan', clock') ∧
            t.feedInto keeps line =
              ⟨{ t with plan := plan', clock := clock', pending := none }, .ok .continue, []⟩) ∨
          ∃ fault, edited = .error (.fault fault) ∧
            t.feedInto keeps line = ⟨{ t with pending := none }, .ok .continue, [.notice fault.message]⟩) := by
  intro s pending hpending operations line t description edited
  have hcounted : pending.Counted :=
    awaitsCounted_happenAll (awaitsCounted_of_idle rfl) keeps happenings pending hpending
  have hwaits : t.pending = some pending := (pending_operateAll s operations).trans hpending
  rw [feedInto_of_not_refuses (not_refuses_of_waiting hwaits)]
  constructor
  · exact feed_empty hwaits
  · intro hline
    have hfeed := feed_eq_edit hwaits hline
    have hcheck := Check.target_edit pending.change.edits_command t.plan t.clock pending.kind pending.path description
    rcases hedited : t.plan.edit t.clock pending.change.command pending.kind pending.path description with
      failure | ⟨plan', clock'⟩
    -- the numbers are as many as are needed, so that only a fault is left as the reason
    · rw [hedited] at hfeed hcheck
      obtain ⟨fault, rfl⟩ := hcounted.exists_fault (Check.target_eq_error_iff.mp hcheck)
      exact .inr ⟨fault, hedited, hfeed⟩
    · rw [hedited] at hfeed
      exact .inl ⟨plan', clock', hedited, hfeed⟩

/-- An action waits for its description. When the goal is gone, it is not added; when another goal has come in its
place, it is added there. -/
theorem feedInto_operated_oneGoal :
    let s := oneGoal.happenAll HistoryFile.keeps [.asked (.feed "add action 1")]
    let gone := s.operateAll [.remove (.one .goal) [0]]
    let other := s.operateAll [.remove (.one .goal) [0], .add (.one .goal) [] "music"]
    gone.feedInto HistoryFile.keeps "practise" =
        ⟨{ gone with pending := none }, .ok .continue, [.notice (Fault.missing .add (.one .action) [0]).message]⟩ ∧
      ∃ plan clock,
        other.plan.edit other.clock .add .action [0] "practise" = .ok (plan, clock) ∧
          other.feedInto HistoryFile.keeps "practise" =
            ⟨{ other with plan := plan, clock := clock, pending := none }, .ok .continue, []⟩ := by
  intro s gone other
  have hpending : s.pending = some ⟨.add, .action, [0], ""⟩ := by decide
  have hsafe := feedInto_operated HistoryFile.keeps oneGoal.plan oneGoal.clock oneGoal.history
    [.asked (.feed "add action 1")] _ hpending
  constructor
  · have hmissing : gone.plan.edit gone.clock .add .action [0] "practise" =
        .error (.fault (.missing .add (.one .action) [0])) := by rfl
    rcases (hsafe [.remove (.one .goal) [0]] "practise").2 (by decide) with
      ⟨plan, clock, hedited, -⟩ | ⟨fault, hedited, hfeed⟩
    · cases hmissing.symm.trans hedited
    · cases hmissing.symm.trans hedited
      exact hfeed
  · rcases (hsafe [.remove (.one .goal) [0], .add (.one .goal) [] "music"] "practise").2 (by decide) with
      ⟨plan, clock, hedited, hfeed⟩ | ⟨fault, hedited, -⟩
    · exact ⟨plan, clock, hedited, hfeed⟩
    · cases hedited

end Interpreter

end LifePlan
