import LifePlan.Proofs.Interpreter.History

/-!
# Lines that leave nothing behind

The history is written but never read: two states that differ at most in the lines of their histories answer
every line in the same way, and they still differ in no more afterwards (`alike_feedInto`). So a line that does
nothing but to be recorded makes no difference to what comes later. Such are the lines that list, help, clear
or erase, blank lines and lines that end in a notice (`alike_of_traceless`), and a change that is given up before
it has its description (`alike_of_awaiting`).
-/

namespace LifePlan

namespace Interpreter

/-! ## States that differ in their histories -/

/-- The state with another history. -/
def withHistory (s : Interpreter) (history : Option (List String)) : Interpreter := { s with history := history }

/-- The plan stays. -/
theorem plan_withHistory (s : Interpreter) (history : Option (List String)) :
    (s.withHistory history).plan = s.plan := rfl

/-- Two states differ at most in the lines of their histories. -/
structure Alike (s t : Interpreter) : Prop where
  plan : t.plan = s.plan
  clock : t.clock = s.clock
  pending : t.pending = s.pending
  kept : t.history.isSome = s.history.isSome

/-- Every state is like itself. -/
theorem Alike.refl (s : Interpreter) : Alike s s := ⟨rfl, rfl, rfl, rfl⟩

/-- What is like something that is like a state is like that state. -/
theorem Alike.trans {s t u : Interpreter} (h : Alike s t) (h' : Alike t u) : Alike s u :=
  ⟨h'.plan.trans h.plan, h'.clock.trans h.clock, h'.pending.trans h.pending, h'.kept.trans h.kept⟩

/-- The same holds the other way round. -/
theorem Alike.symm {s t : Interpreter} (h : Alike s t) : Alike t s :=
  ⟨h.plan.symm, h.clock.symm, h.pending.symm, h.kept.symm⟩

/-- States that are alike still are when what waits is given up. -/
theorem Alike.cancel {s t : Interpreter} (h : Alike s t) : Alike s.cancel t.cancel :=
  ⟨h.plan, h.clock, rfl, h.kept⟩

/-- A state that is like another one is that one with its own history. -/
theorem Alike.eq_withHistory {s t : Interpreter} (h : Alike s t) : t = s.withHistory t.history := by
  obtain ⟨plan, clock, pending, history⟩ := t
  obtain ⟨rfl, rfl, rfl, -⟩ := h
  rfl

/-- Another history makes no other difference, if there was one before. -/
theorem alike_withHistory {s : Interpreter} {history : Option (List String)}
    (h : history.isSome = s.history.isSome) : Alike s (s.withHistory history) := ⟨rfl, rfl, rfl, h⟩

end Interpreter

namespace Reply

/-- The reply whose state has another history. -/
def withHistory (r : Reply) (history : Option (List String)) : Reply :=
  { r with state := r.state.withHistory history }

/-- Two replies tell and show the same, and leave states that are alike. -/
structure Alike (r r' : Reply) : Prop where
  outcome : r'.outcome = r.outcome
  shown : r'.shown = r.shown
  state : r.state.Alike r'.state

/-- A fault is told as a notice whatever the history is. -/
theorem report_withHistory (r : Reply) (history : Option (List String)) :
    (r.withHistory history).report = r.report.withHistory history := by
  obtain ⟨state, outcome, shown⟩ := r
  rcases outcome with (fault | misuse) | outcome
  · rfl
  · rfl
  · rfl

end Reply

namespace Interpreter

variable {s t : Interpreter} {keeps : String → Bool} {line : String}

/-! ## The history is not read -/

/-- A change on the plan does not look at the history. -/
theorem apply_withHistory (s : Interpreter) (history : Option (List String)) (change : Change) (kind : Kind)
    (path : Path) (description : String) :
    (s.withHistory history).apply change kind path description =
      (s.apply change kind path description).map (·.withHistory history) := by
  cases change with
  | add =>
    simp only [apply, withHistory]
    rcases s.plan.add s.clock (.one kind) path description with failure | ⟨node, plan, clock⟩
    · rfl
    · rfl
  | update =>
    simp only [apply, withHistory]
    rcases s.plan.update (.one kind) path description with failure | ⟨node, plan⟩
    · rfl
    · rfl

/-- Neither does a change that may have to wait. -/
theorem change_withHistory (s : Interpreter) (history : Option (List String)) (change : Change) (q : Query) :
    (s.withHistory history).change change q =
      (s.change change q).map fun (state, outcome) => (state.withHistory history, outcome) := by
  have hlocate : (s.withHistory history).locate q change.command = s.locate q change.command := rfl
  have hoffer : (s.withHistory history).offer change = s.offer change := rfl
  rw [Interpreter.change, Interpreter.change, hlocate]
  rcases s.locate q change.command with failure | ⟨kind, reference⟩
  · rfl
  · simp only [Except.ok_bind, hoffer, apply_withHistory]
    by_cases hempty : reference.description.isEmpty = true
    · rw [if_pos hempty, if_pos hempty]
      rcases s.offer change kind reference.indices with failure | prefill
      · rfl
      · rfl
    · rw [if_neg hempty, if_neg hempty]
      rcases s.apply change kind reference.indices reference.description with failure | state
      · rfl
      · rfl

/-- Nor does a removal. -/
theorem remove_withHistory (s : Interpreter) (history : Option (List String)) (q : Query) :
    (s.withHistory history).remove q =
      (s.remove q).map fun (state, outcome) => (state.withHistory history, outcome) := by
  have hlocate : (s.withHistory history).locate q .remove = s.locate q .remove := rfl
  rw [Interpreter.remove, Interpreter.remove, hlocate]
  rcases s.locate q .remove with failure | ⟨kind, reference⟩
  · rfl
  · simp only [Except.ok_bind, withHistory]
    rcases s.plan.remove (.one kind) reference.indices with failure | ⟨node, plan⟩
    · rfl
    · rfl

/-- **A line is carried out without a look at the history**, unless it erases it. -/
theorem dispatch_withHistory {r : Resolution} (h : r.command ≠ .erase) (s : Interpreter)
    (history : Option (List String)) :
    (s.withHistory history).dispatch r = (s.dispatch r).withHistory history := by
  unfold dispatch
  by_cases hcomplete : r.isComplete = true
  · simp only [if_pos hcomplete]
    split
    · rw [change_withHistory]
      rcases s.change .add r.toQuery with failure | ⟨state, outcome⟩
      · rfl
      · rfl
    · rw [change_withHistory]
      rcases s.change .update r.toQuery with failure | ⟨state, outcome⟩
      · rfl
      · rfl
    · rw [remove_withHistory]
      rcases s.remove r.toQuery with failure | ⟨state, outcome⟩
      · rfl
      · rfl
    · have hlist : (s.withHistory history).list = s.list := rfl
      rw [hlist]
      rcases s.list (r.item.getD .all) with failure | display
      · rfl
      · rfl
    · rfl
    · rfl
    · next herase => exact absurd herase h
    · rfl
    · rfl
    · rfl
  · simp only [if_neg hcomplete]
    rfl

/-- A description is taken without a look at the history. -/
theorem resume_withHistory (s : Interpreter) (history : Option (List String)) (pending : Pending) (line : String) :
    (s.withHistory history).resume pending line = (s.resume pending line).withHistory history := by
  unfold resume
  by_cases hempty : (String.ofList (Text.unquote line.toList)).isEmpty = true
  · simp only [if_pos hempty]
    rfl
  · have hidle : { s.withHistory history with pending := none } =
        { s with pending := none }.withHistory history := rfl
    simp only [if_neg hempty, hidle, apply_withHistory]
    rw [plan_withHistory]
    rcases Check.target s.plan pending.change.command (.one pending.kind) pending.path with failure | _
    · exact Reply.report_withHistory ⟨_, .error failure, []⟩ history
    · simp only [Except.ok_bind]
      rcases apply { s with pending := none } pending.change pending.kind pending.path
        (String.ofList (Text.unquote line.toList)) with failure | state
      · exact Reply.report_withHistory ⟨_, .error failure, []⟩ history
      · rfl

/-! ## Alike states answer alike -/

/-- A reply is like the one whose state has another history, if there was one before. -/
theorem alike_reply {r : Reply} {history : Option (List String)} (h : history.isSome = r.state.history.isSome) :
    r.Alike (r.withHistory history) := ⟨rfl, rfl, alike_withHistory h⟩

/-- To record a line makes no difference. -/
theorem alike_record (s : Interpreter) (line : String) : s.Alike (s.record line) :=
  ⟨rfl, rfl, rfl, Option.isSome_map⟩

/-- Lines that have been read are answered alike. -/
theorem alike_dispatch (h : s.Alike t) (r : Resolution) : (s.dispatch r).report.Alike (t.dispatch r).report := by
  by_cases herase : r.command = .erase
  · rw [dispatch_of_erase herase, dispatch_of_erase herase]
    refine ⟨rfl, rfl, h.plan, h.clock, h.pending, ?_⟩
    change (t.history.map _).isSome = (s.history.map _).isSome
    rw [Option.isSome_map, Option.isSome_map, h.kept]
  · rw [h.eq_withHistory, dispatch_withHistory herase, Reply.report_withHistory]
    refine alike_reply ?_
    rw [state_report, history_dispatch herase, h.kept]

/-- So are command lines. -/
theorem alike_execute (h : s.Alike t) (line : String) : (s.execute line).Alike (t.execute line) := by
  by_cases hblank : Text.isBlankText line.toList = true
  · rw [execute_of_blank hblank, execute_of_blank hblank]
    exact ⟨rfl, rfl, h⟩
  · rw [execute_of_text hblank, execute_of_text hblank]
    exact alike_dispatch ((alike_record s line).symm.trans (h.trans (alike_record t line))) (resolve line)

/-- All lines are answered alike. -/
theorem alike_feed (h : s.Alike t) (line : String) : (s.feed line).Alike (t.feed line) := by
  rcases hpending : s.pending with _ | pending
  · rw [feed_of_idle hpending, feed_of_idle (h.pending.trans hpending)]
    exact alike_execute h line
  · have hkept := h.kept
    rw [feed_of_waiting hpending, feed_of_waiting (h.pending.trans hpending), h.eq_withHistory]
    simp only [resume_withHistory]
    refine alike_reply ?_
    rw [history_resume, hkept]

/-- What the history refuses in one state it refuses in the other. -/
theorem Alike.refuses (h : s.Alike t) (hrefuses : s.Refuses keeps line) : t.Refuses keeps line :=
  { hrefuses with idle := h.pending.trans hrefuses.idle, kept := h.kept.trans hrefuses.kept }

/-- **States that differ in their histories answer every line alike**, and still differ in no more afterwards,
whatever the history refuses. -/
theorem alike_feedInto (h : s.Alike t) (keeps : String → Bool) (line : String) :
    (s.feedInto keeps line).Alike (t.feedInto keeps line) := by
  by_cases hrefuses : s.Refuses keeps line
  · rw [feedInto_of_refuses hrefuses, feedInto_of_refuses (h.refuses hrefuses)]
    exact ⟨rfl, rfl, h⟩
  · rw [feedInto_of_not_refuses hrefuses, feedInto_of_not_refuses fun ht => hrefuses (h.symm.refuses ht)]
    exact alike_feed h line

/-! ## Lines without a trace -/

/-- A line that leaves nothing behind but its record, while nothing waits: it is blank or erases the history, it
only shows something, or it ends in a notice. -/
inductive Traceless (s : Interpreter) (keeps : String → Bool) (line : String) : Prop
  | blank (h : Text.isBlankText line.toList = true)
  | erases (h : Interpreter.erases line = true)
  | views (h : (resolve line).command ∈ [Command.list, .help, .clear]) (hkept : ¬ s.Refuses keeps line)
  | told (message : String) (h : Display.notice message ∈ (s.feedInto keeps line).shown)

/-- Whatever changes records has a command that does. -/
theorem edits_of_edited {q : Query} {r : Interpreter × Outcome} (h : s.edited q = .ok r) : q.command.edits := by
  unfold edited at h
  split at h
  · next hadd => exact .inl hadd
  · next hupdate => exact .inr (.inl hupdate)
  · next hremove => exact .inr (.inr hremove)
  · cases h

/-- A line that only shows something leaves the state as it is. -/
theorem report_dispatch_of_views {r : Resolution} (h : r.command ∈ [Command.list, .help, .clear]) :
    (s.dispatch r).report.outcome = .ok .continue ∧ (s.dispatch r).report.state = s := by
  have hedits : ¬ r.command.edits := by
    intro hedits
    rcases hedits with hcommand | hcommand | hcommand <;> rw [hcommand] at h <;> exact absurd h (by decide)
  have hdispatched := dispatched s r
  generalize s.dispatch r = reply at hdispatched ⊢
  cases hdispatched with
  | edited hedited => exact absurd (edits_of_edited hedited) hedits
  | failed hfailed => exact absurd hfailed hedits
  | told | shown => exact ⟨rfl, rfl⟩
  | erased hcommand | saved hcommand | abandoned hcommand =>
    rw [hcommand] at h
    exact absurd h (by decide)

/-- So does a line that ends in a notice. -/
theorem report_dispatch_of_notice {r : Resolution} {message : String}
    (h : Display.notice message ∈ (s.dispatch r).report.shown) :
    (s.dispatch r).report.outcome = .ok .continue ∧ (s.dispatch r).report.state = s := by
  have hdispatched := dispatched s r
  generalize s.dispatch r = reply at hdispatched h ⊢
  cases hdispatched with
  | @failed failure =>
    rcases failure with fault | misuse
    · exact ⟨rfl, rfl⟩
    · exact absurd h List.not_mem_nil
  | told | shown => exact ⟨rfl, rfl⟩
  | edited | erased | saved | abandoned => exact absurd h List.not_mem_nil

/-- **A line without a trace is followed by the next one as if it had not come.** -/
theorem alike_of_traceless (hidle : s.pending = none) (h : s.Traceless keeps line) :
    (s.feedInto keeps line).outcome = .ok .continue ∧ s.Alike (s.feedInto keeps line).state := by
  cases h with
  | blank hblank =>
    rw [feedInto_of_not_refuses (not_refuses_of_blank hblank), feed_of_idle hidle, execute_of_blank hblank]
    exact ⟨rfl, .refl s⟩
  | erases herases =>
    have hblank : ¬ Text.isBlankText line.toList = true := fun h => not_erases_of_blank h herases
    rw [feedInto_of_not_refuses (not_refuses_of_erases herases), feed_of_idle hidle, execute_of_text hblank,
      dispatch_of_erase (of_decide_eq_true herases)]
    refine ⟨rfl, (alike_record s line).trans (alike_withHistory ?_)⟩
    rw [Option.isSome_map]
  | views hviews hkept =>
    have hblank : ¬ Text.isBlankText line.toList = true := by
      intro hblank
      rw [command_resolve_of_isBlankText hblank] at hviews
      exact absurd hviews (by decide)
    rw [feedInto_of_not_refuses hkept, feed_of_idle hidle, execute_of_text hblank]
    obtain ⟨houtcome, hstate⟩ := @report_dispatch_of_views (s.record line) _ hviews
    rw [houtcome, hstate]
    exact ⟨rfl, alike_record s line⟩
  | told message hmessage =>
    have hkept : ¬ s.Refuses keeps line := fun hrefuses => by
      rw [feedInto_of_refuses hrefuses] at hmessage
      exact absurd hmessage List.not_mem_nil
    rw [feedInto_of_not_refuses hkept, feed_of_idle hidle] at hmessage ⊢
    by_cases hblank : Text.isBlankText line.toList = true
    · rw [execute_of_blank hblank] at hmessage
      exact absurd hmessage List.not_mem_nil
    · rw [execute_of_text hblank] at hmessage ⊢
      obtain ⟨houtcome, hstate⟩ := report_dispatch_of_notice hmessage
      rw [houtcome, hstate]
      exact ⟨rfl, alike_record s line⟩

/-! ## Changes that are given up -/

/-- A change that waits has changed nothing but that. -/
theorem change_of_awaiting {change : Change} {q : Query} {s' : Interpreter}
    (h : s.change change q = .ok (s', .awaitingDescription)) :
    ∃ pending, s' = { s with pending := some pending } := by
  obtain ⟨⟨kind, reference⟩, -, h⟩ := Except.bind_eq_ok.mp h
  simp only at h
  by_cases hempty : reference.description.isEmpty = true
  · rw [if_pos hempty] at h
    obtain ⟨prefill, -, h⟩ := Except.bind_eq_ok.mp h
    cases h
    exact ⟨_, rfl⟩
  · rw [if_neg hempty] at h
    obtain ⟨state, -, h⟩ := Except.bind_eq_ok.mp h
    cases h

/-- Neither has any line after which a change waits. -/
theorem dispatch_of_awaiting {r : Resolution} (h : (s.dispatch r).outcome = .ok .awaitingDescription) :
    ∃ pending, (s.dispatch r).state = { s with pending := some pending } := by
  have hdispatched := dispatched s r
  generalize s.dispatch r = reply at hdispatched h ⊢
  cases hdispatched with
  | edited hedited =>
    cases h
    unfold edited at hedited
    split at hedited
    · exact change_of_awaiting hedited
    · exact change_of_awaiting hedited
    · obtain ⟨_, -, hedited⟩ := Except.bind_eq_ok.mp hedited
      obtain ⟨_, -, hedited⟩ := Except.bind_eq_ok.mp hedited
      cases hedited
    · cases hedited
  | failed | told | shown | erased | saved | abandoned => cases h

/-- **A change that is given up leaves nothing behind.** -/
theorem alike_of_awaiting (hidle : s.pending = none)
    (h : (s.feedInto keeps line).outcome = .ok .awaitingDescription) :
    (s.feedInto keeps line).state.pending.isSome = true ∧ s.Alike (s.feedInto keeps line).state.cancel := by
  have hkept : ¬ s.Refuses keeps line := fun hrefuses => by
    rw [feedInto_of_refuses hrefuses] at h
    cases h
  rw [feedInto_of_not_refuses hkept, feed_of_idle hidle] at h ⊢
  by_cases hblank : Text.isBlankText line.toList = true
  · rw [execute_of_blank hblank] at h
    cases h
  · rw [execute_of_text hblank] at h ⊢
    rw [state_report]
    have hdispatch : ((s.record line).dispatch (resolve line)).outcome = .ok .awaitingDescription := by
      generalize (s.record line).dispatch (resolve line) = reply at h
      obtain ⟨state, outcome, shown⟩ := reply
      rcases outcome with (fault | misuse) | outcome
      · cases h
      · cases h
      · exact h
    obtain ⟨pending, hstate⟩ := dispatch_of_awaiting hdispatch
    rw [hstate]
    exact ⟨rfl, rfl, rfl, hidle.symm, Option.isSome_map⟩

end Interpreter

end LifePlan
