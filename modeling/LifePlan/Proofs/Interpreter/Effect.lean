import LifePlan.Proofs.Check
import LifePlan.Proofs.Interpreter.Refusal
import LifePlan.Proofs.Resolution

/-!
# What a line that changes records does

A line that resolves to a command that changes records of one kind is carried out, or it waits for its
description, or a check fails, unless the history refuses it. Which of the three is decided by `Check.Admits` on
the numbers that were typed (`feedInto_edit`): a change that is admitted is the change of `Plan.edit` at the places
that the numbers stand for, and if it is not admitted, the fault of the first check that fails is shown and nothing
but the history is changed. What can come of any line that has been read is `dispatched`.
-/

namespace LifePlan

/-- The command of a change is one that changes records. -/
theorem Change.edits_command (change : Change) : change.command.edits := by
  cases change with
  | add => exact .inl rfl
  | update => exact .inr (.inl rfl)

/-- A command that changes records is the command of a change, or it removes. -/
theorem Command.edits.cases {command : Command} (h : command.edits) :
    (∃ change : Change, command = change.command) ∨ command = .remove := by
  rcases h with hadd | hupdate | hremove
  · exact .inl ⟨.add, hadd⟩
  · exact .inl ⟨.update, hupdate⟩
  · exact .inr hremove

instance (command : Command) : Decidable command.edits :=
  inferInstanceAs (Decidable (command = .add ∨ command = .update ∨ command = .remove))

/-- A command that changes records is none that does not. -/
theorem Command.edits.ne {command other : Command} (h : command.edits) (hother : ¬ other.edits) :
    command ≠ other := by
  rintro rfl
  exact hother h

namespace Interpreter

open Reference (IsReadable typedNumbers typedDescription places)

variable {s : Interpreter} {q : Query} {command : Command} {kind : Kind} {rest line : String}

/-! ## Finding the place -/

/-- The place of a change that is admitted is found. -/
theorem locate_of_admits (hedits : command.edits) (hitem : q.item = some (.one kind))
    (hrest : q.remainder? = some rest) (hread : IsReadable rest)
    (h : Check.Admits s.plan command kind (typedNumbers rest)) :
    s.locate q command = .ok (kind, ⟨places (typedNumbers rest), typedDescription rest⟩) := by
  have hkind : recordKind q = .ok kind := by rw [recordKind, hitem]
  have htext : restOf q = .ok rest := by rw [restOf, hrest]
  have hcount : (places (typedNumbers rest)).length = Check.needed command kind := by
    rw [Reference.length_places, h.count]
  rw [locate, hkind, Except.ok_bind, htext, Except.ok_bind, Reference.parse_of_pos hread h.positive,
    Except.ok_bind, Check.arity_eq_ok hcount, Except.ok_bind, Check.target_eq_ok hedits h.place h.room,
    Except.ok_bind]
  rfl

/-- The first check that fails is what is wrong with the place. -/
theorem locate_of_firstFault (hedits : command.edits) (hitem : q.item = some (.one kind))
    (hrest : q.remainder? = some rest) (hread : IsReadable rest) {fault : Fault}
    (h : Check.FirstFault s.plan command kind (typedNumbers rest) fault) :
    s.locate q command = .error (.fault fault) := by
  have hkind : recordKind q = .ok kind := by rw [recordKind, hitem]
  have htext : restOf q = .ok rest := by rw [restOf, hrest]
  have hlength := Reference.length_places (typedNumbers rest)
  rw [locate, hkind, Except.ok_bind, htext, Except.ok_bind]
  cases h with
  | number hnumbers hbefore hn => rw [Reference.parse_of_lt_one hread hnumbers hbefore hn, Except.error_bind]
  | tooMany hpositive hcount =>
    rw [Reference.parse_of_pos hread hpositive, Except.ok_bind,
      Check.arity_of_tooMany (by rw [hlength]; exact hcount), Except.error_bind, hlength]
  | tooFew hpositive hcount =>
    rw [Reference.parse_of_pos hread hpositive, Except.ok_bind,
      Check.arity_of_tooFew (by rw [hlength]; exact hcount), Except.error_bind, hlength]
  | missing hpositive hcount hplace =>
    rw [Reference.parse_of_pos hread hpositive, Except.ok_bind,
      Check.arity_eq_ok (hlength.trans hcount), Except.ok_bind,
      Check.target_of_not_hasPlace hedits (hlength.trans hcount) hplace, Except.error_bind]
  | full hpositive hcount hplace hroom =>
    rw [Reference.parse_of_pos hread hpositive, Except.ok_bind,
      Check.arity_eq_ok (hlength.trans hcount), Except.ok_bind, Check.target_of_not_hasRoom hroom,
      Except.error_bind]

/-- A rest that cannot be read is what is wrong with the place. -/
theorem locate_of_parse_error (hitem : q.item = some (.one kind)) (hrest : q.remainder? = some rest)
    {failure : Failure} (h : Reference.parse rest = .error failure) :
    s.locate q command = .error failure := by
  have hkind : recordKind q = .ok kind := by rw [recordKind, hitem]
  have htext : restOf q = .ok rest := by rw [restOf, hrest]
  rw [locate, hkind, Except.ok_bind, htext, Except.ok_bind, h, Except.error_bind]

/-! ## Carrying a change out -/

/-- A change with its description is the change of the plan. -/
theorem apply_of_edit {change : Change} {path : Path} {description : String} {plan : Plan} {clock : Clock}
    (h : s.plan.edit s.clock change.command kind path description = .ok (plan, clock)) :
    s.apply change kind path description = .ok { s with plan := plan, clock := clock } := by
  cases change with
  | add =>
    rw [apply]
    rcases hadd : s.plan.add s.clock (.one kind) path description with failure | ⟨node, plan', clock'⟩
    · rw [Change.command, Plan.edit, hadd] at h
      cases h
    · rw [Change.command, Plan.edit, hadd] at h
      cases h
      rfl
  | update =>
    rw [apply]
    rcases hupdate : s.plan.update (.one kind) path description with failure | ⟨node, plan'⟩
    · rw [Change.command, Plan.edit, hupdate] at h
      cases h
    · rw [Change.command, Plan.edit, hupdate] at h
      cases h
      rfl

/-- What a line comes to when its command changes records. -/
def edited (s : Interpreter) (q : Query) : Except Failure (Interpreter × Outcome) :=
  match q.command with
  | .add => s.change .add q
  | .update => s.change .update q
  | .remove => s.remove q
  | command => .error (.misuse (.addressless command))

/-- A change is made by its command. -/
theorem edited_of_command {change : Change} (h : q.command = change.command) :
    s.edited q = s.change change q := by
  rw [edited, h]
  cases change with
  | add => rfl
  | update => rfl

/-- A removal is made by its command. -/
theorem edited_of_remove (h : q.command = .remove) : s.edited q = s.remove q := by rw [edited, h]

/-- A change that is admitted and has its description is carried out. To remove a record, no description is
needed, and one that is given is not looked at. -/
theorem edited_of_admits (hedits : q.command.edits) (hitem : q.item = some (.one kind))
    (hrest : q.remainder? = some rest) (hread : IsReadable rest)
    (h : Check.Admits s.plan q.command kind (typedNumbers rest))
    (hdescription : q.command = .remove ∨ typedDescription rest ≠ "") :
    ∃ plan clock,
      s.plan.edit s.clock q.command kind (places (typedNumbers rest)) (typedDescription rest) =
          .ok (plan, clock) ∧
        s.edited q = .ok ({ s with plan := plan, clock := clock }, .continue) := by
  obtain ⟨plan, clock, hedit⟩ := Check.exists_edit hedits h.place h.room s.clock (typedDescription rest)
  refine ⟨plan, clock, hedit, ?_⟩
  have hlocate := locate_of_admits hedits hitem hrest hread h
  rcases hedits.cases with ⟨change, hcommand⟩ | hcommand
  · have hwords : ¬ (typedDescription rest).isEmpty = true := by
      rcases hdescription with hremove | hne
      · rw [hcommand] at hremove
        cases change <;> cases hremove
      · exact fun hempty => hne (String.isEmpty_iff.mp hempty)
    rw [hcommand] at hedit hlocate
    rw [edited_of_command hcommand, Interpreter.change, hlocate, Except.ok_bind]
    simp only [if_neg hwords, apply_of_edit hedit, Except.ok_bind]
    rfl
  · obtain ⟨node, hnode⟩ : ∃ node, s.plan.node? kind (places (typedNumbers rest)) = some node := by
      have hplace := h.place
      rw [hcommand] at hplace
      exact Option.isSome_iff_exists.mp hplace
    rw [hcommand] at hedit hlocate
    rw [Plan.edit, Plan.remove_eq_ok hnode] at hedit
    cases hedit
    rw [edited_of_remove hcommand, Interpreter.remove, hlocate, Except.ok_bind]
    simp only [Plan.remove_eq_ok hnode, Except.ok_bind]
    rfl

/-- There is always a text to offer for a change whose place is there. -/
theorem exists_offer {change : Change} {path : Path}
    (hplace : Check.HasPlace s.plan change.command kind path) :
    ∃ prefill, s.offer change kind path = .ok prefill := by
  cases change with
  | add => exact ⟨"", rfl⟩
  | update =>
    obtain ⟨node, hnode⟩ := Option.isSome_iff_exists.mp hplace
    refine ⟨node.description, ?_⟩
    rw [offer, Plan.node_eq_ok.mpr hnode, Except.ok_bind]
    rfl

/-- A change that is admitted and has no description waits for it. -/
theorem edited_of_no_description {change : Change} (hcommand : q.command = change.command)
    (hitem : q.item = some (.one kind)) (hrest : q.remainder? = some rest) (hread : IsReadable rest)
    (h : Check.Admits s.plan change.command kind (typedNumbers rest))
    (hdescription : typedDescription rest = "") :
    ∃ prefill,
      s.edited q =
        .ok ({ s with pending := some ⟨change, kind, places (typedNumbers rest), prefill⟩ },
          .awaitingDescription) := by
  have hlocate := locate_of_admits change.edits_command hitem hrest hread h
  obtain ⟨prefill, hoffer⟩ := exists_offer h.place
  refine ⟨prefill, ?_⟩
  have hempty : (typedDescription rest).isEmpty = true := String.isEmpty_iff.mpr hdescription
  rw [edited_of_command hcommand, Interpreter.change, hlocate, Except.ok_bind]
  simp only [if_pos hempty, hoffer, Except.ok_bind]
  rfl

/-- Nothing is done where the place is not found. -/
theorem edited_of_locate_error (hedits : q.command.edits) {failure : Failure}
    (h : s.locate q q.command = .error failure) : s.edited q = .error failure := by
  rcases hedits.cases with ⟨change, hcommand⟩ | hcommand
  · rw [hcommand] at h
    rw [edited_of_command hcommand, Interpreter.change, h, Except.error_bind]
  · rw [hcommand] at h
    rw [edited_of_remove hcommand, Interpreter.remove, h, Except.error_bind]

/-- A change that is not admitted tells the fault of the first check that fails. -/
theorem edited_of_firstFault (hedits : q.command.edits) (hitem : q.item = some (.one kind))
    (hrest : q.remainder? = some rest) (hread : IsReadable rest) {fault : Fault}
    (h : Check.FirstFault s.plan q.command kind (typedNumbers rest) fault) :
    s.edited q = .error (.fault fault) :=
  edited_of_locate_error hedits (locate_of_firstFault hedits hitem hrest hread h)

/-! ## What can come of a line -/

/-- What can come of a line that has been read: the records are changed or that fails, or a fault is told, or
something is shown, or the history is erased, or the user leaves. -/
inductive Dispatched (s : Interpreter) (r : Resolution) : Reply → Prop
  | edited {state : Interpreter} {outcome : Outcome} (h : s.edited r.toQuery = .ok (state, outcome)) :
      Dispatched s r (.silent state outcome)
  | failed {failure : Failure} (hedits : r.command.edits) (hitem : r.item.isSome = true)
      (h : s.edited r.toQuery = .error failure) : Dispatched s r ⟨s, .error failure, []⟩
  | told (fault : Fault) (hunknown : ∀ words, fault = .unknownCommand words → r.isComplete = false) :
      Dispatched s r ⟨s, .error (.fault fault), []⟩
  | shown (display : Display) : Dispatched s r ⟨s, .ok .continue, [display]⟩
  | erased (hcommand : r.command = .erase) :
      Dispatched s r (.silent { s with history := s.history.map fun _ => [] } .continue)
  | saved (hcommand : r.command = .exit) : Dispatched s r (.silent s .exitSave)
  | abandoned (hcommand : r.command = .abandon) : Dispatched s r (.silent s .exitNoSave)

/-- **One of these is what comes of every line.** -/
theorem dispatched (s : Interpreter) (r : Resolution) : Dispatched s r (s.dispatch r) := by
  unfold dispatch
  by_cases hcomplete : r.isComplete = true
  · have hitem := Query.item_of_isComplete hcomplete
    simp only [if_pos hcomplete]
    split
    · next hadd =>
      have hedited : s.edited r.toQuery = s.change .add r.toQuery := edited_of_command hadd
      rcases hresult : s.change .add r.toQuery with failure | ⟨state, outcome⟩
      · exact .failed (.inl hadd) (hitem (by rw [hadd]; rfl)) (hedited.trans hresult)
      · exact .edited (hedited.trans hresult)
    · next hupdate =>
      have hedited : s.edited r.toQuery = s.change .update r.toQuery := edited_of_command hupdate
      rcases hresult : s.change .update r.toQuery with failure | ⟨state, outcome⟩
      · exact .failed (.inr (.inl hupdate)) (hitem (by rw [hupdate]; rfl)) (hedited.trans hresult)
      · exact .edited (hedited.trans hresult)
    · next hremove =>
      have hedited : s.edited r.toQuery = s.remove r.toQuery := edited_of_remove hremove
      rcases hresult : s.remove r.toQuery with failure | ⟨state, outcome⟩
      · exact .failed (.inr (.inr hremove)) (hitem (by rw [hremove]; rfl)) (hedited.trans hresult)
      · exact .edited (hedited.trans hresult)
    · rw [list]
      by_cases hnone : s.plan.count (r.item.getD .all) = 0
      · simp only [if_pos hnone]
        exact .told _ fun _ h => by cases h
      · simp only [if_neg hnone]
        exact .shown _
    · exact .shown _
    · exact .shown _
    · next herase => exact .erased herase
    · next hexit => exact .saved hexit
    · next habandon => exact .abandoned habandon
    · next hunknown => exact absurd hcomplete (by simp [Query.isComplete, hunknown])
  · simp only [if_neg hcomplete]
    exact .told _ fun _ _ => Bool.not_eq_true _ ▸ hcomplete

/-! ## The line as a whole -/

/-- A line that changes records is not blank. -/
theorem not_isBlankText_of_edits (hedits : (resolve line).command.edits) :
    ¬ Text.isBlankText line.toList = true := by
  intro hblank
  exact hedits.ne (by decide) (command_resolve_of_isBlankText hblank)

/-- A line that changes records is recorded and then carried out; a fault is told. -/
theorem feed_of_edits (hpending : s.pending = none) (hedits : (resolve line).command.edits)
    (hitem : (resolve line).item.isSome = true) :
    s.feed line =
      match (s.record line).edited (resolve line).toQuery with
      | .ok (state, outcome) => ⟨state, .ok outcome, []⟩
      | .error failure => Reply.report ⟨s.record line, .error failure, []⟩ := by
  have hblank := not_isBlankText_of_edits hedits
  have hcomplete : (resolve line).isComplete = true := by
    refine Query.isComplete_of_item ?_ hitem
    rcases hedits with h | h | h <;> rw [h] <;> rfl
  rw [feed_of_idle hpending, execute_of_text hblank]
  simp only [dispatch, if_pos hcomplete]
  rcases hedits with h | h | h
  · simp only [h, edited]
    rcases (s.record line).change .add (resolve line).toQuery with failure | ⟨state, outcome⟩
    · rfl
    · rfl
  · simp only [h, edited]
    rcases (s.record line).change .update (resolve line).toQuery with failure | ⟨state, outcome⟩
    · rfl
    · rfl
  · simp only [h, edited]
    rcases (s.record line).remove (resolve line).toQuery with failure | ⟨state, outcome⟩
    · rfl
    · rfl

section meaning

variable (hidle : s.pending = none) (hmeans : Says line command kind rest) (hedits : command.edits)
  (hread : IsReadable rest)

include hidle hmeans hedits hread

/-- A line whose change is admitted is carried out, if it has the description that it needs. -/
theorem feed_of_admits (h : Check.Admits s.plan command kind (typedNumbers rest))
    (hdescription : command = .remove ∨ typedDescription rest ≠ "") :
    ∃ plan clock,
      s.plan.edit s.clock command kind (places (typedNumbers rest)) (typedDescription rest) =
          .ok (plan, clock) ∧
        s.feed line = ⟨{ s.record line with plan := plan, clock := clock }, .ok .continue, []⟩ := by
  obtain ⟨rfl, hitem, rfl⟩ := hmeans
  obtain ⟨plan, clock, hedit, hedited⟩ :=
    edited_of_admits (s := s.record line) hedits hitem (remainder?_resolve line) hread h hdescription
  refine ⟨plan, clock, hedit, ?_⟩
  rw [feed_of_edits hidle hedits (by rw [hitem]; rfl), hedited]

/-- A line whose change is not admitted tells the fault of the first check that fails. -/
theorem feed_of_firstFault {fault : Fault}
    (h : Check.FirstFault s.plan command kind (typedNumbers rest) fault) :
    s.feed line = ⟨s.record line, .ok .continue, [.notice fault.message]⟩ := by
  obtain ⟨rfl, hitem, rfl⟩ := hmeans
  rw [feed_of_edits hidle hedits (by rw [hitem]; rfl),
    edited_of_firstFault (s := s.record line) hedits hitem (remainder?_resolve line) hread h]
  rfl

end meaning

/-- A line whose change is admitted and that has no description waits for it. -/
theorem feed_of_no_description {change : Change} (hidle : s.pending = none)
    (hmeans : Says line change.command kind rest) (hread : IsReadable rest)
    (h : Check.Admits s.plan change.command kind (typedNumbers rest)) (hdescription : typedDescription rest = "") :
    ∃ prefill, s.feed line =
      ⟨{ s.record line with pending := some ⟨change, kind, places (typedNumbers rest), prefill⟩ },
        .ok .awaitingDescription, []⟩ := by
  obtain ⟨hcommand, hitem, rfl⟩ := hmeans
  obtain ⟨prefill, hedited⟩ :=
    edited_of_no_description (s := s.record line) hcommand hitem (remainder?_resolve line) hread h hdescription
  have hedits : (resolve line).command.edits := by
    rw [hcommand]
    exact change.edits_command
  refine ⟨prefill, ?_⟩
  rw [feed_of_edits hidle hedits (by rw [hitem]; rfl), hedited]

/-- **What a line that changes records does** while nothing waits. If the history refuses it, nothing at all is
changed. Otherwise, if the change is admitted, it is carried out at the places that the typed numbers stand for, with
the typed description, or it waits for a description if it needs one and has none. If it is not admitted, the plan,
the clock and what is pending stay as they are, and the only thing shown is the fault of the first check that fails. -/
theorem feedInto_edit (keeps : String → Bool) (hidle : s.pending = none) (hedits : (resolve line).command.edits)
    (hitem : (resolve line).item = some (.one kind)) (hread : IsReadable (resolve line).remainder) :
    let command := (resolve line).command
    let numbers := typedNumbers (resolve line).remainder
    let description := typedDescription (resolve line).remainder
    (s.Refuses keeps line → s.feedInto keeps line = ⟨s, .error (.misuse .nullInLine), []⟩) ∧
    (¬ s.Refuses keeps line →
      (Check.Admits s.plan command kind numbers → command = .remove ∨ description ≠ "" →
        ∃ plan clock,
          s.plan.edit s.clock command kind (places numbers) description = .ok (plan, clock) ∧
            s.feedInto keeps line = ⟨{ s.record line with plan := plan, clock := clock }, .ok .continue, []⟩) ∧
      (Check.Admits s.plan command kind numbers → command ≠ .remove → description = "" →
        ∃ change prefill,
          change.command = command ∧
            s.feedInto keeps line =
              ⟨{ s.record line with pending := some ⟨change, kind, places numbers, prefill⟩ },
                .ok .awaitingDescription, []⟩) ∧
      (¬ Check.Admits s.plan command kind numbers →
        ∃ fault,
          Check.FirstFault s.plan command kind numbers fault ∧
            s.feedInto keeps line = ⟨s.record line, .ok .continue, [.notice fault.message]⟩)) := by
  intro command numbers description
  refine ⟨feedInto_of_refuses, fun hkeeps => ?_⟩
  rw [feedInto_of_not_refuses hkeeps]
  refine ⟨fun h hdescription => ?_, fun h hremove hdescription => ?_, fun h => ?_⟩
  · exact feed_of_admits hidle ⟨rfl, hitem, rfl⟩ hedits hread h hdescription
  · obtain ⟨change, hchange⟩ := hedits.cases.resolve_right hremove
    have hadmits : Check.Admits s.plan change.command kind numbers := by rwa [← hchange]
    obtain ⟨prefill, hfeed⟩ := feed_of_no_description hidle ⟨hchange, hitem, rfl⟩ hread hadmits hdescription
    exact ⟨change, prefill, hchange.symm, hfeed⟩
  · obtain ⟨fault, hfault⟩ := (Check.admits_or_firstFault s.plan command kind numbers).resolve_left h
    exact ⟨fault, hfault, feed_of_firstFault hidle ⟨rfl, hitem, rfl⟩ hedits hread hfault⟩

/-- A plan with one goal, in an interpreter that waits for nothing. -/
def oneGoal : Interpreter :=
  ⟨{ Plan.blank "" "" with goals := [⟨"", "health", [], []⟩] }, ⟨⟨0, 0⟩⟩, none, some []⟩

/-- An action is added to the one goal, the same command without a description waits, and an action of a
second goal cannot be added. -/
theorem feedInto_edit_oneGoal :
    (∃ plan clock,
      oneGoal.plan.edit oneGoal.clock .add .action [0] "walk to work" = .ok (plan, clock) ∧
        oneGoal.feedInto HistoryFile.keeps "add action 1 walk to work" =
          ⟨{ oneGoal.record "add action 1 walk to work" with plan := plan, clock := clock },
            .ok .continue, []⟩) ∧
    (∃ change prefill,
      Change.command change = .add ∧
        oneGoal.feedInto HistoryFile.keeps "action add 1" =
          ⟨{ oneGoal.record "action add 1" with pending := some ⟨change, .action, [0], prefill⟩ },
            .ok .awaitingDescription, []⟩) ∧
    ∃ fault,
      Check.FirstFault oneGoal.plan .add .action [2] fault ∧
        oneGoal.feedInto HistoryFile.keeps "add action 2" =
          ⟨oneGoal.record "add action 2", .ok .continue, [.notice fault.message]⟩ := by
  have hadd := ((@feedInto_edit oneGoal .action "add action 1 walk to work" HistoryFile.keeps rfl
    (.inl (by decide)) (by decide) (by decide)).2 (not_refuses_of_notMem (by decide))).1
  have hwait := ((@feedInto_edit oneGoal .action "action add 1" HistoryFile.keeps rfl (.inl (by decide))
    (by decide) (by decide)).2 (not_refuses_of_notMem (by decide))).2.1
  have htold := ((@feedInto_edit oneGoal .action "add action 2" HistoryFile.keeps rfl (.inl (by decide))
    (by decide) (by decide)).2 (not_refuses_of_notMem (by decide))).2.2
  exact ⟨hadd (by decide) (.inr (by decide)), hwait (by decide) (by decide) (by decide),
    htold (by decide)⟩

/-- **A line with a null character is not carried out** where the history is kept in a file, although its change is
admitted and it has a description. -/
theorem edit_null :
    let line := "add goal x\x00"
    oneGoal.pending = none ∧ (resolve line).command = .add ∧ (resolve line).item = some (.one .goal) ∧
      IsReadable (resolve line).remainder ∧
        Check.Admits oneGoal.plan .add .goal (typedNumbers (resolve line).remainder) ∧
          typedDescription (resolve line).remainder = "x\x00" ∧
            oneGoal.feedInto HistoryFile.keeps line = ⟨oneGoal, .error (.misuse .nullInLine), []⟩ := by
  intro line
  have hrefuses : oneGoal.Refuses HistoryFile.keeps line := ⟨rfl, rfl, by decide, by decide, by decide⟩
  exact ⟨rfl, by decide, by decide, by decide, by decide, by decide, feedInto_of_refuses hrefuses⟩

end Interpreter

end LifePlan
