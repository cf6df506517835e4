import LifePlan.Proofs.Interpreter.Effect

/-!
# What waits for a description

A change that waits fits the plan (`Pending.Fits`): its place passes the check, and for an update the text that
is offered is the description that the record has. Nothing else changes the plan while a change waits, so this
holds in every state that calls can lead to, whatever lines the history refuses (`ready_runInto`). It follows that
the line with the description is always carried out, and that the interpreter says that it waits if and only if it
does (`await_description`).
-/

namespace LifePlan

/-! ## Changes that fit a plan -/

/-- A change that waits can be made on a plan, and what it offers for editing is what is there. -/
structure Pending.Fits (p : Plan) (pending : Pending) : Prop where
  count : Check.requiredIndices pending.change.command (.one pending.kind) = .ok pending.path.length
  nonneg : ∀ i ∈ pending.path, 0 ≤ i
  target : Check.target p pending.change.command (.one pending.kind) pending.path = .ok ()
  prefill : pending.change = .update →
    ∃ node, p.node? pending.kind pending.path = some node ∧ pending.prefill = node.description

/-- A change that fits a plan can be carried out on it with any description. -/
theorem Pending.Fits.exists_edit {p : Plan} {pending : Pending} (h : pending.Fits p) (clock : Clock)
    (description : String) :
    ∃ plan clock',
      p.edit clock pending.change.command pending.kind pending.path description = .ok (plan, clock') := by
  have hlength := (Except.ok.inj (Check.requiredIndices_one.symm.trans h.count)).symm
  obtain ⟨hplace, hroom⟩ := Check.of_target_eq_ok pending.change.edits_command hlength h.target
  exact Check.exists_edit pending.change.edits_command hplace hroom clock description

namespace Interpreter

variable {s : Interpreter} {q : Query} {keeps : String → Bool} {line : String}

/-! ## Lines while nothing waits -/

/-- A place that is found has passed the checks. -/
theorem of_locate {command : Command} {kind : Kind} {reference : Reference}
    (h : s.locate q command = .ok (kind, reference)) :
    reference.indices.length = Check.needed command kind ∧ (∀ i ∈ reference.indices, 0 ≤ i) ∧
      Check.target s.plan command (.one kind) reference.indices = .ok () := by
  obtain ⟨kind', -, h⟩ := Except.bind_eq_ok.mp h
  obtain ⟨text, -, h⟩ := Except.bind_eq_ok.mp h
  obtain ⟨reference', hparse, h⟩ := Except.bind_eq_ok.mp h
  obtain ⟨_, harity, h⟩ := Except.bind_eq_ok.mp h
  obtain ⟨_, htarget, h⟩ := Except.bind_eq_ok.mp h
  cases h
  exact ⟨Check.length_of_arity harity, Reference.nonneg_of_parse hparse, htarget⟩

/-- What is offered for an update is the description that the record has. -/
theorem of_offer {change : Change} {kind : Kind} {path : Path} {prefill : String}
    (h : s.offer change kind path = .ok prefill) :
    change = .update → ∃ node, s.plan.node? kind path = some node ∧ prefill = node.description := by
  rintro rfl
  obtain ⟨node, hnode, h⟩ := Except.bind_eq_ok.mp h
  cases h
  exact ⟨node, Plan.node_eq_ok.mp hnode, rfl⟩

/-- A change that is carried out leaves what waits as it is. -/
theorem pending_of_apply {change : Change} {kind : Kind} {path : Path} {description : String}
    {s' : Interpreter} (h : s.apply change kind path description = .ok s') : s'.pending = s.pending := by
  cases change with
  | add =>
    obtain ⟨added, -, h⟩ := Except.bind_eq_ok.mp h
    cases h
    rfl
  | update =>
    obtain ⟨updated, -, h⟩ := Except.bind_eq_ok.mp h
    cases h
    rfl

/-- What a reply tells about the state that it leaves: the interpreter waits if and only if it says so, and what
it waits for is a change that fits the plan. -/
structure Tells (r : Reply) : Prop where
  awaiting : r.outcome = .ok .awaitingDescription ↔ r.state.pending.isSome = true
  fits : ∀ pending ∈ r.state.pending, pending.Fits r.state.plan

/-- A reply that does not wait. -/
theorem tells_of_none {r : Reply} (hstate : r.state.pending = none)
    (houtcome : r.outcome ≠ .ok .awaitingDescription) : Tells r := by
  constructor
  · rw [hstate]
    exact ⟨fun h => absurd h houtcome, fun h => by cases h⟩
  · intro pending hpending
    rw [hstate] at hpending
    cases hpending

/-- A change is carried out, or it waits and fits the plan. -/
theorem tells_change {change : Change} {s' : Interpreter} {outcome : Outcome} (hidle : s.pending = none)
    (h : s.change change q = .ok (s', outcome)) : Tells (.silent s' outcome) := by
  obtain ⟨⟨kind, reference⟩, hlocate, h⟩ := Except.bind_eq_ok.mp h
  obtain ⟨hlength, hnonneg, htarget⟩ := of_locate hlocate
  simp only at h
  by_cases hempty : reference.description.isEmpty = true
  · rw [if_pos hempty] at h
    obtain ⟨prefill, hoffer, h⟩ := Except.bind_eq_ok.mp h
    cases h
    refine ⟨⟨fun _ => rfl, fun _ => rfl⟩, fun pending hpending => ?_⟩
    cases hpending
    exact ⟨by rw [hlength, Check.requiredIndices_one], hnonneg, htarget, of_offer hoffer⟩
  · rw [if_neg hempty] at h
    obtain ⟨state, happly, h⟩ := Except.bind_eq_ok.mp h
    cases h
    exact tells_of_none ((pending_of_apply happly).trans hidle) (fun h => by cases h)

/-- A fault that is told as a notice changes nothing about what waits. -/
theorem Tells.report {r : Reply} (h : Tells r) : Tells r.report := by
  obtain ⟨state, outcome, shown⟩ := r
  rcases outcome with (fault | misuse) | outcome
  -- a fault is not the outcome that waits, so nothing waits when it is told
  · have hidle : state.pending = none := by
      rcases hpending : state.pending with _ | pending
      · rfl
      · have hawaits : state.pending.isSome = true := by rw [hpending]; rfl
        cases h.awaiting.mpr hawaits
    exact tells_of_none (r := ⟨state, .ok .continue, _⟩) hidle (fun h => by cases h)
  · exact h
  · exact h

/-- A line that is carried out while nothing waits tells what it leaves waiting. -/
theorem tells_dispatch (hidle : s.pending = none) (r : Resolution) : Tells (s.dispatch r) := by
  have hfailed (failure : Failure) : Tells ⟨s, .error failure, []⟩ :=
    tells_of_none hidle (fun h => by cases h)
  have hshown (display : Display) : Tells ⟨s, .ok .continue, [display]⟩ :=
    tells_of_none hidle (fun h => by cases h)
  unfold dispatch
  by_cases hcomplete : r.isComplete = true
  · simp only [if_pos hcomplete]
    split
    · rcases hresult : s.change .add r.toQuery with failure | ⟨state, outcome⟩
      · exact hfailed failure
      · exact tells_change hidle hresult
    · rcases hresult : s.change .update r.toQuery with failure | ⟨state, outcome⟩
      · exact hfailed failure
      · exact tells_change hidle hresult
    · rcases hresult : s.remove r.toQuery with failure | ⟨state, outcome⟩
      · exact hfailed failure
      · obtain ⟨_, -, hresult⟩ := Except.bind_eq_ok.mp hresult
        obtain ⟨_, -, hresult⟩ := Except.bind_eq_ok.mp hresult
        cases hresult
        exact tells_of_none hidle (fun h => by cases h)
    · rcases s.list (r.item.getD .all) with failure | display
      · exact hfailed failure
      · exact hshown display
    · exact hshown _
    · exact hshown _
    · exact tells_of_none hidle (fun h => by cases h)
    · exact tells_of_none hidle (fun h => by cases h)
    · exact tells_of_none hidle (fun h => by cases h)
    · exact hfailed _
  · simp only [if_neg hcomplete]
    exact hfailed _

/-- Any line that comes while nothing waits tells what it leaves waiting. -/
theorem tells_execute (hidle : s.pending = none) (line : String) : Tells (s.execute line) := by
  by_cases hblank : Text.isBlankText line.toList = true
  · rw [execute_of_blank hblank]
    exact tells_of_none hidle (fun h => by cases h)
  · rw [execute_of_text hblank]
    exact (tells_dispatch (s := s.record line) hidle (resolve line)).report

/-! ## The line that is waited for -/

/-- A line without text is passed over. -/
theorem feed_empty {pending : Pending} (hpending : s.pending = some pending)
    (hline : String.ofList (Text.unquote line.toList) = "") :
    s.feed line = ⟨s, .ok .awaitingDescription, []⟩ := by
  simp only [feed_of_waiting hpending, resume, hline]
  rfl

/-- A line with text is the description of the change, which is made on the plan as it is. If it fails, then the plan
stays as it is, and a fault is told. -/
theorem feed_eq_edit {pending : Pending} (hpending : s.pending = some pending)
    (hline : String.ofList (Text.unquote line.toList) ≠ "") :
    s.feed line =
      match s.plan.edit s.clock pending.change.command pending.kind pending.path
        (String.ofList (Text.unquote line.toList)) with
      | .ok (plan, clock) => .silent { s with plan := plan, clock := clock, pending := none } .continue
      | .error failure => Reply.report ⟨{ s with pending := none }, .error failure, []⟩ := by
  have hempty : ¬ (String.ofList (Text.unquote line.toList)).isEmpty = true := by
    rw [String.isEmpty_iff]
    exact hline
  have hcheck := Check.target_edit pending.change.edits_command s.plan s.clock pending.kind pending.path
    (String.ofList (Text.unquote line.toList))
  simp only [feed_of_waiting hpending, resume, if_neg hempty, hcheck]
  rcases hedited : s.plan.edit s.clock pending.change.command pending.kind pending.path
    (String.ofList (Text.unquote line.toList)) with failure | ⟨plan, clock⟩
  · rfl
  · have happly := apply_of_edit (s := { s with pending := none }) hedited
    simp only [Except.map, Except.ok_bind, happly]

/-- **A line with text is always carried out**: it is the description of the change that waits, nothing waits
afterwards, and nothing is shown. -/
theorem feed_description {pending : Pending} (hpending : s.pending = some pending) (hfits : pending.Fits s.plan)
    (hline : String.ofList (Text.unquote line.toList) ≠ "") :
    ∃ plan clock,
      s.plan.edit s.clock pending.change.command pending.kind pending.path
          (String.ofList (Text.unquote line.toList)) = .ok (plan, clock) ∧
        s.feed line = ⟨{ s with plan := plan, clock := clock, pending := none }, .ok .continue, []⟩ := by
  obtain ⟨plan, clock, hedit⟩ := hfits.exists_edit s.clock (String.ofList (Text.unquote line.toList))
  refine ⟨plan, clock, hedit, ?_⟩
  rw [feed_eq_edit hpending hline, hedit]
  rfl

/-! ## Runs -/

/-- What the loop around the interpreter can ask of it. -/
inductive Call where
  | feed (line : String)
  | cancel
  deriving DecidableEq, Repr

/-- The state after a call, where the history may refuse lines. -/
def afterInto (keeps : String → Bool) (s : Interpreter) : Call → Interpreter
  | .feed line => (s.feedInto keeps line).state
  | .cancel => s.cancel

/-- The state after some calls, one after the other. -/
def runInto (s : Interpreter) (keeps : String → Bool) (calls : List Call) : Interpreter :=
  calls.foldl (afterInto keeps) s

/-- A run goes on from where it has come to. -/
theorem runInto_append (s : Interpreter) (keeps : String → Bool) (before after : List Call) :
    s.runInto keeps (before ++ after) = (s.runInto keeps before).runInto keeps after := List.foldl_append

/-- The change that waits, if one does, fits the plan. -/
def Ready (s : Interpreter) : Prop := ∀ pending ∈ s.pending, pending.Fits s.plan

/-- Where nothing waits, there is nothing to fit. -/
theorem ready_of_idle (h : s.pending = none) : s.Ready := by
  intro pending hpending
  rw [h] at hpending
  cases hpending

/-- Every line tells what it leaves waiting, also one that the history refuses. -/
theorem tells_feedInto (h : s.Ready) (keeps : String → Bool) (line : String) : Tells (s.feedInto keeps line) := by
  rcases hpending : s.pending with _ | pending
  · rw [feedInto_of_idle hpending]
    rcases s.executeInto_cases keeps line with hdone | hrefused
    · rw [hdone]
      exact tells_execute hpending line
    · rw [hrefused]
      exact tells_of_none hpending (fun h => by cases h)
  · rw [feedInto_of_not_refuses (not_refuses_of_waiting hpending)]
    by_cases hline : String.ofList (Text.unquote line.toList) = ""
    · rw [feed_empty hpending hline]
      refine ⟨⟨fun _ => ?_, fun _ => rfl⟩, h⟩
      rw [hpending]
      rfl
    · obtain ⟨plan, clock, -, hfeed⟩ := feed_description hpending (h pending hpending) hline
      rw [hfeed]
      exact tells_of_none rfl (fun h => by cases h)

/-- Whatever is asked, what waits fits the plan. -/
theorem ready_afterInto (h : s.Ready) (keeps : String → Bool) (call : Call) : (s.afterInto keeps call).Ready := by
  cases call with
  | feed line => exact (tells_feedInto h keeps line).fits
  | cancel => exact ready_of_idle rfl

/-- **In every state that calls lead to, what waits fits the plan**, whatever the history refuses. -/
theorem ready_runInto (h : s.Ready) (keeps : String → Bool) (calls : List Call) : (s.runInto keeps calls).Ready := by
  induction calls generalizing s with
  | nil => exact h
  | cons call calls ih => exact ih (ready_afterInto h keeps call)

/-- **What waits for a description**, in every state that calls lead to from a plan, whatever lines the history
refuses. A line is answered with the outcome that a description is awaited if and only if a change waits after it. A
change that waits needs just the places that it has; its target passes the check, and an update offers the description
that the record has now. So a line with text is always carried out as that change, and a line without text or to give
up leaves the plan as it is. -/
theorem await_description (keeps : String → Bool) (plan : Plan) (clock : Clock) (history : Option (List String))
    (calls : List Call) :
    let s := runInto ⟨plan, clock, none, history⟩ keeps calls
    (∀ line, (s.feedInto keeps line).outcome = .ok .awaitingDescription ↔
      (s.feedInto keeps line).state.pending.isSome = true) ∧
    (∀ pending ∈ s.pending,
      pending.Fits s.plan ∧
        ∀ line,
          (String.ofList (Text.unquote line.toList) = "" →
            s.feedInto keeps line = ⟨s, .ok .awaitingDescription, []⟩) ∧
            (String.ofList (Text.unquote line.toList) ≠ "" →
              ∃ plan clock,
                s.plan.edit s.clock pending.change.command pending.kind pending.path
                    (String.ofList (Text.unquote line.toList)) = .ok (plan, clock) ∧
                  s.feedInto keeps line =
                    ⟨{ s with plan := plan, clock := clock, pending := none }, .ok .continue, []⟩)) ∧
    s.cancel = { s with pending := none } := by
  intro s
  have hready : s.Ready := ready_runInto (ready_of_idle rfl) keeps calls
  refine ⟨fun line => (tells_feedInto hready keeps line).awaiting, fun pending hpending => ?_, rfl⟩
  refine ⟨hready pending hpending, fun line => ?_⟩
  rw [feedInto_of_not_refuses (not_refuses_of_waiting hpending)]
  refine ⟨fun hline => ?_, fun hline => ?_⟩
  · exact feed_empty hpending hline
  · exact feed_description hpending (hready pending hpending) hline

/-- The update of a goal waits through a line without text and is then carried out, also with a null character in its
description. -/
theorem await_description_oneGoal :
    let s := oneGoal.runInto HistoryFile.keeps [.feed "update goal 1", .feed " ''"]
    s.pending = some ⟨.update, .goal, [0], "health"⟩ ∧
      ∃ plan clock,
        oneGoal.plan.edit oneGoal.clock .update .goal [0] "weal\x00th" = .ok (plan, clock) ∧
          s.feedInto HistoryFile.keeps "'weal\x00th'" =
            ⟨{ oneGoal.record "update goal 1" with plan := plan, clock := clock }, .ok .continue, []⟩ := by
  intro s
  have hpending : s.pending = some ⟨.update, .goal, [0], "health"⟩ := by decide
  have h := await_description HistoryFile.keeps oneGoal.plan oneGoal.clock oneGoal.history
    [.feed "update goal 1", .feed " ''"]
  exact ⟨hpending, ((h.2.1 _ hpending).2 "'weal\x00th'").2 (by decide)⟩

end Interpreter

end LifePlan
