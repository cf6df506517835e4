import LifePlan.Proofs.Interpreter.Wording

/-!
# To accept what is offered

An update that waits offers the description that the record has. In a plan that was made by calls alone no
description has white space at its ends (`isTidy_runInto`), so nothing but quotes can be dropped from it when it
comes back. Where it has none at its ends, to accept what is offered changes nothing and ends the waiting; where it
has, the description loses them, or if there is nothing else in it, goes on to be waited for (`feed_prefill`).
-/

namespace LifePlan

namespace Interpreter

variable {s : Interpreter}

/-! ## What is offered -/

/-- An interpreter with a new plan without data. -/
def newPlan (clock : Clock) (history : Option (List String)) : Interpreter :=
  ⟨(Plan.fresh clock).1, (Plan.fresh clock).2, none, history⟩

/-- The description that comes of it when what is offered is accepted. -/
def accepted (s : Interpreter) : String := String.ofList (Text.unquote s.prefill.toList)

/-- It is what is offered if and only if that is firm. -/
theorem accepted_eq_prefill_iff (h : s.prefill ≠ "") : s.accepted = s.prefill ↔ Text.IsFirm s.prefill.toList := by
  have hne : s.prefill.toList ≠ [] := fun hnil => h (String.toList_eq_nil_iff.mp hnil)
  rw [Text.isFirm_iff_unquote, accepted, ← String.toList_inj, String.toList_ofList]
  exact ⟨fun hsame => ⟨hne, hsame⟩, fun hfirm => hfirm.2⟩

/-- To accept what an update offers describes the record with what is left of it. -/
theorem feed_accepted {pending : Pending} (hpending : s.pending = some pending) (hfits : pending.Fits s.plan)
    (hupdate : pending.change = .update) (h : s.accepted ≠ "") :
    s.feed s.prefill =
      ⟨{ s with plan := s.plan.describe pending.kind pending.path s.accepted, pending := none },
        .ok .continue, []⟩ := by
  obtain ⟨plan, clock, hedit, hfeed⟩ := feed_description hpending hfits h
  rw [hupdate] at hedit
  rcases Plan.edit_cases hedit with ⟨hadd, -⟩ | ⟨-, -, rfl, rfl⟩ | ⟨hremove, -⟩
  · cases hadd
  · exact hfeed
  · cases hremove

/-- **To accept what an update offers**, in every state that calls lead to from a new plan without data. What is
offered is the description that the record has, and there is no white space at its ends. The plan stays as it is and
nothing waits any more if and only if it has no quotes at its ends either. If it has, the record is described with
what is left without them, or, if nothing is left, the update goes on waiting. -/
theorem feed_prefill (keeps : String → Bool) (clock : Clock) (history : Option (List String))
    (calls : List Call) :
    let s := (newPlan clock history).runInto keeps calls
    ∀ pending ∈ s.pending, pending.change = .update →
      let reply := s.feedInto keeps s.prefill
      (∃ node, s.plan.node? pending.kind pending.path = some node ∧ s.prefill = node.description) ∧
      Text.IsTidy s.prefill.toList ∧
      (reply.state.plan = s.plan ∧ reply.state.pending = none ↔
        (∀ c ∈ s.prefill.toList.head?, Text.isQuote c = false) ∧
          ∀ c ∈ s.prefill.toList.getLast?, Text.isQuote c = false) ∧
      (s.accepted ≠ "" →
        reply =
          ⟨{ s with plan := s.plan.describe pending.kind pending.path s.accepted, pending := none },
            .ok .continue, []⟩) ∧
      (s.accepted = "" → reply = ⟨s, .ok .awaitingDescription, []⟩) := by
  intro s pending hpending hupdate reply
  have hpending : s.pending = some pending := hpending
  have hfits : pending.Fits s.plan := ready_runInto (ready_of_idle rfl) keeps calls pending hpending
  obtain ⟨node, hnode, hoffered⟩ := hfits.prefill hupdate
  have hprefill : s.prefill = node.description := by
    rw [prefill, hpending]
    exact hoffered
  have hblank : (newPlan clock history).plan.IsTidy := Plan.allDescribed_blank _ _ _
  have htidy : Text.IsTidy s.prefill.toList := by
    rw [hprefill]
    exact Plan.AllDescribed.node? (isTidy_runInto hblank keeps calls) hnode
  have hfeed : reply = s.feed s.prefill := feedInto_of_not_refuses fun hrefuses => by
    cases hpending.symm.trans hrefuses.idle
  have hne : s.prefill ≠ "" := fun hempty => htidy.ne_nil (by rw [hempty]; rfl)
  have hdescribed := feed_accepted hpending hfits hupdate
  refine ⟨⟨node, hnode, hprefill⟩, htidy, ?_, fun h => hfeed.trans (hdescribed h), fun h => ?_⟩
  · rw [← htidy.isFirm_iff, ← accepted_eq_prefill_iff hne, hfeed]
    by_cases hnone : s.accepted = ""
    · rw [feed_empty hpending hnone, hnone]
      exact ⟨fun h => (by cases hpending.symm.trans h.2), fun h => absurd h.symm hne⟩
    · rw [hdescribed hnone, hprefill]
      exact ⟨fun h => (Plan.describe_eq_self_iff hnode).mp h.1, fun h =>
        ⟨(Plan.describe_eq_self_iff hnode).mpr h, rfl⟩⟩
  · exact hfeed.trans (feed_empty hpending h)

/-- A goal with a quote inside its description is updated with what is offered. -/
theorem feed_prefill_newPlan :
    let s := (newPlan ⟨⟨0, 0⟩⟩ (some [])).runInto HistoryFile.keeps [.feed "add goal \"it's late\"", .feed "update goal 1"]
    s.pending = some ⟨.update, .goal, [0], "it's late"⟩ ∧
      (s.feedInto HistoryFile.keeps s.prefill).state.plan = s.plan ∧
        (s.feedInto HistoryFile.keeps s.prefill).state.pending = none := by
  have h := feed_prefill HistoryFile.keeps ⟨⟨0, 0⟩⟩ (some [])
    [.feed "add goal \"it's late\"", .feed "update goal 1"]
  generalize hstate : (newPlan ⟨⟨0, 0⟩⟩ (some [])).runInto HistoryFile.keeps
    [.feed "add goal \"it's late\"", .feed "update goal 1"] = s at h ⊢
  have hpending : s.pending = some ⟨.update, .goal, [0], "it's late"⟩ := by
    rw [← hstate]
    decide
  have hprefill : s.prefill = "it's late" := by rw [prefill, hpending]
  obtain ⟨-, htidy, hkept, -⟩ := h _ hpending rfl
  exact ⟨hpending, hkept.mpr (htidy.isFirm_iff.mp (by rw [hprefill]; decide))⟩

/-- **A description that was typed between quotes, blanks and quotes loses the inner ones** when it is accepted. -/
theorem accepted_without_quotes :
    let s := (newPlan ⟨⟨0, 0⟩⟩ (some [])).runInto HistoryFile.keeps [.feed "add goal \" 'hi' \"", .feed "update goal 1"]
    s.pending = some ⟨.update, .goal, [0], "'hi'"⟩ ∧ s.plan.goals.map Goal.description = ["'hi'"] ∧
      (s.feedInto HistoryFile.keeps s.prefill).state.plan.goals.map Goal.description = ["hi"] := by
  decide

end Interpreter

end LifePlan
