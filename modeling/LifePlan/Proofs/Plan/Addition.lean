import LifePlan.Proofs.Plan.Removal

/-!
# What an addition or an update does to a whole plan

When a record is added, its row comes into the walk behind the stretch of its siblings, and all rows that were there
stay as they are (`Plan.Gains`). When it is removed again, the plan is as it was (`Plan.erase_append`). An update
changes the description in one row and nothing else (`Plan.Renames`). Main statement: `Plan.rows_add_update`.
-/

namespace LifePlan

open Kind (Record)

/-- A new record is the new one of its kind. -/
theorem Kind.Record.toNode_fresh (kind : Kind) (date d : String) :
    (fresh date d : kind.Record).toNode = Node.fresh kind date d := by
  cases kind with
  | goal | action | agreement | alert | result => rfl

namespace Plan

variable {p : Plan} {kind : Kind} {parent path : Path}

/-! ## Changes one after the other -/

/-- Two changes of a goal are one. -/
theorem modifyGoal_modifyGoal (p : Plan) (g : Int) (f k : Goal → Goal) :
    (p.modifyGoal g f).modifyGoal g k = p.modifyGoal g (k ∘ f) := by
  rw [modifyGoal, modifyGoal, modifyGoal, List.modify_modify_eq]

/-- Two changes of an action are one. -/
theorem modifyAction_modifyAction (p : Plan) (g a : Int) (f k : Action → Action) :
    (p.modifyAction g a f).modifyAction g a k = p.modifyAction g a (k ∘ f) := by
  rw [modifyAction, modifyAction, modifyAction, modifyGoal_modifyGoal]
  congr 1
  funext x
  simp only [Function.comp_apply, Goal.modifyAction, List.modify_modify_eq]

/-- Two changes of an agreement are one. -/
theorem modifyAgreement_modifyAgreement (p : Plan) (g a ag : Int) (f k : Agreement → Agreement) :
    (p.modifyAgreement g a ag f).modifyAgreement g a ag k = p.modifyAgreement g a ag (k ∘ f) := by
  rw [modifyAgreement, modifyAgreement, modifyAgreement, modifyAction_modifyAction]
  congr 1
  funext x
  simp only [Function.comp_apply, Action.modifyAgreement, List.modify_modify_eq]

/-- **Two changes of a list of siblings are one.** -/
theorem overSiblings_overSiblings {xs : List kind.Record} (h : p.siblings? kind parent = some xs)
    (f k : List kind.Record → List kind.Record) :
    (p.overSiblings kind parent f).overSiblings kind parent k = p.overSiblings kind parent (k ∘ f) := by
  unfold siblings? at h
  split at h
  · rfl
  · exact p.modifyGoal_modifyGoal _ _ _
  · exact p.modifyAction_modifyAction _ _ _ _
  · exact p.modifyAgreement_modifyAgreement _ _ _ _ _
  · exact p.modifyGoal_modifyGoal _ _ _
  · cases h

/-! ## Additions -/

/-- A record in a list of siblings can be looked up. -/
theorem node?_of_siblings? {xs : List kind.Record} (h : p.siblings? kind parent = some xs) {n : Nat}
    {x : kind.Record} (hx : xs[n]? = some x) : p.node? kind (parent ++ [(n : Int)]) = some x.toNode := by
  unfold siblings? at h
  split at h
  · obtain rfl := Option.some.inj h
    simp [node?, hx, Record.toNode]
  · obtain ⟨goal, hgoal, rfl⟩ := Option.map_eq_some_iff.mp h
    simp [node?, hgoal, hx, Record.toNode]
  · obtain ⟨goal, hgoal, h⟩ := Option.bind_eq_some_iff.mp h
    obtain ⟨action, haction, rfl⟩ := Option.map_eq_some_iff.mp h
    simp [node?, hgoal, haction, hx, Record.toNode]
  · obtain ⟨goal, hgoal, h⟩ := Option.bind_eq_some_iff.mp h
    obtain ⟨action, haction, h⟩ := Option.bind_eq_some_iff.mp h
    obtain ⟨agreement, hagreement, rfl⟩ := Option.map_eq_some_iff.mp h
    simp [node?, hgoal, haction, hagreement, hx, Record.toNode]
  · obtain ⟨goal, hgoal, rfl⟩ := Option.map_eq_some_iff.mp h
    simp [node?, hgoal, hx, Record.toNode]
  · cases h

/-- From one plan to another, the record of an entry was added under a parent, and nothing else was changed. Its row
comes behind the stretch of its siblings and of what they own. If there are none, it comes where their list starts in
the order of a listing: all rows that precede it are in front of it, and all that it precedes behind it. -/
structure Gains (p : Plan) (parent : Path) (e : Entry) (q : Plan) : Prop where
  fields : ∀ field, q.get field = p.get field
  rows : ∃ front siblings back,
    p.rows = front ++ siblings ++ back ∧ q.rows = front ++ siblings ++ e.row :: back ∧
      (∀ r ∈ siblings, r.address.IsIn e.kind parent) ∧ (∀ r ∈ front ++ back, ¬ r.address.IsIn e.kind parent) ∧
      (∀ r ∈ front ++ siblings, r.address.Precedes e.address) ∧ ∀ r ∈ back, e.address.Precedes r.address

/-- The rows of a plan are in the order of a listing. -/
theorem pairwise_rows (p : Plan) : p.rows.Pairwise fun r r' => r.address.Precedes r'.address :=
  List.pairwise_map.mpr p.pairwise_walk

section append

variable {nodes : List Node} (h : p.children? kind parent = some nodes) (date d : String)

include h

/-- A record that was added can be looked up. -/
theorem node?_append :
    (p.append kind parent date d).node? kind (parent ++ [(nodes.length : Int)]) = some (.fresh kind date d) := by
  obtain ⟨xs, hsiblings, rfl⟩ := exists_siblings_of_children? h
  rw [append_eq hsiblings, List.length_map,
    node?_of_siblings? (siblings?_overSiblings hsiblings _) List.getElem?_concat_length, Record.toNode_fresh]

/-- **A record that is added is all that is gained.** -/
theorem gains_append :
    p.Gains parent ⟨parent ++ [(nodes.length : Int)], .fresh kind date d⟩ (p.append kind parent date d) := by
  obtain ⟨xs, hsiblings, rfl⟩ := exists_siblings_of_children? h
  obtain ⟨before, after, hrows, hbefore, hafter⟩ := stretch hsiblings
  have hparent := length_of_siblings? hsiblings
  have hrow : Entry.row ⟨parent ++ [((xs.map Record.toNode).length : Int)], .fresh kind date d⟩ =
      ⟨kind, parent ++ [(xs.length : Int)], date, d⟩ := by
    simp [Entry.row, Entry.kind]
  have hold := hrows id
  rw [overSiblings_id, id] at hold
  have hnew : (p.append kind parent date d).rows = before ++ rowsFrom parent 0 xs ++
      Entry.row ⟨parent ++ [((xs.map Record.toNode).length : Int)], .fresh kind date d⟩ :: after := by
    rw [rows_append_eq hsiblings hrows, hrow]
  have horder := (p.append kind parent date d).pairwise_rows
  rw [hnew, List.pairwise_append, List.pairwise_cons] at horder
  obtain ⟨-, ⟨hback, -⟩, hfront⟩ := horder
  refine ⟨fun field => ?_, before, rowsFrom parent 0 xs, after, hold, hnew, fun r hr => ?_, fun r hr => ?_,
    fun r hr => hfront r hr _ List.mem_cons_self, hback⟩
  · rw [append_eq hsiblings, get_overSiblings]
  · obtain ⟨m, -, hheld⟩ := exists_holds_of_mem_rowsFrom hparent hr
    rw [Entry.kind, Node.kind_fresh]
    exact hheld.isIn hparent
  · rw [Entry.kind, Node.kind_fresh]
    rcases List.mem_append.mp hr with hr | hr
    · exact hbefore r hr
    · exact hafter r hr

/-- **To remove the record that was added restores the plan.** -/
theorem erase_append : (p.append kind parent date d).erase kind (parent ++ [(nodes.length : Int)]) = p := by
  obtain ⟨xs, hsiblings, rfl⟩ := exists_siblings_of_children? h
  rw [append_eq hsiblings, List.length_map, erase_eq (siblings?_overSiblings hsiblings _),
    overSiblings_overSiblings hsiblings]
  refine (overSiblings_congr hsiblings (k := id) ?_).trans (p.overSiblings_id kind parent)
  rw [Function.comp_apply, List.eraseIdx_append_of_length_le (Nat.le_refl _), Nat.sub_self]
  exact List.append_nil xs

end append

/-- An addition succeeds if and only if the parent is there and has room. -/
theorem exists_add_eq_ok_iff {clock : Clock} {d : String} :
    (∃ added, p.add clock (.one kind) parent d = .ok added) ↔
      ∃ siblings, p.children (.one kind) parent .add = .ok siblings ∧ siblings.length < maxChildren := by
  constructor
  · rintro ⟨⟨node, q, clock'⟩, hadd⟩
    obtain ⟨siblings, hsiblings, hroom, -⟩ := of_add_eq_ok hadd
    exact ⟨siblings, children_eq_ok.mpr hsiblings, hroom⟩
  · rintro ⟨siblings, hsiblings, hroom⟩
    exact ⟨_, add_eq_ok (children_eq_ok.mp hsiblings) hroom clock d⟩

/-- An update succeeds if and only if the record is there. -/
theorem exists_update_eq_ok_iff {d : String} :
    (∃ updated, p.update (.one kind) path d = .ok updated) ↔ ∃ old, p.node (.one kind) path .update = .ok old := by
  constructor
  · rintro ⟨⟨node, q⟩, hupdate⟩
    obtain ⟨old, hold, -⟩ := of_update_eq_ok hupdate
    exact ⟨old, node_eq_ok.mpr hold⟩
  · rintro ⟨old, hold⟩
    exact ⟨_, update_eq_ok (node_eq_ok.mp hold) d⟩

/-- **An addition and an update as a whole.** An addition succeeds if and only if the parent is there and has room.
The record is a new one then, with the next reading of the clock as its date. Its address is the one behind its
siblings, its row comes behind theirs and those of what they own, and nothing else was changed; to remove it again
gives it back and restores the plan. An update succeeds if and only if the record is there, and its description is
all that is changed in the plan. -/
theorem rows_add_update (p : Plan) (kind : Kind) (d : String) :
    (∀ clock parent, (∃ added, p.add clock (.one kind) parent d = .ok added) ↔
      ∃ siblings, p.children (.one kind) parent .add = .ok siblings ∧ siblings.length < maxChildren) ∧
    (∀ {clock parent node q clock'}, p.add clock (.one kind) parent d = .ok (node, q, clock') →
      ∃ siblings, p.children (.one kind) parent .add = .ok siblings ∧
        node = .fresh kind clock.now d ∧ clock' = clock.tick ∧
        p.Gains parent ⟨parent ++ [(siblings.length : Int)], node⟩ q ∧
        q.remove (.one kind) (parent ++ [(siblings.length : Int)]) = .ok (node, p)) ∧
    (∀ path, (∃ updated, p.update (.one kind) path d = .ok updated) ↔
      ∃ old, p.node (.one kind) path .update = .ok old) ∧
    ∀ {path node q}, p.update (.one kind) path d = .ok (node, q) →
      ∃ old, p.node (.one kind) path .update = .ok old ∧ node = old.describe d ∧ p.Renames ⟨path, old⟩ d q := by
  refine ⟨fun clock parent => exists_add_eq_ok_iff, ?_, fun path => exists_update_eq_ok_iff, ?_⟩
  · intro clock parent node q clock' hadd
    obtain ⟨siblings, hsiblings, -, rfl, rfl, rfl⟩ := of_add_eq_ok hadd
    refine ⟨siblings, children_eq_ok.mpr hsiblings, rfl, rfl, gains_append hsiblings clock.now d, ?_⟩
    rw [remove_eq_ok (node?_append hsiblings clock.now d), erase_append hsiblings]
  · intro path node q hupdate
    obtain ⟨old, hold, rfl, rfl⟩ := of_update_eq_ok hupdate
    obtain ⟨rfl, -⟩ := mem_walk_of_node? hold
    exact ⟨old, node_eq_ok.mpr hold, rfl, renames_describe (e := ⟨path, old⟩) hold d⟩

/-- A third action comes in front of the results of the goal, and the second result gets another description. -/
theorem rows_add_update_branchedPlan :
    let clock : Clock := ⟨⟨0, 0⟩⟩
    let run : Node := .action ⟨clock.now, "run", []⟩
    let calm : Node := .result ⟨"2006", "calm"⟩
    (∃ q, branchedPlan.add clock (.one .action) [0] "run" = .ok (run, q, clock.tick) ∧
      branchedPlan.Gains [0] ⟨[0, 2], run⟩ q ∧ q.remove (.one .action) [0, 2] = .ok (run, branchedPlan)) ∧
    ∃ node q, branchedPlan.update (.one .result) [0, 1] "quiet" = .ok (node, q) ∧
      branchedPlan.Renames ⟨[0, 1], calm⟩ "quiet" q := by
  intro clock run calm
  obtain ⟨siblings, hsiblings, hlength⟩ : ∃ siblings, branchedPlan.children? .action [0] = some siblings ∧
      siblings.length = 2 := ⟨_, rfl, rfl⟩
  have hcalm : branchedPlan.node? .result [0, 1] = some calm := rfl
  have hadd := add_eq_ok hsiblings (by rw [hlength]; decide) clock "run"
  have hupdate := update_eq_ok hcalm "quiet"
  obtain ⟨siblings', hsiblings', -, -, hgains, hremove⟩ := (rows_add_update branchedPlan .action "run").2.1 hadd
  obtain ⟨old, hold, -, hrenames⟩ := (rows_add_update branchedPlan .result "quiet").2.2.2 hupdate
  obtain rfl : siblings' = siblings := Option.some.inj ((children_eq_ok.mp hsiblings').symm.trans hsiblings)
  obtain rfl : old = calm := Option.some.inj ((node_eq_ok.mp hold).symm.trans hcalm)
  rw [hlength] at hgains hremove
  exact ⟨⟨_, hadd, hgains, hremove⟩, _, _, hupdate, hrenames⟩

end Plan

end LifePlan
