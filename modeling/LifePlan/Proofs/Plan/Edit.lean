import LifePlan.Plan.Edit
import LifePlan.Proofs.Except

/-!
# Looking records up and changing them

A lookup by kind succeeds with what is at the place (`children_eq_ok`, `node_eq_ok`), and a path of the right
length that leads nowhere is a fault (`children_of_none`, `node_of_none`). A change that is possible is
carried out: `edit` is the three changes of records as one function of the command, with the plan and the
clock that they leave. What it can be is `edit_cases`.
-/

namespace LifePlan

namespace Plan

variable {p : Plan} {kind : Kind} {path : Path} {purpose : Purpose}

/-! ## Lookups -/

/-- The place of a parent has one index less than the kind is deep. -/
theorem length_of_children? {nodes : List Node} (h : p.children? kind path = some nodes) :
    path.length = kind.depth - 1 := by
  unfold children? at h
  split at h
  · rfl
  · rfl
  · rfl
  · rfl
  · rfl
  · cases h

/-- The place of a record has as many indices as the kind is deep. -/
theorem length_of_node? {node : Node} (h : p.node? kind path = some node) : path.length = kind.depth := by
  unfold node? at h
  split at h
  · rfl
  · rfl
  · rfl
  · rfl
  · rfl
  · cases h

/-- The indices of a record that is there count from 0. -/
theorem nonneg_of_node? {node : Node} (h : p.node? kind path = some node) : ∀ i ∈ path, 0 ≤ i := by
  have hat {α : Type} {xs : List α} {i : Int} {x : α} (hx : at? xs i = some x) : 0 ≤ i :=
    ((isSome_at?_iff xs i).mp (by rw [hx]; rfl)).1
  unfold node? at h
  split at h
  · obtain ⟨goal, hgoal, -⟩ := Option.map_eq_some_iff.mp h
    simpa using hat hgoal
  · obtain ⟨goal, hgoal, h⟩ := Option.bind_eq_some_iff.mp h
    obtain ⟨action, haction, -⟩ := Option.map_eq_some_iff.mp h
    simpa using ⟨hat hgoal, hat haction⟩
  · obtain ⟨goal, hgoal, h⟩ := Option.bind_eq_some_iff.mp h
    obtain ⟨action, haction, h⟩ := Option.bind_eq_some_iff.mp h
    obtain ⟨agreement, hagreement, -⟩ := Option.map_eq_some_iff.mp h
    simpa using ⟨hat hgoal, hat haction, hat hagreement⟩
  · obtain ⟨goal, hgoal, h⟩ := Option.bind_eq_some_iff.mp h
    obtain ⟨action, haction, h⟩ := Option.bind_eq_some_iff.mp h
    obtain ⟨agreement, hagreement, h⟩ := Option.bind_eq_some_iff.mp h
    obtain ⟨alert, halert, -⟩ := Option.map_eq_some_iff.mp h
    simpa using ⟨hat hgoal, hat haction, hat hagreement, hat halert⟩
  · obtain ⟨goal, hgoal, h⟩ := Option.bind_eq_some_iff.mp h
    obtain ⟨result, hresult, -⟩ := Option.map_eq_some_iff.mp h
    simpa using ⟨hat hgoal, hat hresult⟩
  · cases h

/-- The kind of the records of one kind. -/
@[simp] theorem kindOf_one (kind : Kind) : kindOf (.one kind) = .ok kind := rfl

/-- The records under a parent are found if and only if the parent is there. -/
theorem children_eq_ok {nodes : List Node} :
    p.children (.one kind) path purpose = .ok nodes ↔ p.children? kind path = some nodes := by
  rw [children, kindOf_one, Except.ok_bind]
  constructor
  · intro h
    split at h
    · cases h
    · split at h
      · next hnodes => rw [hnodes, Except.ok.inj h]
      · cases h
  · intro h
    rw [if_neg (not_not_intro (length_of_children? h)), h]

/-- A parent that is not there is a fault. -/
theorem children_of_none (hlength : path.length = kind.depth - 1) (h : p.children? kind path = none) :
    p.children (.one kind) path purpose = .error (.fault (.missing purpose (.one kind) path)) := by
  rw [children, kindOf_one, Except.ok_bind, if_neg (not_not_intro hlength), h]

/-- A record is found if and only if it is there. -/
theorem node_eq_ok {node : Node} :
    p.node (.one kind) path purpose = .ok node ↔ p.node? kind path = some node := by
  rw [Plan.node, kindOf_one, Except.ok_bind]
  constructor
  · intro h
    split at h
    · cases h
    · split at h
      · next hnode => rw [hnode, Except.ok.inj h]
      · cases h
  · intro h
    rw [if_neg (not_not_intro (length_of_node? h)), h]

/-- A record that is not there is a fault. -/
theorem node_of_none (hlength : path.length = kind.depth) (h : p.node? kind path = none) :
    p.node (.one kind) path purpose = .error (.fault (.missing purpose (.one kind) path)) := by
  rw [Plan.node, kindOf_one, Except.ok_bind, if_neg (not_not_intro hlength), h]

/-! ## Changes -/

/-- What a command that changes records makes of a plan and a clock. Only an addition reads the clock. -/
def edit (p : Plan) (clock : Clock) (command : Command) (kind : Kind) (path : Path) (description : String) :
    Except Failure (Plan × Clock) :=
  match command with
  | .add => (p.add clock (.one kind) path description).map fun added => added.2
  | .update => (p.update (.one kind) path description).map fun updated => (updated.2, clock)
  | .remove => (p.remove (.one kind) path).map fun removed => (removed.2, clock)
  | _ => .error (.misuse (.addressless command))

/-- A record is added where the parent is there and has room. -/
theorem add_eq_ok {siblings : List Node} (h : p.children? kind path = some siblings)
    (hroom : siblings.length < maxChildren) (clock : Clock) (description : String) :
    p.add clock (.one kind) path description =
      .ok (.fresh kind clock.now description, p.append kind path clock.now description, clock.tick) := by
  rw [add, kindOf_one, Except.ok_bind, children_eq_ok.mpr h, Except.ok_bind, if_neg (Nat.not_le.mpr hroom)]

/-- A record that is there is updated. -/
theorem update_eq_ok {node : Node} (h : p.node? kind path = some node) (description : String) :
    p.update (.one kind) path description =
      .ok (node.describe description, p.describe kind path description) := by
  rw [update, kindOf_one, Except.ok_bind, node_eq_ok.mpr h, Except.ok_bind]

/-- A record that is there is removed. -/
theorem remove_eq_ok {node : Node} (h : p.node? kind path = some node) :
    p.remove (.one kind) path = .ok (node, p.erase kind path) := by
  rw [remove, kindOf_one, Except.ok_bind, node_eq_ok.mpr h, Except.ok_bind]

/-- A record that was added has a parent with room for it. -/
theorem of_add_eq_ok {clock clock' : Clock} {description : String} {node : Node} {q : Plan}
    (h : p.add clock (.one kind) path description = .ok (node, q, clock')) :
    ∃ siblings, p.children? kind path = some siblings ∧ siblings.length < maxChildren ∧
      node = .fresh kind clock.now description ∧ q = p.append kind path clock.now description ∧
      clock' = clock.tick := by
  rw [add, kindOf_one, Except.ok_bind] at h
  obtain ⟨siblings, hsiblings, h⟩ := Except.bind_eq_ok.mp h
  by_cases hfull : siblings.length ≥ maxChildren
  · rw [if_pos hfull] at h
    cases h
  · rw [if_neg hfull] at h
    cases h
    exact ⟨siblings, children_eq_ok.mp hsiblings, Nat.not_le.mp hfull, rfl, rfl, rfl⟩

/-- A record that was updated was there. -/
theorem of_update_eq_ok {description : String} {node : Node} {q : Plan}
    (h : p.update (.one kind) path description = .ok (node, q)) :
    ∃ old, p.node? kind path = some old ∧ node = old.describe description ∧
      q = p.describe kind path description := by
  rw [update, kindOf_one, Except.ok_bind] at h
  obtain ⟨old, hold, h⟩ := Except.bind_eq_ok.mp h
  cases h
  exact ⟨old, node_eq_ok.mp hold, rfl, rfl⟩

/-- **What an edit can be.** A record was added where there was room, or a record that is there was described
anew, or it was removed. -/
theorem edit_cases {clock clock' : Clock} {command : Command} {description : String} {q : Plan}
    (h : p.edit clock command kind path description = .ok (q, clock')) :
    (command = .add ∧ ∃ siblings, p.children? kind path = some siblings ∧ siblings.length < maxChildren ∧
        q = p.append kind path clock.now description ∧ clock' = clock.tick) ∨
      (command = .update ∧ (p.node? kind path).isSome = true ∧ q = p.describe kind path description ∧
        clock' = clock) ∨
      (command = .remove ∧ (p.node? kind path).isSome = true ∧ q = p.erase kind path ∧ clock' = clock) := by
  unfold edit at h
  split at h
  · obtain ⟨⟨node, added⟩, hadd, rfl⟩ := Except.map_eq_ok.mp h
    obtain ⟨siblings, hsiblings, hroom, -, rfl, rfl⟩ := of_add_eq_ok hadd
    exact .inl ⟨rfl, siblings, hsiblings, hroom, rfl, rfl⟩
  · obtain ⟨⟨node, updated⟩, hupdate, hq⟩ := Except.map_eq_ok.mp h
    obtain ⟨old, hold, -, rfl⟩ := of_update_eq_ok hupdate
    cases hq
    exact .inr (.inl ⟨rfl, by rw [hold]; rfl, rfl, rfl⟩)
  · obtain ⟨removed, hremove, hq⟩ := Except.map_eq_ok.mp h
    rw [remove, kindOf_one, Except.ok_bind] at hremove
    obtain ⟨node, hnode, hremove⟩ := Except.bind_eq_ok.mp hremove
    cases hremove
    cases hq
    exact .inr (.inr ⟨rfl, by rw [node_eq_ok.mp hnode]; rfl, rfl, rfl⟩)
  · cases h

end Plan

end LifePlan
