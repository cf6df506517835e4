import LifePlan.Plan.Edit
import LifePlan.Proofs.Plan.FanOut
import LifePlan.Proofs.Plan.Walk

/-!
# Changes within one list of siblings

Every record stands in a list of siblings, the records of its kind under its parent (`exists_siblings`), and to
remove it or to describe it anew changes that list alone (`erase_eq`, `describe_eq`). In a walk the list is one
stretch, and what stands around it does not depend on it (`surrounds_siblings`). So, of what a walk comes across,
only the record and what it owns are gone when it is removed, and the siblings behind it are counted anew
(`rows_erase`); only its own description is another when it is described anew (`rows_describe`), so that the plan
is the same if and only if the description is (`describe_eq_self_iff`); and a record that is added comes behind its
siblings (`rows_append`).
-/

namespace LifePlan

/-! ## Records of one kind -/

/-- The records of a kind. -/
abbrev Kind.Record : Kind → Type
  | .goal => Goal
  | .action => Action
  | .agreement => Agreement
  | .alert => Alert
  | .result => Result

namespace Kind.Record

/-- The record as one of any kind. -/
def toNode : {kind : Kind} → kind.Record → Node
  | .goal, x => .goal x
  | .action, x => .action x
  | .agreement, x => .agreement x
  | .alert, x => .alert x
  | .result, x => .result x

/-- The record with another description. -/
def describe (d : String) : {kind : Kind} → kind.Record → kind.Record
  | .goal, x => { (x : Goal) with description := d }
  | .action, x => { (x : Action) with description := d }
  | .agreement, x => { (x : Agreement) with description := d }
  | .alert, x => { (x : Alert) with description := d }
  | .result, x => { (x : Result) with description := d }

/-- A new record without children. -/
def fresh (date description : String) : {kind : Kind} → kind.Record
  | .goal => (⟨date, description, [], []⟩ : Goal)
  | .action => (⟨date, description, []⟩ : Action)
  | .agreement => (⟨date, description, []⟩ : Agreement)
  | .alert => (⟨date, description⟩ : Alert)
  | .result => (⟨date, description⟩ : Result)

/-- The record and what it owns, as entries. -/
def entries {kind : Kind} (path : Path) (x : kind.Record) : List Entry := x.toNode.entries path

end Kind.Record

open Kind (Record)

namespace Plan

variable {p : Plan} {kind : Kind} {parent path : Path}

/-- The records of a kind under the parent at a path. -/
def siblings? (p : Plan) : (kind : Kind) → Path → Option (List kind.Record)
  | .goal, [] => some p.goals
  | .action, [g] => (at? p.goals g).map Goal.actions
  | .agreement, [g, a] => (at? p.goals g).bind fun x => (at? x.actions a).map Action.agreements
  | .alert, [g, a, ag] =>
    (at? p.goals g).bind fun x => (at? x.actions a).bind fun y =>
      (at? y.agreements ag).map Agreement.alerts
  | .result, [g] => (at? p.goals g).map Goal.results
  | _, _ => none

/-- The plan with a change of the list of siblings under the parent at a path. -/
def overSiblings (p : Plan) : (kind : Kind) → Path → (List kind.Record → List kind.Record) → Plan
  | .goal, [], f => { p with goals := f p.goals }
  | .action, [g], f => p.modifyGoal g fun x => { x with actions := f x.actions }
  | .agreement, [g, a], f => p.modifyAction g a fun x => { x with agreements := f x.agreements }
  | .alert, [g, a, ag], f => p.modifyAgreement g a ag fun x => { x with alerts := f x.alerts }
  | .result, [g], f => p.modifyGoal g fun x => { x with results := f x.results }
  | _, _, _ => p

/-- An index that is there is a natural number. -/
theorem exists_index_of_at? {α : Type} {xs : List α} {i : Int} {x : α} (h : at? xs i = some x) :
    ∃ n : Nat, i = n ∧ xs[n]? = some x := by
  cases i with
  | ofNat n => exact ⟨n, rfl, h⟩
  | negSucc n => cases h

/-- **Every record stands in a list of siblings.** -/
theorem exists_siblings {node : Node} (h : p.node? kind path = some node) :
    ∃ parent, ∃ n : Nat, ∃ xs, ∃ x : kind.Record,
      path = parent ++ [(n : Int)] ∧ p.siblings? kind parent = some xs ∧ xs[n]? = some x ∧ x.toNode = node := by
  unfold node? at h
  split at h
  · obtain ⟨x, hx, rfl⟩ := Option.map_eq_some_iff.mp h
    obtain ⟨n, rfl, hx⟩ := exists_index_of_at? hx
    exact ⟨[], n, _, x, rfl, rfl, hx, rfl⟩
  · next g a =>
    obtain ⟨goal, hgoal, h⟩ := Option.bind_eq_some_iff.mp h
    obtain ⟨x, hx, rfl⟩ := Option.map_eq_some_iff.mp h
    obtain ⟨n, rfl, hx⟩ := exists_index_of_at? hx
    exact ⟨[g], n, goal.actions, x, rfl, by rw [siblings?, hgoal]; rfl, hx, rfl⟩
  · next g a ag =>
    obtain ⟨goal, hgoal, h⟩ := Option.bind_eq_some_iff.mp h
    obtain ⟨action, haction, h⟩ := Option.bind_eq_some_iff.mp h
    obtain ⟨x, hx, rfl⟩ := Option.map_eq_some_iff.mp h
    obtain ⟨n, rfl, hx⟩ := exists_index_of_at? hx
    exact ⟨[g, a], n, action.agreements, x, rfl, by rw [siblings?, hgoal, Option.bind_some, haction]; rfl, hx,
      rfl⟩
  · next g a ag al =>
    obtain ⟨goal, hgoal, h⟩ := Option.bind_eq_some_iff.mp h
    obtain ⟨action, haction, h⟩ := Option.bind_eq_some_iff.mp h
    obtain ⟨agreement, hagreement, h⟩ := Option.bind_eq_some_iff.mp h
    obtain ⟨x, hx, rfl⟩ := Option.map_eq_some_iff.mp h
    obtain ⟨n, rfl, hx⟩ := exists_index_of_at? hx
    exact ⟨[g, a, ag], n, agreement.alerts, x, rfl,
      by rw [siblings?, hgoal, Option.bind_some, haction, Option.bind_some, hagreement]; rfl, hx, rfl⟩
  · next g r =>
    obtain ⟨goal, hgoal, h⟩ := Option.bind_eq_some_iff.mp h
    obtain ⟨x, hx, rfl⟩ := Option.map_eq_some_iff.mp h
    obtain ⟨n, rfl, hx⟩ := exists_index_of_at? hx
    exact ⟨[g], n, goal.results, x, rfl, by rw [siblings?, hgoal]; rfl, hx, rfl⟩
  · cases h

/-- To remove a record changes the list in which it stands. -/
theorem erase_eq {xs : List kind.Record} (h : p.siblings? kind parent = some xs) (n : Nat) :
    p.erase kind (parent ++ [(n : Int)]) = p.overSiblings kind parent (·.eraseIdx n) := by
  unfold siblings? at h
  split at h
  · rfl
  · rfl
  · rfl
  · rfl
  · rfl
  · cases h

/-- So does to describe it anew. -/
theorem describe_eq {xs : List kind.Record} (h : p.siblings? kind parent = some xs) (n : Nat) (d : String) :
    p.describe kind (parent ++ [(n : Int)]) d = p.overSiblings kind parent (·.modify n (Record.describe d)) := by
  unfold siblings? at h
  split at h
  · rfl
  · rfl
  · rfl
  · rfl
  · rfl
  · cases h

/-- And so does to add one. -/
theorem append_eq {xs : List kind.Record} (h : p.siblings? kind parent = some xs) (date d : String) :
    p.append kind parent date d = p.overSiblings kind parent (· ++ [Record.fresh date d]) := by
  unfold siblings? at h
  split at h
  · rfl
  · rfl
  · rfl
  · rfl
  · rfl
  · cases h

/-- The records that are found under a parent are a list of siblings. -/
theorem exists_siblings_of_children? {nodes : List Node} (h : p.children? kind parent = some nodes) :
    ∃ xs : List kind.Record, p.siblings? kind parent = some xs ∧ nodes = xs.map Record.toNode := by
  unfold children? at h
  split at h
  · exact ⟨_, rfl, (Option.some.inj h).symm⟩
  · obtain ⟨goal, hgoal, h⟩ := Option.bind_eq_some_iff.mp h
    exact ⟨goal.actions, by rw [siblings?, hgoal]; rfl, (Option.some.inj h).symm⟩
  · obtain ⟨goal, hgoal, h⟩ := Option.bind_eq_some_iff.mp h
    obtain ⟨action, haction, h⟩ := Option.bind_eq_some_iff.mp h
    exact ⟨action.agreements, by rw [siblings?, hgoal, Option.bind_some, haction]; rfl, (Option.some.inj h).symm⟩
  · obtain ⟨goal, hgoal, h⟩ := Option.bind_eq_some_iff.mp h
    obtain ⟨action, haction, h⟩ := Option.bind_eq_some_iff.mp h
    obtain ⟨agreement, hagreement, h⟩ := Option.bind_eq_some_iff.mp h
    exact ⟨agreement.alerts,
      by rw [siblings?, hgoal, Option.bind_some, haction, Option.bind_some, hagreement]; rfl,
      (Option.some.inj h).symm⟩
  · obtain ⟨goal, hgoal, h⟩ := Option.bind_eq_some_iff.mp h
    exact ⟨goal.results, by rw [siblings?, hgoal]; rfl, (Option.some.inj h).symm⟩
  · cases h

/-- A list of siblings is what is found under their parent. -/
theorem children?_of_siblings? {xs : List kind.Record} (h : p.siblings? kind parent = some xs) :
    p.children? kind parent = some (xs.map Record.toNode) := by
  unfold siblings? at h
  split at h
  · obtain rfl := Option.some.inj h
    rfl
  · obtain ⟨goal, hgoal, rfl⟩ := Option.map_eq_some_iff.mp h
    simp [children?, hgoal, Record.toNode]
  · obtain ⟨goal, hgoal, h⟩ := Option.bind_eq_some_iff.mp h
    obtain ⟨action, haction, rfl⟩ := Option.map_eq_some_iff.mp h
    simp [children?, hgoal, haction, Record.toNode]
  · obtain ⟨goal, hgoal, h⟩ := Option.bind_eq_some_iff.mp h
    obtain ⟨action, haction, h⟩ := Option.bind_eq_some_iff.mp h
    obtain ⟨agreement, hagreement, rfl⟩ := Option.map_eq_some_iff.mp h
    simp [children?, hgoal, haction, hagreement, Record.toNode]
  · obtain ⟨goal, hgoal, rfl⟩ := Option.map_eq_some_iff.mp h
    simp [children?, hgoal, Record.toNode]
  · cases h

/-- Changes that agree on a goal that is there make the same plan. -/
theorem modifyGoal_congr {g : Int} {x : Goal} {f k : Goal → Goal} (hx : at? p.goals g = some x) (h : f x = k x) :
    p.modifyGoal g f = p.modifyGoal g k := by
  obtain ⟨n, rfl, hx⟩ := exists_index_of_at? hx
  rw [modifyGoal, modifyGoal, Int.toNat_natCast, modify_congr hx h]

/-- So do changes that agree on an action that is there. -/
theorem modifyAction_congr {g a : Int} {x : Goal} {y : Action} {f k : Action → Action}
    (hx : at? p.goals g = some x) (hy : at? x.actions a = some y) (h : f y = k y) :
    p.modifyAction g a f = p.modifyAction g a k := by
  obtain ⟨n, rfl, hy⟩ := exists_index_of_at? hy
  refine modifyGoal_congr hx ?_
  rw [Goal.modifyAction, Goal.modifyAction, Int.toNat_natCast, modify_congr hy h]

/-- And so do changes that agree on an agreement that is there. -/
theorem modifyAgreement_congr {g a ag : Int} {x : Goal} {y : Action} {z : Agreement} {f k : Agreement → Agreement}
    (hx : at? p.goals g = some x) (hy : at? x.actions a = some y) (hz : at? y.agreements ag = some z)
    (h : f z = k z) : p.modifyAgreement g a ag f = p.modifyAgreement g a ag k := by
  obtain ⟨n, rfl, hz⟩ := exists_index_of_at? hz
  refine modifyAction_congr hx hy ?_
  rw [Action.modifyAgreement, Action.modifyAgreement, Int.toNat_natCast, modify_congr hz h]

/-- **Changes that agree on a list of siblings make the same plan.** -/
theorem overSiblings_congr {xs : List kind.Record} (hxs : p.siblings? kind parent = some xs)
    {f k : List kind.Record → List kind.Record} (h : f xs = k xs) :
    p.overSiblings kind parent f = p.overSiblings kind parent k := by
  unfold siblings? at hxs
  split at hxs
  · obtain rfl := Option.some.inj hxs
    simp only [overSiblings, h]
  · obtain ⟨x, hx, rfl⟩ := Option.map_eq_some_iff.mp hxs
    exact modifyGoal_congr hx (by simp only [h])
  · obtain ⟨x, hx, hxs⟩ := Option.bind_eq_some_iff.mp hxs
    obtain ⟨y, hy, rfl⟩ := Option.map_eq_some_iff.mp hxs
    exact modifyAction_congr hx hy (by simp only [h])
  · obtain ⟨x, hx, hxs⟩ := Option.bind_eq_some_iff.mp hxs
    obtain ⟨y, hy, hxs⟩ := Option.bind_eq_some_iff.mp hxs
    obtain ⟨z, hz, rfl⟩ := Option.map_eq_some_iff.mp hxs
    exact modifyAgreement_congr hx hy hz (by simp only [h])
  · obtain ⟨x, hx, rfl⟩ := Option.map_eq_some_iff.mp hxs
    exact modifyGoal_congr hx (by simp only [h])
  · cases hxs

/-- A goal that stays as it is leaves the plan as it is. -/
theorem modifyGoal_id (p : Plan) (g : Int) : p.modifyGoal g id = p := by rw [modifyGoal, List.modify_id]

/-- So does an action. -/
theorem modifyAction_id (p : Plan) (g a : Int) : p.modifyAction g a id = p := by
  have hgoal : (fun x : Goal => x.modifyAction a id) = id := by
    funext x
    rw [Goal.modifyAction, List.modify_id]
    rfl
  rw [modifyAction, hgoal, modifyGoal_id]

/-- And so does an agreement. -/
theorem modifyAgreement_id (p : Plan) (g a ag : Int) : p.modifyAgreement g a ag id = p := by
  have haction : (fun x : Action => x.modifyAgreement ag id) = id := by
    funext x
    rw [Action.modifyAgreement, List.modify_id]
    rfl
  rw [modifyAgreement, haction, modifyAction_id]

/-- A list of siblings that stays as it is leaves the plan as it is. -/
theorem overSiblings_id (p : Plan) (kind : Kind) (parent : Path) : p.overSiblings kind parent id = p := by
  unfold overSiblings
  split
  · rfl
  · exact p.modifyGoal_id _
  · exact p.modifyAction_id _ _
  · exact p.modifyAgreement_id _ _ _
  · exact p.modifyGoal_id _
  · rfl

end Plan

/-! ## Rows -/

/-- What a walk comes across at a place, without what is owned there. -/
structure Row where
  kind : Kind
  path : Path
  date : String
  description : String
  deriving DecidableEq, Repr

/-- The row of an entry. -/
def Entry.row (e : Entry) : Row := ⟨e.kind, e.path, e.node.date, e.node.description⟩

/-- The row for a place at which one index is lower by one. -/
def Row.lower (level : Nat) (r : Row) : Row := { r with path := r.path.modify level (· - 1) }

/-- The rows of a record and of what it owns. -/
def Node.rows (path : Path) (x : Node) : List Row := (x.entries path).map Entry.row

/-- The rows of a list of siblings, the first of which has the index `i`. -/
def rowsFrom {kind : Kind} (path : Path) (i : Nat) (xs : List kind.Record) : List Row :=
  (entriesFrom Record.entries path i xs).map Entry.row

/-- The rows of a plan, in the order of a walk. -/
def Plan.rows (p : Plan) : List Row := p.walk.map Entry.row

/-- To describe a record anew changes its own row. -/
theorem Kind.Record.rows_describe {kind : Kind} (d : String) (path : Path) (x : kind.Record) :
    ∃ owned, x.toNode.rows path = ⟨kind, path, x.toNode.date, x.toNode.description⟩ :: owned ∧
      (x.describe d).toNode.rows path = ⟨kind, path, x.toNode.date, d⟩ :: owned := by
  cases kind with
  | goal | action | agreement | alert | result => exact ⟨_, rfl, rfl⟩

/-- A new record has one row. -/
theorem Kind.Record.rows_fresh (kind : Kind) (path : Path) (date d : String) :
    (fresh date d : kind.Record).toNode.rows path = [⟨kind, path, date, d⟩] := by
  cases kind with
  | goal | action | agreement | alert | result => rfl

/-- Under a sibling that is counted anew the index at that level is lower by one. -/
theorem Node.lower_rows (parent : Path) (i : Nat) (x : Node) :
    (x.rows (parent ++ [((i + 1 : Nat) : Int)])).map (Row.lower parent.length) =
      x.rows (parent ++ [(i : Int)]) := by
  rw [rows, rows, entries_eq, entries_eq (parent ++ [(i : Int)]), List.map_map, List.map_map, List.map_map]
  refine List.map_congr_left fun e _ => ?_
  have hindex : ((i + 1 : Nat) : Int) - 1 = i := by omega
  simp only [Function.comp_apply, Row.lower, Entry.row, Entry.under, Entry.kind, List.append_assoc,
    List.singleton_append, modify_append_cons, hindex]

/-- Siblings that are counted anew have indices that are lower by one. -/
theorem lower_rowsFrom {kind : Kind} (parent : Path) (i : Nat) (xs : List kind.Record) :
    (rowsFrom parent (i + 1) xs).map (Row.lower parent.length) = rowsFrom parent i xs := by
  induction xs generalizing i with
  | nil => rfl
  | cons x xs ih =>
    rw [rowsFrom, rowsFrom, entriesFrom_cons, entriesFrom_cons, List.map_append, List.map_append, List.map_append]
    exact congr (congrArg HAppend.hAppend (x.toNode.lower_rows parent i)) (ih (i + 1))

/-! ## What stands around a list of siblings -/

/-- Whatever is made of the part, what stands around it in the whole is the same. -/
def Surrounds {α : Type} (whole part : α → List Row) : Prop :=
  ∃ before after, ∀ a, whole a = before ++ part a ++ after

section surrounds

variable {α β : Type} {whole middle part : α → List Row}

/-- What stands around something that stands around the part stands around the part. -/
theorem Surrounds.trans (h : Surrounds whole middle) (h' : Surrounds middle part) : Surrounds whole part := by
  obtain ⟨before, after, hwhole⟩ := h
  obtain ⟨before', after', hmiddle⟩ := h'
  refine ⟨before ++ before', after' ++ after, fun a => ?_⟩
  rw [hwhole, hmiddle]
  simp only [List.append_assoc]

/-- It stands around all that is made of the part in some way. -/
theorem Surrounds.comp (h : Surrounds whole part) (f : β → α) :
    Surrounds (fun b => whole (f b)) (fun b => part (f b)) := by
  obtain ⟨before, after, hwhole⟩ := h
  exact ⟨before, after, fun b => hwhole (f b)⟩

/-- The other siblings stand around one that is changed. -/
theorem surrounds_modify {f : Path → α → List Entry} {xs : List α} {n : Nat} {x : α} (hx : xs[n]? = some x)
    (path : Path) :
    Surrounds (fun k : α → α => (entriesFrom f path 0 (xs.modify n k)).map Entry.row)
      (fun k => (f (path ++ [(n : Int)]) (k x)).map Entry.row) := by
  refine ⟨(entriesFrom f path 0 (xs.take n)).map Entry.row,
    (entriesFrom f path (n + 1) (xs.drop (n + 1))).map Entry.row, fun k => ?_⟩
  simp only [entriesFrom_modify hx, List.map_append]

end surrounds

/-- The rest of a goal stands around its actions. -/
theorem surrounds_actions (x : Goal) (path : Path) :
    Surrounds (fun actions : List Action => (Goal.entries path { x with actions := actions }).map Entry.row)
      (fun actions => (entriesFrom Action.entries path 0 actions).map Entry.row) := by
  refine ⟨[⟨.goal, path, x.date, x.description⟩], (entriesFrom Result.entries path 0 x.results).map Entry.row,
    fun actions => ?_⟩
  simp only [Goal.entries, List.map_cons, List.map_append]
  rfl

/-- The rest of a goal stands around its results. -/
theorem surrounds_results (x : Goal) (path : Path) :
    Surrounds (fun results : List Result => (Goal.entries path { x with results := results }).map Entry.row)
      (fun results => (entriesFrom Result.entries path 0 results).map Entry.row) := by
  refine ⟨⟨.goal, path, x.date, x.description⟩ :: (entriesFrom Action.entries path 0 x.actions).map Entry.row, [],
    fun results => ?_⟩
  simp only [Goal.entries, List.map_cons, List.map_append, List.append_nil]
  rfl

/-- An action stands in front of its agreements. -/
theorem surrounds_agreements (x : Action) (path : Path) :
    Surrounds
      (fun agreements : List Agreement => (Action.entries path { x with agreements := agreements }).map Entry.row)
      (fun agreements => (entriesFrom Agreement.entries path 0 agreements).map Entry.row) := by
  refine ⟨[⟨.action, path, x.date, x.description⟩], [], fun agreements => ?_⟩
  simp only [Action.entries, List.map_cons, List.append_nil]
  rfl

/-- An agreement stands in front of its alerts. -/
theorem surrounds_alerts (x : Agreement) (path : Path) :
    Surrounds (fun alerts : List Alert => (Agreement.entries path { x with alerts := alerts }).map Entry.row)
      (fun alerts => (entriesFrom Alert.entries path 0 alerts).map Entry.row) := by
  refine ⟨[⟨.agreement, path, x.date, x.description⟩], [], fun alerts => ?_⟩
  simp only [Agreement.entries, List.map_cons, List.append_nil]
  rfl

namespace Plan

variable {p : Plan} {kind : Kind} {parent path : Path}

/-- The rest of a plan stands around a goal. -/
theorem surrounds_goal {g : Int} {x : Goal} (hx : at? p.goals g = some x) :
    Surrounds (fun k : Goal → Goal => (p.modifyGoal g k).rows) (fun k => ((k x).entries [g]).map Entry.row) := by
  obtain ⟨n, rfl, hx⟩ := exists_index_of_at? hx
  exact surrounds_modify hx []

/-- It stands around an action. -/
theorem surrounds_action {g a : Int} {x : Goal} {y : Action} (hx : at? p.goals g = some x)
    (hy : at? x.actions a = some y) :
    Surrounds (fun k : Action → Action => (p.modifyAction g a k).rows)
      (fun k => ((k y).entries [g, a]).map Entry.row) := by
  have hgoal := (surrounds_goal hx).comp fun (k : Action → Action) (x : Goal) => x.modifyAction a k
  obtain ⟨n, rfl, hy⟩ := exists_index_of_at? hy
  have hactions := (surrounds_actions x [g]).comp fun (k : Action → Action) => x.actions.modify n k
  exact (hgoal.trans hactions).trans (surrounds_modify hy [g])

/-- It stands around an agreement. -/
theorem surrounds_agreement {g a ag : Int} {x : Goal} {y : Action} {z : Agreement} (hx : at? p.goals g = some x)
    (hy : at? x.actions a = some y) (hz : at? y.agreements ag = some z) :
    Surrounds (fun k : Agreement → Agreement => (p.modifyAgreement g a ag k).rows)
      (fun k => ((k z).entries [g, a, ag]).map Entry.row) := by
  have haction := (surrounds_action hx hy).comp fun (k : Agreement → Agreement) (y : Action) =>
    y.modifyAgreement ag k
  obtain ⟨n, rfl, hz⟩ := exists_index_of_at? hz
  have hagreements := (surrounds_agreements y [g, a]).comp fun (k : Agreement → Agreement) =>
    y.agreements.modify n k
  exact (haction.trans hagreements).trans (surrounds_modify hz [g, a])

/-- **What stands around a list of siblings in a walk does not depend on the list.** -/
theorem surrounds_siblings {xs : List kind.Record} (h : p.siblings? kind parent = some xs) :
    Surrounds (fun f => (p.overSiblings kind parent f).rows) (fun f => rowsFrom parent 0 (f xs)) := by
  unfold siblings? at h
  split at h
  · obtain rfl := Option.some.inj h
    refine ⟨[], [], fun f => ?_⟩
    rw [List.nil_append, List.append_nil]
    rfl
  · next g =>
    obtain ⟨x, hx, rfl⟩ := Option.map_eq_some_iff.mp h
    have hgoal := (surrounds_goal hx).comp fun (f : List Action → List Action) (x : Goal) =>
      { x with actions := f x.actions }
    exact hgoal.trans ((surrounds_actions x [g]).comp fun (f : List Action → List Action) => f x.actions)
  · next g a =>
    obtain ⟨x, hx, h⟩ := Option.bind_eq_some_iff.mp h
    obtain ⟨y, hy, rfl⟩ := Option.map_eq_some_iff.mp h
    have haction := (surrounds_action hx hy).comp fun (f : List Agreement → List Agreement) (y : Action) =>
      { y with agreements := f y.agreements }
    exact haction.trans <|
      (surrounds_agreements y [g, a]).comp fun (f : List Agreement → List Agreement) => f y.agreements
  · next g a ag =>
    obtain ⟨x, hx, h⟩ := Option.bind_eq_some_iff.mp h
    obtain ⟨y, hy, h⟩ := Option.bind_eq_some_iff.mp h
    obtain ⟨z, hz, rfl⟩ := Option.map_eq_some_iff.mp h
    have hagreement := (surrounds_agreement hx hy hz).comp fun (f : List Alert → List Alert) (z : Agreement) =>
      { z with alerts := f z.alerts }
    exact hagreement.trans <|
      (surrounds_alerts z [g, a, ag]).comp fun (f : List Alert → List Alert) => f z.alerts
  · next g =>
    obtain ⟨x, hx, rfl⟩ := Option.map_eq_some_iff.mp h
    have hgoal := (surrounds_goal hx).comp fun (f : List Result → List Result) (x : Goal) =>
      { x with results := f x.results }
    exact hgoal.trans ((surrounds_results x [g]).comp fun (f : List Result → List Result) => f x.results)
  · cases h

/-! ## What changes in a walk -/

/-- The rows of siblings, with one of them changed. -/
theorem rowsFrom_modify {xs : List kind.Record} {n : Nat} {x : kind.Record} (hx : xs[n]? = some x)
    (parent : Path) (k : kind.Record → kind.Record) :
    rowsFrom parent 0 (xs.modify n k) =
      rowsFrom parent 0 (xs.take n) ++ (k x).toNode.rows (parent ++ [(n : Int)]) ++
        rowsFrom parent (n + 1) (xs.drop (n + 1)) := by
  rw [rowsFrom, entriesFrom_modify hx, List.map_append, List.map_append]
  rfl

/-- The rows of siblings, with one more behind them. -/
theorem rowsFrom_concat (xs : List kind.Record) (x : kind.Record) (parent : Path) (i : Nat) :
    rowsFrom parent i (xs ++ [x]) =
      rowsFrom parent i xs ++ x.toNode.rows (parent ++ [((i + xs.length : Nat) : Int)]) := by
  rw [rowsFrom, entriesFrom_append, List.map_append, entriesFrom_cons, entriesFrom_nil, List.append_nil]
  rfl

/-- The rows of siblings, without one of them. -/
theorem rowsFrom_eraseIdx {xs : List kind.Record} {n : Nat} {x : kind.Record} (hx : xs[n]? = some x)
    (parent : Path) :
    rowsFrom parent 0 (xs.eraseIdx n) =
      rowsFrom parent 0 (xs.take n) ++
        (rowsFrom parent (n + 1) (xs.drop (n + 1))).map (Row.lower parent.length) := by
  rw [rowsFrom, entriesFrom_eraseIdx hx, List.map_append, lower_rowsFrom]
  rfl

/-- The rows of a plan, with those of a record and of what it owns between the others. -/
theorem rows_eq {n : Nat} {xs : List kind.Record} {x : kind.Record} {before after : List Row}
    (hrows : ∀ f, (p.overSiblings kind parent f).rows = before ++ rowsFrom parent 0 (f xs) ++ after)
    (hx : xs[n]? = some x) :
    p.rows =
      before ++ rowsFrom parent 0 (xs.take n) ++ x.toNode.rows (parent ++ [(n : Int)]) ++
        rowsFrom parent (n + 1) (xs.drop (n + 1)) ++ after := by
  have hwhole := hrows id
  have hsiblings := rowsFrom_modify hx parent id
  rw [List.modify_id] at hsiblings
  rw [overSiblings_id, id, hsiblings, id] at hwhole
  simpa only [List.append_assoc] using hwhole

/-- The rows without those of the record, for which those of its later siblings are counted anew. -/
theorem rows_erase_eq_append {n : Nat} {xs : List kind.Record} {x : kind.Record} {before after : List Row}
    (h : p.siblings? kind parent = some xs)
    (hrows : ∀ f, (p.overSiblings kind parent f).rows = before ++ rowsFrom parent 0 (f xs) ++ after)
    (hx : xs[n]? = some x) :
    (p.erase kind (parent ++ [(n : Int)])).rows =
      before ++ rowsFrom parent 0 (xs.take n) ++
        (rowsFrom parent (n + 1) (xs.drop (n + 1))).map (Row.lower parent.length) ++ after := by
  rw [erase_eq h, hrows, rowsFrom_eraseIdx hx]
  simp only [List.append_assoc]

/-- The rows with that of a new record behind its siblings. -/
theorem rows_append_eq {xs : List kind.Record} {before after : List Row} (h : p.siblings? kind parent = some xs)
    (hrows : ∀ f, (p.overSiblings kind parent f).rows = before ++ rowsFrom parent 0 (f xs) ++ after)
    (date d : String) :
    (p.append kind parent date d).rows =
      before ++ rowsFrom parent 0 xs ++ ⟨kind, parent ++ [(xs.length : Int)], date, d⟩ :: after := by
  rw [append_eq h, hrows, rowsFrom_concat, Record.rows_fresh, Nat.zero_add]
  simp only [List.append_assoc, List.singleton_append]

/-- **To remove a record takes its row out of the walk, and the rows of what it owns.** Under the siblings that
stand behind it the index at that level becomes lower by one; all other rows stay as they are. -/
theorem rows_erase {node : Node} (h : p.node? kind path = some node) :
    ∃ before later after,
      p.rows = before ++ node.rows path ++ later ++ after ∧
        (p.erase kind path).rows = before ++ later.map (Row.lower (kind.depth - 1)) ++ after := by
  have hlength := length_of_node? h
  obtain ⟨parent, n, xs, x, rfl, hsiblings, hx, rfl⟩ := exists_siblings h
  obtain ⟨before, after, hrows⟩ := surrounds_siblings hsiblings
  simp only at hrows
  have hlevel : kind.depth - 1 = parent.length := by
    rw [← hlength, List.length_append, List.length_singleton, Nat.add_sub_cancel]
  refine ⟨before ++ rowsFrom parent 0 (xs.take n), rowsFrom parent (n + 1) (xs.drop (n + 1)), after,
    rows_eq hrows hx, ?_⟩
  rw [rows_erase_eq_append hsiblings hrows hx, hlevel]

/-- **To add a record puts its row behind those of its siblings**; all rows of the plan stay as they are. -/
theorem rows_append {nodes : List Node} (h : p.children? kind parent = some nodes) (date d : String) :
    ∃ before path after,
      p.rows = before ++ after ∧ (p.append kind parent date d).rows = before ++ ⟨kind, path, date, d⟩ :: after := by
  obtain ⟨xs, hsiblings, -⟩ := exists_siblings_of_children? h
  obtain ⟨before, after, hrows⟩ := surrounds_siblings hsiblings
  simp only at hrows
  have hold := hrows id
  rw [overSiblings_id, id] at hold
  exact ⟨before ++ rowsFrom parent 0 xs, parent ++ [(xs.length : Int)], after, hold,
    rows_append_eq hsiblings hrows date d⟩

/-- **To describe a record anew changes the description in its row**, and nothing else in the walk. -/
theorem rows_describe {node : Node} (h : p.node? kind path = some node) (d : String) :
    ∃ before after,
      p.rows = before ++ ⟨kind, path, node.date, node.description⟩ :: after ∧
        (p.describe kind path d).rows = before ++ ⟨kind, path, node.date, d⟩ :: after := by
  obtain ⟨parent, n, xs, x, rfl, hsiblings, hx, rfl⟩ := exists_siblings h
  obtain ⟨before, after, hrows⟩ := surrounds_siblings hsiblings
  simp only at hrows
  obtain ⟨owned, hold, hnew⟩ := x.rows_describe d (parent ++ [(n : Int)])
  refine ⟨before ++ rowsFrom parent 0 (xs.take n),
    owned ++ rowsFrom parent (n + 1) (xs.drop (n + 1)) ++ after, ?_, ?_⟩
  · rw [rows_eq hrows hx, hold]
    simp only [List.append_assoc, List.cons_append]
  · rw [describe_eq hsiblings, hrows, rowsFrom_modify hx, hnew]
    simp only [List.append_assoc, List.cons_append]

/-- **A plan is the same with another description of a record if and only if it is no other description.** -/
theorem describe_eq_self_iff {node : Node} (h : p.node? kind path = some node) {d : String} :
    p.describe kind path d = p ↔ d = node.description := by
  constructor
  · intro hsame
    obtain ⟨before, after, hold, hnew⟩ := rows_describe h d
    rw [hsame, hold] at hnew
    have hrow := (List.cons.inj (List.append_cancel_left hnew)).1
    exact (Row.mk.inj hrow).2.2.2.symm
  · rintro rfl
    obtain ⟨parent, n, xs, x, rfl, hsiblings, hx, rfl⟩ := exists_siblings h
    have hself : x.describe x.toNode.description = x := by
      cases kind with
      | goal | action | agreement | alert | result => rfl
    rw [describe_eq hsiblings]
    refine (overSiblings_congr hsiblings (k := id) ?_).trans (p.overSiblings_id kind parent)
    exact (modify_congr hx (k := id) hself).trans (List.modify_id n xs)

/-! ## What stays -/

/-- A change of a list of siblings changes goals only. -/
theorem get_overSiblings (p : Plan) (kind : Kind) (parent : Path) (f : List kind.Record → List kind.Record)
    (field : Field) : (p.overSiblings kind parent f).get field = p.get field := by
  have hgoals : ∃ goals, p.overSiblings kind parent f = { p with goals := goals } := by
    unfold overSiblings
    split
    · exact ⟨_, rfl⟩
    · exact ⟨_, rfl⟩
    · exact ⟨_, rfl⟩
    · exact ⟨_, rfl⟩
    · exact ⟨_, rfl⟩
    · exact ⟨p.goals, rfl⟩
  obtain ⟨goals, hgoals⟩ := hgoals
  rw [hgoals]
  cases field with
  | firstname | lastname | birthday | address | zip | city | country | state | telephone | mobile | email
  | date | about => rfl

/-- A removal leaves the personal data, the birthday and the date. -/
theorem get_erase {node : Node} (h : p.node? kind path = some node) (field : Field) :
    (p.erase kind path).get field = p.get field := by
  obtain ⟨parent, n, xs, x, rfl, hsiblings, -, -⟩ := exists_siblings h
  rw [erase_eq hsiblings, get_overSiblings]

/-- So does another description. -/
theorem get_describe {node : Node} (h : p.node? kind path = some node) (d : String) (field : Field) :
    (p.describe kind path d).get field = p.get field := by
  obtain ⟨parent, n, xs, x, rfl, hsiblings, -, -⟩ := exists_siblings h
  rw [describe_eq hsiblings, get_overSiblings]

/-- From one plan to another, the record of an entry was removed with what it owned, and nothing else was
changed. -/
structure Loses (p : Plan) (e : Entry) (q : Plan) : Prop where
  fields : ∀ field, q.get field = p.get field
  rows : ∃ before later after,
    p.rows = before ++ e.node.rows e.path ++ later ++ after ∧
      q.rows = before ++ later.map (Row.lower (e.kind.depth - 1)) ++ after

/-- From one plan to another, the record of an entry got another description, and nothing else was changed. -/
structure Renames (p : Plan) (e : Entry) (d : String) (q : Plan) : Prop where
  fields : ∀ field, q.get field = p.get field
  rows : ∃ before after,
    p.rows = before ++ e.row :: after ∧ q.rows = before ++ { e.row with description := d } :: after

/-- **A record that is removed is all that is lost**, with what it owns. -/
theorem loses_erase {e : Entry} (h : p.node? e.kind e.path = some e.node) :
    p.Loses e (p.erase e.kind e.path) := ⟨get_erase h, rows_erase h⟩

/-- **A record that is described anew is all that is renamed.** -/
theorem renames_describe {e : Entry} (h : p.node? e.kind e.path = some e.node) (d : String) :
    p.Renames e d (p.describe e.kind e.path d) := ⟨get_describe h d, rows_describe h d⟩

end Plan

end LifePlan
