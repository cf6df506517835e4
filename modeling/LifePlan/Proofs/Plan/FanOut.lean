import LifePlan.Proofs.Plan.Edit

/-!
# How wide a plan can become

`Plan.Within m` bounds every list of records in a plan, at every level, by `m`. `Plan.Heir p q` says what can
have become of a plan `p` by editing: each list of `q` holds records that were in the list before, in their
order, and behind them new ones, and it is no longer than the list was or than records may be added
(`Tended`). A record keeps its date, which tells it from the others.

To be an heir is transitive (`Plan.Heir.trans`), each of the three edits makes one (`Plan.heir_edit`), and an
heir stays within every bound that is not below the one for additions (`Plan.Heir.within`). So a list that is
too long can only become shorter.
-/

namespace LifePlan

/-! ## Bounds -/

/-- At most `m` alerts. -/
def Agreement.Within (m : Nat) (x : Agreement) : Prop := x.alerts.length ≤ m

/-- At most `m` agreements, and each of them within the bound. -/
def Action.Within (m : Nat) (x : Action) : Prop :=
  x.agreements.length ≤ m ∧ ∀ y ∈ x.agreements, y.Within m

/-- At most `m` actions and `m` results, and each action within the bound. -/
def Goal.Within (m : Nat) (x : Goal) : Prop :=
  (x.actions.length ≤ m ∧ ∀ y ∈ x.actions, y.Within m) ∧ x.results.length ≤ m

/-- At most `m` goals, and each of them within the bound. -/
def Plan.Within (m : Nat) (p : Plan) : Prop := p.goals.length ≤ m ∧ ∀ x ∈ p.goals, x.Within m

instance (m : Nat) (x : Agreement) : Decidable (x.Within m) :=
  inferInstanceAs (Decidable (x.alerts.length ≤ m))

instance (m : Nat) (x : Action) : Decidable (x.Within m) :=
  inferInstanceAs (Decidable (x.agreements.length ≤ m ∧ ∀ y ∈ x.agreements, y.Within m))

instance (m : Nat) (x : Goal) : Decidable (x.Within m) :=
  inferInstanceAs
    (Decidable ((x.actions.length ≤ m ∧ ∀ y ∈ x.actions, y.Within m) ∧ x.results.length ≤ m))

instance (m : Nat) (p : Plan) : Decidable (p.Within m) :=
  inferInstanceAs (Decidable (p.goals.length ≤ m ∧ ∀ x ∈ p.goals, x.Within m))

/-! ## Lists that are edited -/

section tended

variable {α : Type} {Heir : α → α → Prop} {New : α → Prop} {x y : α} {xs ys zs : List α}

/-- A list goes on from another one: of its records some are gone, the others have heirs in the same order,
and new records stand behind them. -/
inductive GoesOn (Heir : α → α → Prop) (New : α → Prop) : List α → List α → Prop
  | new {ys : List α} (h : ∀ y ∈ ys, New y) : GoesOn Heir New [] ys
  | kept {x y : α} {xs ys : List α} (h : Heir x y) (hrest : GoesOn Heir New xs ys) :
      GoesOn Heir New (x :: xs) (y :: ys)
  | gone {x : α} {xs ys : List α} (hrest : GoesOn Heir New xs ys) : GoesOn Heir New (x :: xs) ys

/-- A list that goes on as it is. -/
theorem GoesOn.refl (hrefl : ∀ x, Heir x x) (xs : List α) : GoesOn Heir New xs xs := by
  induction xs with
  | nil => exact .new fun _ hy => absurd hy List.not_mem_nil
  | cons x xs ih => exact .kept (hrefl x) ih

/-- New records stay new ones. -/
theorem GoesOn.forall_new (hnew : ∀ x y, New x → Heir x y → New y) (h : GoesOn Heir New xs ys)
    (hxs : ∀ x ∈ xs, New x) : ∀ y ∈ ys, New y := by
  induction h with
  | new h => exact h
  | kept h hrest ih =>
    rw [List.forall_mem_cons] at hxs ⊢
    exact ⟨hnew _ _ hxs.1 h, ih hxs.2⟩
  | gone hrest ih => exact ih (List.forall_mem_cons.mp hxs).2

/-- A list that goes on twice goes on. -/
theorem GoesOn.trans (htrans : ∀ x y z, Heir x y → Heir y z → Heir x z)
    (hnew : ∀ x y, New x → Heir x y → New y) (h : GoesOn Heir New xs ys) (h' : GoesOn Heir New ys zs) :
    GoesOn Heir New xs zs := by
  induction h generalizing zs with
  | new h => exact .new (h'.forall_new hnew h)
  | kept h hrest ih =>
    cases h' with
    | kept hheir hrest' => exact .kept (htrans _ _ _ h hheir) (ih hrest')
    | gone hrest' => exact .gone (ih hrest')
  | gone hrest ih => exact .gone (ih h')

/-- A new record behind the others. -/
theorem GoesOn.concat (hrefl : ∀ x, Heir x x) (hy : New y) (xs : List α) :
    GoesOn Heir New xs (xs ++ [y]) := by
  induction xs with
  | nil => exact .new fun z hz => List.mem_singleton.mp hz ▸ hy
  | cons x xs ih => exact .kept (hrefl x) ih

/-- One record is gone. -/
theorem GoesOn.eraseIdx (hrefl : ∀ x, Heir x x) (xs : List α) (i : Nat) :
    GoesOn Heir New xs (xs.eraseIdx i) := by
  induction xs generalizing i with
  | nil => exact GoesOn.refl hrefl []
  | cons x xs ih =>
    rcases i with _ | i
    · exact .gone (GoesOn.refl hrefl xs)
    · exact .kept (hrefl x) (ih i)

/-- One record is changed. -/
theorem GoesOn.modify (hrefl : ∀ x, Heir x x) {f : α → α} {i : Nat}
    (h : ∀ x, xs[i]? = some x → Heir x (f x)) : GoesOn Heir New xs (xs.modify i f) := by
  induction xs generalizing i with
  | nil =>
    rw [List.modify_nil]
    exact GoesOn.refl hrefl []
  | cons x xs ih =>
    rcases i with _ | i
    · rw [List.modify_zero_cons]
      exact .kept (h x rfl) (GoesOn.refl hrefl xs)
    · rw [List.modify_succ_cons]
      exact .kept (hrefl x) (ih h)

/-- What holds of a list and of new records, and is handed on to heirs, holds of the list that goes on. -/
theorem GoesOn.forall_mem {P : α → Prop} (hheir : ∀ x y, P x → Heir x y → P y) (hnew : ∀ y, New y → P y)
    (h : GoesOn Heir New xs ys) (hxs : ∀ x ∈ xs, P x) : ∀ y ∈ ys, P y := by
  induction h with
  | new h => exact fun y hy => hnew y (h y hy)
  | kept h hrest ih =>
    rw [List.forall_mem_cons] at hxs ⊢
    exact ⟨hheir _ _ hxs.1 h, ih hxs.2⟩
  | gone hrest ih => exact ih (List.forall_mem_cons.mp hxs).2

/-- What editing makes of a list of records: it goes on, and it is no longer than it was, or than records may
be added. -/
structure Tended (Heir : α → α → Prop) (New : α → Prop) (xs ys : List α) : Prop where
  goesOn : GoesOn Heir New xs ys
  length_le : ys.length ≤ max maxChildren xs.length

namespace Tended

/-- A list as it is. -/
theorem refl (hrefl : ∀ x, Heir x x) (xs : List α) : Tended Heir New xs xs :=
  ⟨GoesOn.refl hrefl xs, Nat.le_max_right _ _⟩

/-- What is tended twice is tended. -/
theorem trans (htrans : ∀ x y z, Heir x y → Heir y z → Heir x z)
    (hnew : ∀ x y, New x → Heir x y → New y) (h : Tended Heir New xs ys) (h' : Tended Heir New ys zs) :
    Tended Heir New xs zs := by
  have hys := h.length_le
  have hzs := h'.length_le
  exact ⟨h.goesOn.trans htrans hnew h'.goesOn, by omega⟩

/-- A record is added where there is room. -/
theorem concat (hrefl : ∀ x, Heir x x) (hy : New y) (hroom : xs.length < maxChildren) :
    Tended Heir New xs (xs ++ [y]) := by
  refine ⟨.concat hrefl hy xs, ?_⟩
  rw [List.length_append, List.length_singleton]
  omega

/-- A record is removed. -/
theorem eraseIdx (hrefl : ∀ x, Heir x x) (xs : List α) (i : Nat) : Tended Heir New xs (xs.eraseIdx i) :=
  ⟨.eraseIdx hrefl xs i, Nat.le_trans (List.length_eraseIdx_le xs i) (Nat.le_max_right _ _)⟩

/-- A record is changed. -/
theorem modify (hrefl : ∀ x, Heir x x) {f : α → α} {i : Nat} (h : ∀ x, xs[i]? = some x → Heir x (f x)) :
    Tended Heir New xs (xs.modify i f) := by
  refine ⟨.modify hrefl h, ?_⟩
  rw [List.length_modify]
  exact Nat.le_max_right _ _

/-- A bound on the length that is not below the one for additions is kept. -/
theorem length_le_of_le {m : Nat} (hm : maxChildren ≤ m) (h : Tended Heir New xs ys) (hxs : xs.length ≤ m) :
    ys.length ≤ m := by
  have hys := h.length_le
  omega

end Tended

end tended

/-! ## Records and their heirs -/

/-- Any record may be new where records own no others. -/
def Leaf {α : Type} (_ : α) : Prop := True

/-- What editing makes of an alert. -/
def Alert.Heir (x y : Alert) : Prop := y.date = x.date

/-- What editing makes of a result. -/
def Result.Heir (x y : Result) : Prop := y.date = x.date

/-- What editing makes of an agreement. -/
structure Agreement.Heir (x y : Agreement) : Prop where
  date : y.date = x.date
  alerts : Tended Alert.Heir Leaf x.alerts y.alerts

/-- What editing makes of an action. -/
structure Action.Heir (x y : Action) : Prop where
  date : y.date = x.date
  agreements : Tended Agreement.Heir (Agreement.Within maxChildren) x.agreements y.agreements

/-- What editing makes of a goal. -/
structure Goal.Heir (x y : Goal) : Prop where
  date : y.date = x.date
  actions : Tended Action.Heir (Action.Within maxChildren) x.actions y.actions
  results : Tended Result.Heir Leaf x.results y.results

/-- What editing makes of a plan. -/
def Plan.Heir (p q : Plan) : Prop := Tended Goal.Heir (Goal.Within maxChildren) p.goals q.goals

/-! ### Within bounds -/

section within

variable {m : Nat}

/-- An agreement's heir stays within a bound. -/
theorem Agreement.Heir.within (hm : maxChildren ≤ m) {x y : Agreement} (hx : x.Within m) (h : Heir x y) :
    y.Within m := h.alerts.length_le_of_le hm hx

/-- An action's heir stays within a bound. -/
theorem Action.Heir.within (hm : maxChildren ≤ m) {x y : Action} (hx : x.Within m) (h : Heir x y) :
    y.Within m := by
  refine ⟨h.agreements.length_le_of_le hm hx.1, ?_⟩
  exact h.agreements.goesOn.forall_mem (fun _ _ => Agreement.Heir.within hm)
    (fun y hy => Nat.le_trans hy hm) hx.2

/-- A bound may be raised. -/
theorem Action.Within.mono {n : Nat} (hmn : m ≤ n) {x : Action} (h : x.Within m) : x.Within n :=
  ⟨Nat.le_trans h.1 hmn, fun y hy => Nat.le_trans (h.2 y hy) hmn⟩

/-- An action without agreements is within every bound. -/
theorem Action.within_of_nil {x : Action} (h : x.agreements = []) : x.Within m := by
  rw [Within, h]
  exact ⟨Nat.zero_le m, fun _ hy => absurd hy List.not_mem_nil⟩

/-- A goal's heir stays within a bound. -/
theorem Goal.Heir.within (hm : maxChildren ≤ m) {x y : Goal} (hx : x.Within m) (h : Heir x y) :
    y.Within m := by
  refine ⟨⟨h.actions.length_le_of_le hm hx.1.1, ?_⟩, h.results.length_le_of_le hm hx.2⟩
  exact h.actions.goesOn.forall_mem (fun _ _ => Action.Heir.within hm) (fun y hy => hy.mono hm) hx.1.2

/-- A bound may be raised. -/
theorem Goal.Within.mono {n : Nat} (hmn : m ≤ n) {x : Goal} (h : x.Within m) : x.Within n :=
  ⟨⟨Nat.le_trans h.1.1 hmn, fun y hy => (h.1.2 y hy).mono hmn⟩, Nat.le_trans h.2 hmn⟩

/-- A goal without actions and results is within every bound. -/
theorem Goal.within_of_nil {x : Goal} (hactions : x.actions = []) (hresults : x.results = []) :
    x.Within m := by
  rw [Within, hactions, hresults]
  exact ⟨⟨Nat.zero_le m, fun _ hy => absurd hy List.not_mem_nil⟩, Nat.zero_le m⟩

/-- **An heir of a plan stays within every bound** that is not below the one for additions. -/
theorem Plan.Heir.within (hm : maxChildren ≤ m) {p q : Plan} (hp : p.Within m) (h : p.Heir q) :
    q.Within m := by
  refine ⟨Tended.length_le_of_le hm h hp.1, ?_⟩
  exact h.goesOn.forall_mem (fun _ _ => Goal.Heir.within hm) (fun y hy => hy.mono hm) hp.2

end within

/-! ### Order -/

/-- Every record is its own heir. -/
theorem Alert.Heir.refl (x : Alert) : Heir x x := rfl

theorem Result.Heir.refl (x : Result) : Heir x x := rfl

theorem Agreement.Heir.refl (x : Agreement) : Heir x x := ⟨rfl, Tended.refl Alert.Heir.refl _⟩

theorem Action.Heir.refl (x : Action) : Heir x x := ⟨rfl, Tended.refl Agreement.Heir.refl _⟩

theorem Goal.Heir.refl (x : Goal) : Heir x x :=
  ⟨rfl, Tended.refl Action.Heir.refl _, Tended.refl Result.Heir.refl _⟩

/-- A plan is its own heir. -/
theorem Plan.Heir.refl (p : Plan) : Heir p p := Tended.refl Goal.Heir.refl _

/-- The heir of an heir is an heir. -/
theorem Alert.Heir.trans {x y z : Alert} (h : Heir x y) (h' : Heir y z) : Heir x z := Eq.trans h' h

theorem Result.Heir.trans {x y z : Result} (h : Heir x y) (h' : Heir y z) : Heir x z := Eq.trans h' h

theorem Agreement.Heir.trans {x y z : Agreement} (h : Heir x y) (h' : Heir y z) : Heir x z :=
  ⟨h'.date.trans h.date,
    h.alerts.trans (fun _ _ _ => Alert.Heir.trans) (fun _ _ _ _ => trivial) h'.alerts⟩

theorem Action.Heir.trans {x y z : Action} (h : Heir x y) (h' : Heir y z) : Heir x z :=
  ⟨h'.date.trans h.date,
    h.agreements.trans (fun _ _ _ => Agreement.Heir.trans)
      (fun _ _ => Agreement.Heir.within (Nat.le_refl _)) h'.agreements⟩

theorem Goal.Heir.trans {x y z : Goal} (h : Heir x y) (h' : Heir y z) : Heir x z :=
  ⟨h'.date.trans h.date,
    h.actions.trans (fun _ _ _ => Action.Heir.trans) (fun _ _ => Action.Heir.within (Nat.le_refl _))
      h'.actions,
    h.results.trans (fun _ _ _ => Result.Heir.trans) (fun _ _ _ _ => trivial) h'.results⟩

/-- **The heir of a plan's heir is its heir.** -/
theorem Plan.Heir.trans {p q r : Plan} (h : Heir p q) (h' : Heir q r) : Heir p r :=
  Tended.trans (fun _ _ _ => Goal.Heir.trans) (fun _ _ => Goal.Heir.within (Nat.le_refl _)) h h'

/-! ## Edits make heirs -/

namespace Plan

variable {p : Plan} {kind : Kind} {path : Path}

/-- To change a goal into an heir makes an heir of the plan. -/
theorem heir_modifyGoal {g : Int} {f : Goal → Goal}
    (h : ∀ goal, p.goals[g.toNat]? = some goal → goal.Heir (f goal)) : p.Heir (p.modifyGoal g f) :=
  Tended.modify Goal.Heir.refl h

/-- To change an action into an heir makes an heir of the plan. -/
theorem heir_modifyAction {g a : Int} {f : Action → Action}
    (h : ∀ goal, p.goals[g.toNat]? = some goal → ∀ action, goal.actions[a.toNat]? = some action →
      action.Heir (f action)) : p.Heir (p.modifyAction g a f) := by
  refine heir_modifyGoal fun goal hgoal => ⟨rfl, ?_, Tended.refl Result.Heir.refl _⟩
  exact Tended.modify Action.Heir.refl (h goal hgoal)

/-- To change an agreement into an heir makes an heir of the plan. -/
theorem heir_modifyAgreement {g a ag : Int} {f : Agreement → Agreement}
    (h : ∀ goal, p.goals[g.toNat]? = some goal → ∀ action, goal.actions[a.toNat]? = some action →
      ∀ agreement, action.agreements[ag.toNat]? = some agreement → agreement.Heir (f agreement)) :
    p.Heir (p.modifyAgreement g a ag f) := by
  refine heir_modifyAction fun goal hgoal action haction => ⟨rfl, ?_⟩
  exact Tended.modify Agreement.Heir.refl (h goal hgoal action haction)

/-- What is found at an index is the element with the number of that index. -/
theorem getElem?_of_at? {α : Type} {xs : List α} {i : Int} {x : α} (h : at? xs i = some x) :
    xs[i.toNat]? = some x := by
  cases i with
  | ofNat n => exact h
  | negSucc n => cases h

/-- To change the goal that is found at an index. -/
theorem heir_modifyGoal_of_at? {g : Int} {goal : Goal} (hgoal : at? p.goals g = some goal) {f : Goal → Goal}
    (h : goal.Heir (f goal)) : p.Heir (p.modifyGoal g f) := by
  refine heir_modifyGoal fun goal' hgoal' => ?_
  obtain rfl := Option.some.inj ((getElem?_of_at? hgoal).symm.trans hgoal')
  exact h

/-- To change the action that is found at two indices. -/
theorem heir_modifyAction_of_at? {g a : Int} {goal : Goal} {action : Action}
    (hgoal : at? p.goals g = some goal) (haction : at? goal.actions a = some action) {f : Action → Action}
    (h : action.Heir (f action)) : p.Heir (p.modifyAction g a f) := by
  refine heir_modifyAction fun goal' hgoal' action' haction' => ?_
  obtain rfl := Option.some.inj ((getElem?_of_at? hgoal).symm.trans hgoal')
  obtain rfl := Option.some.inj ((getElem?_of_at? haction).symm.trans haction')
  exact h

/-- To change the agreement that is found at three indices. -/
theorem heir_modifyAgreement_of_at? {g a ag : Int} {goal : Goal} {action : Action} {agreement : Agreement}
    (hgoal : at? p.goals g = some goal) (haction : at? goal.actions a = some action)
    (hagreement : at? action.agreements ag = some agreement) {f : Agreement → Agreement}
    (h : agreement.Heir (f agreement)) : p.Heir (p.modifyAgreement g a ag f) := by
  refine heir_modifyAgreement fun goal' hgoal' action' haction' agreement' hagreement' => ?_
  obtain rfl := Option.some.inj ((getElem?_of_at? hgoal).symm.trans hgoal')
  obtain rfl := Option.some.inj ((getElem?_of_at? haction).symm.trans haction')
  obtain rfl := Option.some.inj ((getElem?_of_at? hagreement).symm.trans hagreement')
  exact h

/-- To add a record where there is room makes an heir. -/
theorem heir_append {siblings : List Node} (h : p.children? kind path = some siblings)
    (hroom : siblings.length < maxChildren) (date description : String) :
    p.Heir (p.append kind path date description) := by
  unfold children? at h
  split at h
  · cases h
    rw [List.length_map] at hroom
    exact Tended.concat Goal.Heir.refl (Goal.within_of_nil rfl rfl) hroom
  · obtain ⟨goal, hgoal, hsiblings⟩ := Option.bind_eq_some_iff.mp h
    cases hsiblings
    rw [List.length_map] at hroom
    refine heir_modifyGoal_of_at? hgoal ⟨rfl, ?_, Tended.refl Result.Heir.refl _⟩
    exact Tended.concat Action.Heir.refl (Action.within_of_nil rfl) hroom
  · obtain ⟨goal, hgoal, h⟩ := Option.bind_eq_some_iff.mp h
    obtain ⟨action, haction, hsiblings⟩ := Option.bind_eq_some_iff.mp h
    cases hsiblings
    rw [List.length_map] at hroom
    refine heir_modifyAction_of_at? hgoal haction ⟨rfl, ?_⟩
    exact Tended.concat Agreement.Heir.refl (Nat.zero_le _) hroom
  · obtain ⟨goal, hgoal, h⟩ := Option.bind_eq_some_iff.mp h
    obtain ⟨action, haction, h⟩ := Option.bind_eq_some_iff.mp h
    obtain ⟨agreement, hagreement, hsiblings⟩ := Option.bind_eq_some_iff.mp h
    cases hsiblings
    rw [List.length_map] at hroom
    refine heir_modifyAgreement_of_at? hgoal haction hagreement ⟨rfl, ?_⟩
    exact Tended.concat Alert.Heir.refl trivial hroom
  · obtain ⟨goal, hgoal, hsiblings⟩ := Option.bind_eq_some_iff.mp h
    cases hsiblings
    rw [List.length_map] at hroom
    refine heir_modifyGoal_of_at? hgoal ⟨rfl, Tended.refl Action.Heir.refl _, ?_⟩
    exact Tended.concat Result.Heir.refl trivial hroom
  · cases h

/-- To describe a record makes an heir. -/
theorem heir_describe (p : Plan) (kind : Kind) (path : Path) (description : String) :
    p.Heir (p.describe kind path description) := by
  unfold describe
  split
  · exact heir_modifyGoal fun goal _ =>
      ⟨rfl, Tended.refl Action.Heir.refl _, Tended.refl Result.Heir.refl _⟩
  · exact heir_modifyAction fun _ _ action _ => ⟨rfl, Tended.refl Agreement.Heir.refl _⟩
  · exact heir_modifyAgreement fun _ _ _ _ agreement _ => ⟨rfl, Tended.refl Alert.Heir.refl _⟩
  · exact heir_modifyAgreement fun _ _ _ _ agreement _ =>
      ⟨rfl, Tended.modify Alert.Heir.refl fun _ _ => rfl⟩
  · exact heir_modifyGoal fun goal _ =>
      ⟨rfl, Tended.refl Action.Heir.refl _, Tended.modify Result.Heir.refl fun _ _ => rfl⟩
  · exact Heir.refl p

/-- To remove a record makes an heir. -/
theorem heir_erase (p : Plan) (kind : Kind) (path : Path) : p.Heir (p.erase kind path) := by
  unfold erase
  split
  · exact Tended.eraseIdx Goal.Heir.refl _ _
  · exact heir_modifyGoal fun goal _ =>
      ⟨rfl, Tended.eraseIdx Action.Heir.refl _ _, Tended.refl Result.Heir.refl _⟩
  · exact heir_modifyAction fun _ _ action _ => ⟨rfl, Tended.eraseIdx Agreement.Heir.refl _ _⟩
  · exact heir_modifyAgreement fun _ _ _ _ agreement _ => ⟨rfl, Tended.eraseIdx Alert.Heir.refl _ _⟩
  · exact heir_modifyGoal fun goal _ =>
      ⟨rfl, Tended.refl Action.Heir.refl _, Tended.eraseIdx Result.Heir.refl _ _⟩
  · exact Heir.refl p

/-- **An edit makes an heir.** -/
theorem heir_edit {q : Plan} {clock clock' : Clock} {command : Command} {description : String}
    (h : p.edit clock command kind path description = .ok (q, clock')) : p.Heir q := by
  rcases edit_cases h with ⟨-, siblings, hsiblings, hroom, rfl, -⟩ | ⟨-, -, rfl, -⟩ | ⟨-, -, rfl, -⟩
  · exact heir_append hsiblings hroom clock.now description
  · exact heir_describe p kind path description
  · exact heir_erase p kind path

end Plan

end LifePlan
