import LifePlan.Proofs.Plan.FanOut
import LifePlan.Proofs.Plan.Walk

/-!
# A plan is made of its records

The records of a plan, added one after the other in the order of a walk, make the plan again, apart from the
dates (`Plan.grows_walk`): whenever the turn of a record comes, its parent is already at the place that the
path names, and there is room under it if no list of the plan is too long. `Plan.Grows` says this of a list of
entries, on plans whose dates are left out. That the dates can be left out is `Plan.undated_append` and
`Plan.children?_undated`.
-/

namespace LifePlan

/-! ## Records without dates -/

/-- The alert without its date. -/
def Alert.undated (x : Alert) : Alert := { x with date := "" }

/-- The result without its date. -/
def Result.undated (x : Result) : Result := { x with date := "" }

/-- The agreement without dates, its alerts' included. -/
def Agreement.undated (x : Agreement) : Agreement :=
  { x with date := "", alerts := x.alerts.map Alert.undated }

/-- The action without dates, those of all that it owns included. -/
def Action.undated (x : Action) : Action :=
  { x with date := "", agreements := x.agreements.map Agreement.undated }

/-- The goal without dates, those of all that it owns included. -/
def Goal.undated (x : Goal) : Goal :=
  { x with date := "", actions := x.actions.map Action.undated, results := x.results.map Result.undated }

/-- The plan with goals without dates. -/
def Plan.undated (p : Plan) : Plan := { p with goals := p.goals.map Goal.undated }

/-! ## Lists -/

section lists

variable {α β : Type}

/-- What is found in a list that is mapped. -/
theorem at?_map (f : α → β) (xs : List α) (i : Int) : at? (xs.map f) i = (at? xs i).map f := by
  cases i with
  | ofNat n => exact List.getElem?_map
  | negSucc n => rfl

/-- An index at which something is found is below every bound of the list's length. -/
theorem bounds_of_at? {xs : List α} {i : Int} {x : α} {m : Nat} (h : at? xs i = some x)
    (hlength : xs.length ≤ m) : 0 ≤ i ∧ i < m := by
  obtain ⟨hnonneg, hlt⟩ := (isSome_at?_iff xs i).mp (by rw [h]; rfl)
  exact ⟨hnonneg, by omega⟩

/-- What is found at an index is in the list. -/
theorem mem_of_at? {xs : List α} {i : Int} {x : α} (h : at? xs i = some x) : x ∈ xs :=
  List.mem_of_getElem? (Plan.getElem?_of_at? h)

/-- To change the last element leaves the others as they are. -/
theorem modify_concat_length (xs : List α) (x : α) (f : α → α) :
    (xs ++ [x]).modify xs.length f = xs ++ [f x] :=
  modify_append_cons xs x [] f

/-- To change an element and map the list is to map the list and change the element that it has then. -/
theorem map_modify {f : α → β} {g : α → α} {h : β → β} (hcomm : ∀ x, f (g x) = h (f x)) (xs : List α)
    (i : Nat) : (xs.modify i g).map f = (xs.map f).modify i h := by
  induction xs generalizing i with
  | nil => rw [List.modify_nil, List.map_nil, List.modify_nil]
  | cons x xs ih =>
    rcases i with _ | i
    · rw [List.modify_zero_cons, List.map_cons, List.map_cons, List.modify_zero_cons, hcomm]
    · rw [List.modify_succ_cons, List.map_cons, List.map_cons, List.modify_succ_cons, ih]

end lists

namespace Plan

variable {p q r : Plan} {kind : Kind} {path : Path}

/-! ## Additions without dates -/

/-- A goal is changed with or without dates. -/
theorem undated_modifyGoal {f g : Goal → Goal} (h : ∀ x, (f x).undated = g x.undated) (p : Plan) (i : Int) :
    (p.modifyGoal i f).undated = p.undated.modifyGoal i g := by
  simp only [undated, modifyGoal, map_modify h]

/-- So is an action. -/
theorem undated_modifyAction {f g : Action → Action} (h : ∀ x, (f x).undated = g x.undated) (p : Plan)
    (i j : Int) : (p.modifyAction i j f).undated = p.undated.modifyAction i j g := by
  refine undated_modifyGoal (fun x => ?_) p i
  simp only [Goal.modifyAction, Goal.undated, map_modify h]

/-- So is an agreement. -/
theorem undated_modifyAgreement {f g : Agreement → Agreement} (h : ∀ x, (f x).undated = g x.undated) (p : Plan)
    (i j k : Int) : (p.modifyAgreement i j k f).undated = p.undated.modifyAgreement i j k g := by
  refine undated_modifyAction (fun x => ?_) p i j
  simp only [Action.modifyAgreement, Action.undated, map_modify h]

/-- **A record is added with or without dates.** -/
theorem undated_append (p : Plan) (kind : Kind) (path : Path) (date description : String) :
    (p.append kind path date description).undated = p.undated.append kind path "" description := by
  unfold append
  split
  · simp [undated, Goal.undated]
  · exact undated_modifyGoal (fun x => by simp [Goal.undated, Action.undated]) p _
  · exact undated_modifyAction (fun x => by simp [Action.undated, Agreement.undated]) p _ _
  · exact undated_modifyAgreement (fun x => by simp [Agreement.undated, Alert.undated]) p _ _ _
  · exact undated_modifyGoal (fun x => by simp [Goal.undated, Result.undated]) p _
  · rfl

/-- **There are as many records under a parent with or without dates.** -/
theorem children?_undated (p : Plan) (kind : Kind) (path : Path) :
    (p.undated.children? kind path).map List.length = (p.children? kind path).map List.length := by
  unfold children?
  split
  · simp [undated]
  · simp [undated, Goal.undated, at?_map, Option.map_bind, Option.bind_map, Function.comp_def]
  · simp [undated, Goal.undated, Action.undated, at?_map, Option.map_bind, Option.bind_map, Function.comp_def]
  · simp [undated, Goal.undated, Action.undated, Agreement.undated, at?_map, Option.map_bind,
      Option.bind_map, Function.comp_def]
  · simp [undated, Goal.undated, at?_map, Option.map_bind, Option.bind_map, Function.comp_def]
  · rfl

/-- The indices of a parent that is there are below the bound of the lists. -/
theorem bounds_of_children? {m : Nat} (hp : p.Within m) {siblings : List Node}
    (h : p.children? kind path = some siblings) : ∀ i ∈ path, 0 ≤ i ∧ i < m := by
  unfold children? at h
  split at h
  · exact fun i hi => absurd hi List.not_mem_nil
  · obtain ⟨goal, hgoal, -⟩ := Option.bind_eq_some_iff.mp h
    simpa using bounds_of_at? hgoal hp.1
  · obtain ⟨goal, hgoal, h⟩ := Option.bind_eq_some_iff.mp h
    obtain ⟨action, haction, -⟩ := Option.bind_eq_some_iff.mp h
    have hactions := (hp.2 goal (mem_of_at? hgoal)).1
    simpa using ⟨bounds_of_at? hgoal hp.1, bounds_of_at? haction hactions.1⟩
  · obtain ⟨goal, hgoal, h⟩ := Option.bind_eq_some_iff.mp h
    obtain ⟨action, haction, h⟩ := Option.bind_eq_some_iff.mp h
    obtain ⟨agreement, hagreement, -⟩ := Option.bind_eq_some_iff.mp h
    have hactions := (hp.2 goal (mem_of_at? hgoal)).1
    have hagreements := hactions.2 action (mem_of_at? haction)
    simpa using ⟨bounds_of_at? hgoal hp.1, bounds_of_at? haction hactions.1,
      bounds_of_at? hagreement hagreements.1⟩
  · obtain ⟨goal, hgoal, -⟩ := Option.bind_eq_some_iff.mp h
    simpa using bounds_of_at? hgoal hp.1
  · cases h

/-! ## Growing -/

/-- A plan grows by the records of some entries, added without dates one after the other: whenever the turn of
one comes, its parent is there and has room for it. -/
inductive Grows : Plan → List Entry → Plan → Prop
  | done (p : Plan) : Grows p [] p
  | step {p q r : Plan} {e : Entry} {es : List Entry} {siblings : List Node}
      (hparent : p.children? e.kind e.path.dropLast = some siblings) (hroom : siblings.length < maxChildren)
      (hadded : p.append e.kind e.path.dropLast "" e.node.description = q) (hrest : Grows q es r) :
      Grows p (e :: es) r

/-- A plan that has grown grows on. -/
theorem Grows.trans {es fs : List Entry} (h : Grows p es q) (h' : Grows q fs r) : Grows p (es ++ fs) r := by
  induction h with
  | done => exact h'
  | step hparent hroom hadded hrest ih => exact .step hparent hroom hadded (ih h')

section siblings

variable {α : Type} {f : Path → α → List Entry} {undated : α → α} (build : List α → Plan) {P : α → Prop}

/-- A plan grows by a list of siblings, given how it grows by one of them behind those that are done. -/
theorem grows_entriesFrom
    (hstep : ∀ (done : List α) (x : α), P x → done.length < maxChildren →
      Grows (build done) (f (path ++ [(done.length : Int)]) x) (build (done ++ [undated x])))
    {done xs : List α} (hxs : ∀ x ∈ xs, P x) (hlength : done.length + xs.length ≤ maxChildren) :
    Grows (build done) (entriesFrom f path done.length xs) (build (done ++ xs.map undated)) := by
  induction xs generalizing done with
  | nil =>
    rw [List.map_nil, List.append_nil]
    exact .done _
  | cons x xs ih =>
    rw [List.forall_mem_cons] at hxs
    rw [List.length_cons] at hlength
    have hfirst := hstep done x hxs.1 (by omega)
    have hrest := @ih (done ++ [undated x]) hxs.2 (by rw [List.length_append, List.length_singleton]; omega)
    rw [List.length_append, List.length_singleton, List.append_assoc] at hrest
    exact hfirst.trans hrest

/-- **A plan grows by all siblings** where there were none. -/
theorem grows_siblings
    (hstep : ∀ (done : List α) (x : α), P x → done.length < maxChildren →
      Grows (build done) (f (path ++ [(done.length : Int)]) x) (build (done ++ [undated x])))
    {xs : List α} (hlength : xs.length ≤ maxChildren) (hxs : ∀ x ∈ xs, P x) :
    Grows (build []) (entriesFrom f path 0 xs) (build (xs.map undated)) :=
  grows_entriesFrom build hstep hxs (by rwa [List.length_nil, Nat.zero_add])

end siblings

/-! ## Open records -/

/-- The plan with other goals. -/
def withGoals (p : Plan) (goals : List Goal) : Plan := { p with goals := goals }

section opened

variable (p : Plan) (goals : List Goal) (d : String) (actions : List Action) (results : List Result)
  (d' : String) (agreements : List Agreement) (d'' : String) (alerts : List Alert)

/-- The plan with one more goal, which is still added to. -/
def openGoal : Plan := p.withGoals (goals ++ [⟨"", d, actions, results⟩])

/-- The plan with one more action under its last goal, which is still added to. -/
def openAction : Plan := p.openGoal goals d (actions ++ [⟨"", d', agreements⟩]) []

/-- The plan with one more agreement under its last action, which is still added to. -/
def openAgreement : Plan := p.openAction goals d actions d' (agreements ++ [⟨"", d'', alerts⟩])

/-- A plan grows by an alert under the last agreement. -/
theorem grows_alert (x : Alert) (hroom : alerts.length < maxChildren) :
    Grows (p.openAgreement goals d actions d' agreements d'' alerts)
      (x.entries [goals.length, actions.length, agreements.length, alerts.length])
      (p.openAgreement goals d actions d' agreements d'' (alerts ++ [x.undated])) := by
  have hparent : (p.openAgreement goals d actions d' agreements d'' alerts).children? .alert
      [goals.length, actions.length, agreements.length] = some (alerts.map .alert) := by
    simp [openAgreement, openAction, openGoal, withGoals, children?]
  refine .step hparent (by rwa [List.length_map]) ?_ (.done _)
  simp [openAgreement, openAction, openGoal, withGoals, append, modifyAgreement, modifyAction, modifyGoal,
    Goal.modifyAction, Action.modifyAgreement, modify_concat_length, Entry.kind, Node.kind, Node.description,
    Alert.undated]

/-- A plan grows by an agreement under the last action. -/
theorem grows_agreement (x : Agreement) (hx : x.Within maxChildren) (hroom : agreements.length < maxChildren) :
    Grows (p.openAction goals d actions d' agreements)
      (x.entries [goals.length, actions.length, agreements.length])
      (p.openAction goals d actions d' (agreements ++ [x.undated])) := by
  have hparent : (p.openAction goals d actions d' agreements).children? .agreement
      [goals.length, actions.length] = some (agreements.map .agreement) := by
    simp [openAction, openGoal, withGoals, children?]
  have hadded : (p.openAction goals d actions d' agreements).append .agreement
      [goals.length, actions.length] "" x.description =
        p.openAgreement goals d actions d' agreements x.description [] := by
    simp [openAgreement, openAction, openGoal, withGoals, append, modifyAction, modifyGoal, Goal.modifyAction,
      modify_concat_length]
  refine .step hparent (by rwa [List.length_map]) hadded ?_
  exact grows_siblings (P := Leaf) (p.openAgreement goals d actions d' agreements x.description)
    (fun alerts y _ => grows_alert p goals d actions d' agreements x.description alerts y) hx
    fun _ _ => trivial

/-- A plan grows by an action under the last goal. -/
theorem grows_action (x : Action) (hx : x.Within maxChildren) (hroom : actions.length < maxChildren) :
    Grows (p.openGoal goals d actions []) (x.entries [goals.length, actions.length])
      (p.openGoal goals d (actions ++ [x.undated]) []) := by
  have hparent : (p.openGoal goals d actions []).children? .action [goals.length] =
      some (actions.map .action) := by
    simp [openGoal, withGoals, children?]
  have hadded : (p.openGoal goals d actions []).append .action [goals.length] "" x.description =
      p.openAction goals d actions x.description [] := by
    simp [openAction, openGoal, withGoals, append, modifyGoal, modify_concat_length]
  refine .step hparent (by rwa [List.length_map]) hadded ?_
  exact grows_siblings (p.openAction goals d actions x.description)
    (fun agreements => grows_agreement p goals d actions x.description agreements) hx.1 hx.2

/-- A plan grows by a result of the last goal. -/
theorem grows_result (x : Result) (hroom : results.length < maxChildren) :
    Grows (p.openGoal goals d actions results) (x.entries [goals.length, results.length])
      (p.openGoal goals d actions (results ++ [x.undated])) := by
  have hparent : (p.openGoal goals d actions results).children? .result [goals.length] =
      some (results.map .result) := by
    simp [openGoal, withGoals, children?]
  refine .step hparent (by rwa [List.length_map]) ?_ (.done _)
  simp [openGoal, withGoals, append, modifyGoal, modify_concat_length, Entry.kind, Node.kind,
    Node.description, Result.undated]

/-- A plan grows by a goal, with its actions first and its results behind them. -/
theorem grows_goal (x : Goal) (hx : x.Within maxChildren) (hroom : goals.length < maxChildren) :
    Grows (p.withGoals goals) (x.entries [goals.length]) (p.withGoals (goals ++ [x.undated])) := by
  have hparent : (p.withGoals goals).children? .goal [] = some (goals.map .goal) := rfl
  have hadded : (p.withGoals goals).append .goal [] "" x.description = p.openGoal goals x.description [] [] :=
    rfl
  have hactions : Grows (p.openGoal goals x.description [] [])
      (entriesFrom Action.entries [goals.length] 0 x.actions)
      (p.openGoal goals x.description (x.actions.map Action.undated) []) :=
    grows_siblings (fun actions => p.openGoal goals x.description actions [])
      (fun actions => grows_action p goals x.description actions) hx.1.1 hx.1.2
  have hresults : Grows (p.openGoal goals x.description (x.actions.map Action.undated) [])
      (entriesFrom Result.entries [goals.length] 0 x.results) (p.withGoals (goals ++ [x.undated])) :=
    grows_siblings (P := Leaf) (p.openGoal goals x.description (x.actions.map Action.undated))
      (fun results y _ => grows_result p goals x.description _ results y) hx.2 fun _ _ => trivial
  exact .step hparent (by rwa [List.length_map]) hadded (hactions.trans hresults)

end opened

/-- **A plan without goals grows by the walk of another one** to the goals of that one, apart from the dates. -/
theorem grows_walk (hp : p.Within maxChildren) (q : Plan) :
    Grows (q.withGoals []) p.walk (q.withGoals (p.goals.map Goal.undated)) :=
  grows_siblings q.withGoals (grows_goal q) hp.1 hp.2

end Plan

end LifePlan
