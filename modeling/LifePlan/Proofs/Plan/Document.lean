import LifePlan.Plan.Document
import LifePlan.Proofs.Json.RoundTrip

/-!
# The document of a plan is read as the plan

`Plan.read?_write`: whatever the plan holds, reading its document gives the plan, and since no time is
missing from the document the clock is not read (`Plan.ofValue_toValue` gives the plan without any
effect). That a document can be read at all is `isLegible_toValue`, since it has no numbers, and
`depth_toValue_le`, since the kinds of record bound its nesting.
-/

namespace LifePlan

open Json (Value depthLimit)

/-! ## From values to records -/

namespace Decoder

/-- A list of documents is read item by item. -/
theorem items_map {α : Type} {item : Value → Decoder α} {toValue : α → Value}
    (h : ∀ x, item (toValue x) = pure x) (xs : List α) : items item (xs.map toValue) = pure xs := by
  induction xs with
  | nil => rfl
  | cons x xs ih => rw [List.map_cons, items, h, pure_bind, ih, pure_bind]

end Decoder

open Decoder

/-- An alert is read back. -/
theorem Alert.ofValue_toValue (x : Alert) : ofValue x.toValue = pure x := by
  simp [ofValue, toValue, recordMembers, members, time, textOr, text, Json.lookup]

/-- A result is read back. -/
theorem Result.ofValue_toValue (x : Result) : ofValue x.toValue = pure x := by
  simp [ofValue, toValue, recordMembers, members, time, textOr, text, Json.lookup]

/-- An agreement is read back. -/
theorem Agreement.ofValue_toValue (x : Agreement) : ofValue x.toValue = pure x := by
  have halerts := items_map Alert.ofValue_toValue x.alerts
  simp [ofValue, toValue, recordMembers, members, time, textOr, text, list, Json.lookup, halerts]

/-- An action is read back. -/
theorem Action.ofValue_toValue (x : Action) : ofValue x.toValue = pure x := by
  have hagreements := items_map Agreement.ofValue_toValue x.agreements
  simp [ofValue, toValue, recordMembers, members, time, textOr, text, list, Json.lookup, hagreements]

/-- A goal is read back. -/
theorem Goal.ofValue_toValue (x : Goal) : ofValue x.toValue = pure x := by
  have hactions := items_map Action.ofValue_toValue x.actions
  have hresults := items_map Result.ofValue_toValue x.results
  simp [ofValue, toValue, recordMembers, members, time, textOr, text, list, Json.lookup, hactions, hresults]

/-- **A plan is read back.** -/
theorem Plan.ofValue_toValue (p : Plan) : ofValue p.toValue = pure p := by
  have hgoals := items_map Goal.ofValue_toValue p.goals
  simp [ofValue, toValue, member, Field.name, get, members, time, textOr, text, list, Json.lookup, hgoals]

/-! ## Legibility -/

/-- A list of legible items is legible. -/
theorem Json.itemsLegible_map {α : Type} {toValue : α → Value} (h : ∀ x, (toValue x).isLegible = true)
    (xs : List α) : itemsLegible (xs.map toValue) = true := by
  induction xs with
  | nil => rfl
  | cons x xs ih => rw [List.map_cons, itemsLegible, h, ih, Bool.true_and]

/-- The items of a list are no deeper than its deepest item. -/
theorem Json.itemsDepth_map_le {α : Type} {toValue : α → Value} {n : Nat} (h : ∀ x, (toValue x).depth ≤ n)
    (xs : List α) : itemsDepth (xs.map toValue) ≤ n := by
  induction xs with
  | nil => exact Nat.zero_le n
  | cons x xs ih => exact Nat.max_le.mpr ⟨h x, ih⟩

open Json (itemsLegible_map itemsDepth_map_le)

/-- The document of an alert is legible. -/
theorem Alert.isLegible_toValue (x : Alert) : x.toValue.isLegible = true := rfl

/-- The document of a result is legible. -/
theorem Result.isLegible_toValue (x : Result) : x.toValue.isLegible = true := rfl

/-- The document of an agreement is legible. -/
theorem Agreement.isLegible_toValue (x : Agreement) : x.toValue.isLegible = true := by
  have halerts := itemsLegible_map Alert.isLegible_toValue x.alerts
  simp [toValue, recordMembers, Value.isLegible, Json.membersLegible, halerts]

/-- The document of an action is legible. -/
theorem Action.isLegible_toValue (x : Action) : x.toValue.isLegible = true := by
  have hagreements := itemsLegible_map Agreement.isLegible_toValue x.agreements
  simp [toValue, recordMembers, Value.isLegible, Json.membersLegible, hagreements]

/-- The document of a goal is legible. -/
theorem Goal.isLegible_toValue (x : Goal) : x.toValue.isLegible = true := by
  have hactions := itemsLegible_map Action.isLegible_toValue x.actions
  have hresults := itemsLegible_map Result.isLegible_toValue x.results
  simp [toValue, recordMembers, Value.isLegible, Json.membersLegible, hactions, hresults]

/-- The document of a plan is legible. -/
theorem Plan.isLegible_toValue (p : Plan) : p.toValue.isLegible = true := by
  have hgoals := itemsLegible_map Goal.isLegible_toValue p.goals
  simp [toValue, member, Value.isLegible, Json.membersLegible, hgoals]

/-! ## Nesting -/

/-- An alert is one object. -/
theorem Alert.depth_toValue_le (x : Alert) : x.toValue.depth ≤ 1 := Nat.le_refl 1

/-- A result is one object. -/
theorem Result.depth_toValue_le (x : Result) : x.toValue.depth ≤ 1 := Nat.le_refl 1

/-- An agreement holds a list of alerts. -/
theorem Agreement.depth_toValue_le (x : Agreement) : x.toValue.depth ≤ 3 := by
  have halerts := itemsDepth_map_le Alert.depth_toValue_le x.alerts
  simp [toValue, recordMembers, Value.depth, Json.membersDepth]
  omega

/-- An action holds a list of agreements. -/
theorem Action.depth_toValue_le (x : Action) : x.toValue.depth ≤ 5 := by
  have hagreements := itemsDepth_map_le Agreement.depth_toValue_le x.agreements
  simp [toValue, recordMembers, Value.depth, Json.membersDepth]
  omega

/-- A goal holds a list of actions and one of results. -/
theorem Goal.depth_toValue_le (x : Goal) : x.toValue.depth ≤ 7 := by
  have hactions := itemsDepth_map_le Action.depth_toValue_le x.actions
  have hresults := itemsDepth_map_le Result.depth_toValue_le x.results
  simp [toValue, recordMembers, Value.depth, Json.membersDepth]
  omega

/-- A plan holds a list of goals, and a reader goes deeper than that. -/
theorem Plan.depth_toValue_le (p : Plan) : p.toValue.depth ≤ depthLimit := by
  have hgoals := itemsDepth_map_le Goal.depth_toValue_le p.goals
  simp [toValue, member, Value.depth, Json.membersDepth, depthLimit]
  omega

/-! ## Whole documents -/

namespace Plan

/-- **The document of a plan is read as the plan, without a look at the clock.** -/
theorem read?_write (p : Plan) (clock : Clock) : read? p.write clock = some (p, clock) := by
  have hvalue := Json.read?_write p.isLegible_toValue p.depth_toValue_le
  rw [read?, write, hvalue, Option.bind_eq_bind, Option.bind_some, ofValue_toValue, StateT.run_pure,
    Option.pure_def]

/-- The document of a plan has no carriage returns. -/
theorem notMem_write (p : Plan) : '\r' ∉ p.write := by
  have h := Json.notMem_write p.toValue 0 p.isLegible_toValue
  rwa [write, Json.write]

end Plan

end LifePlan
