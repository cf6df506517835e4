import LifePlan.Check
import LifePlan.Proofs.Plan.Edit
import LifePlan.Proofs.Reference

/-!
# When a change can be made, and what is wrong when it cannot

`Check.Admits` says of a command on a kind of record and the numbers that were typed that the change can be
made: the numbers count from 1, there are as many as are needed, they lead to a record, and where a record
is to be added there is room for it. `Check.FirstFault` says which fault is told when it cannot. The two
exclude each other (`FirstFault.not_admits`), there is always one of them (`admits_or_firstFault`), and there
is only one fault to tell (`FirstFault.unique`). Each check passes if its condition holds and tells the fault if
it does not (`arity_eq_ok`, `target_eq_ok` and what follows them). A change is checked as it is made (`target_edit`), so
one whose place passes is carried out (`exists_edit`).
-/

namespace LifePlan

/-! ## Conditions -/

/-- A command that changes records. -/
def Command.edits (command : Command) : Prop := command = .add ∨ command = .update ∨ command = .remove

/-- What a record is looked up for by a command that changes it. -/
def Command.purpose : Command → Purpose
  | .add => .add
  | .update => .update
  | .remove => .remove
  | _ => .visit

namespace Check

/-- How many numbers a command on a kind of record needs: those of the parent to add a record, and those of
the record itself otherwise. -/
def needed (command : Command) (kind : Kind) : Nat := if command = .add then kind.depth - 1 else kind.depth

/-- Whether there is a record at the place that a command changes: the parent of a new record (for goals,
the plan, which is always there) or the record itself. -/
def HasPlace (p : Plan) (command : Command) (kind : Kind) (path : Path) : Prop :=
  if command = .add then (p.children? kind path).isSome = true else (p.node? kind path).isSome = true

/-- Whether there is room for one more record, if one is to be added. -/
def HasRoom (p : Plan) (command : Command) (kind : Kind) (path : Path) : Prop :=
  command = .add → ∀ siblings ∈ p.children? kind path, siblings.length < maxChildren

instance (p : Plan) (command : Command) (kind : Kind) (path : Path) :
    Decidable (HasPlace p command kind path) :=
  inferInstanceAs (Decidable (if command = .add then (p.children? kind path).isSome = true
    else (p.node? kind path).isSome = true))

instance (p : Plan) (command : Command) (kind : Kind) (path : Path) :
    Decidable (HasRoom p command kind path) :=
  inferInstanceAs (Decidable (command = .add →
    ∀ siblings ∈ p.children? kind path, siblings.length < maxChildren))

/-- A command on a kind of record can be carried out with the numbers that were typed. -/
structure Admits (p : Plan) (command : Command) (kind : Kind) (numbers : List Int) : Prop where
  positive : ∀ n ∈ numbers, 1 ≤ n
  count : numbers.length = needed command kind
  place : HasPlace p command kind (Reference.places numbers)
  room : HasRoom p command kind (Reference.places numbers)

/-- The four conditions, one after the other. -/
theorem admits_iff {p : Plan} {command : Command} {kind : Kind} {numbers : List Int} :
    Admits p command kind numbers ↔
      (∀ n ∈ numbers, 1 ≤ n) ∧ numbers.length = needed command kind ∧
        HasPlace p command kind (Reference.places numbers) ∧
          HasRoom p command kind (Reference.places numbers) := by
  constructor
  · rintro ⟨hpositive, hcount, hplace, hroom⟩
    exact ⟨hpositive, hcount, hplace, hroom⟩
  · rintro ⟨hpositive, hcount, hplace, hroom⟩
    exact ⟨hpositive, hcount, hplace, hroom⟩

instance (p : Plan) (command : Command) (kind : Kind) (numbers : List Int) :
    Decidable (Admits p command kind numbers) := decidable_of_iff' _ admits_iff

/-- The fault of the first check that fails, for a command on a kind of record with the numbers that were
typed. A number below 1 comes before a wrong count, the count before the place, the place before the room. -/
inductive FirstFault (p : Plan) (command : Command) (kind : Kind) (numbers : List Int) : Fault → Prop
  | number {before after : List Int} {n : Int} (hnumbers : numbers = before ++ n :: after)
      (hbefore : ∀ m ∈ before, 1 ≤ m) (hn : n < 1) :
      FirstFault p command kind numbers (.number n (Reference.flawOf n))
  | tooMany (hpositive : ∀ n ∈ numbers, 1 ≤ n) (hcount : needed command kind < numbers.length) :
      FirstFault p command kind numbers
        (.count command (.one kind) numbers.length (needed command kind) .tooMany)
  | tooFew (hpositive : ∀ n ∈ numbers, 1 ≤ n) (hcount : numbers.length < needed command kind) :
      FirstFault p command kind numbers
        (.count command (.one kind) numbers.length (needed command kind)
          (.tooFew (Help.usage command kind)))
  | missing (hpositive : ∀ n ∈ numbers, 1 ≤ n) (hcount : numbers.length = needed command kind)
      (hplace : ¬ HasPlace p command kind (Reference.places numbers)) :
      FirstFault p command kind numbers
        (.missing command.purpose (.one kind) (Reference.places numbers))
  | full (hpositive : ∀ n ∈ numbers, 1 ≤ n) (hcount : numbers.length = needed command kind)
      (hplace : HasPlace p command kind (Reference.places numbers))
      (hroom : ¬ HasRoom p command kind (Reference.places numbers)) :
      FirstFault p command kind numbers (.full (.one kind) maxChildren)

/-- **Either a command can be carried out or a check is the first to fail.** -/
theorem admits_or_firstFault (p : Plan) (command : Command) (kind : Kind) (numbers : List Int) :
    Admits p command kind numbers ∨ ∃ fault, FirstFault p command kind numbers fault := by
  by_cases hpositive : ∀ n ∈ numbers, 1 ≤ n
  · rcases Nat.lt_trichotomy numbers.length (needed command kind) with hfew | hcount | hmany
    · exact .inr ⟨_, .tooFew hpositive hfew⟩
    · by_cases hplace : HasPlace p command kind (Reference.places numbers)
      · by_cases hroom : HasRoom p command kind (Reference.places numbers)
        · exact .inl ⟨hpositive, hcount, hplace, hroom⟩
        · exact .inr ⟨_, .full hpositive hcount hplace hroom⟩
      · exact .inr ⟨_, .missing hpositive hcount hplace⟩
    · exact .inr ⟨_, .tooMany hpositive hmany⟩
  · obtain ⟨before, n, after, hnumbers, hbefore, hn⟩ := Reference.exists_first_lt_one hpositive
    exact .inr ⟨_, .number hnumbers hbefore hn⟩

/-- The first number below 1 is the only first one. -/
theorem first_lt_one_unique {before before' after after' : List Int} {n n' : Int}
    (h : before ++ n :: after = before' ++ n' :: after') (hbefore : ∀ m ∈ before, 1 ≤ m) (hn : n < 1)
    (hbefore' : ∀ m ∈ before', 1 ≤ m) (hn' : n' < 1) : n = n' := by
  induction before generalizing before' with
  | nil =>
    rcases before' with _ | ⟨m', before'⟩
    · exact (List.cons.inj h).1
    · obtain ⟨rfl, -⟩ := List.cons.inj h
      exact absurd (hbefore' n List.mem_cons_self) (Int.not_le.mpr hn)
  | cons m before ih =>
    rw [List.forall_mem_cons] at hbefore
    rcases before' with _ | ⟨m', before'⟩
    · obtain ⟨rfl, -⟩ := List.cons.inj h
      exact absurd hbefore.1 (Int.not_le.mpr hn')
    · rw [List.forall_mem_cons] at hbefore'
      exact ih (List.cons.inj h).2 hbefore.2 hbefore'.2

/-- With a number below 1, not all numbers count from 1. -/
theorem not_forall_pos {numbers before after : List Int} {n : Int} (hnumbers : numbers = before ++ n :: after)
    (hn : n < 1) : ¬ ∀ m ∈ numbers, 1 ≤ m := by
  intro hpositive
  have hmem : n ∈ numbers := by
    rw [hnumbers]
    exact List.mem_append_cons_self
  exact absurd (hpositive n hmem) (Int.not_le.mpr hn)

namespace FirstFault

variable {p : Plan} {command : Command} {kind : Kind} {numbers : List Int} {fault fault' : Fault}

/-- There is a first fault only when a change is not admitted. -/
theorem not_admits (h : FirstFault p command kind numbers fault) : ¬ Admits p command kind numbers := by
  intro hadmits
  cases h with
  | number hnumbers hbefore hn => exact not_forall_pos hnumbers hn hadmits.positive
  | tooMany hpositive hcount => exact absurd hadmits.count (Nat.ne_of_gt hcount)
  | tooFew hpositive hcount => exact absurd hadmits.count (Nat.ne_of_lt hcount)
  | missing hpositive hcount hplace => exact hplace hadmits.place
  | full hpositive hcount hplace hroom => exact hroom hadmits.room

/-- **There is at most one first fault.** -/
theorem unique (h : FirstFault p command kind numbers fault)
    (h' : FirstFault p command kind numbers fault') : fault = fault' := by
  -- a number below 1 excludes the other faults, which exclude each other by the count and by the place
  cases h with
  | number hnumbers hbefore hn =>
    cases h' with
    | number hnumbers' hbefore' hn' =>
      rw [first_lt_one_unique (hnumbers.symm.trans hnumbers') hbefore hn hbefore' hn']
    | tooMany hpositive | tooFew hpositive | missing hpositive | full hpositive =>
      exact absurd hpositive (not_forall_pos hnumbers hn)
  | tooMany hpositive hcount =>
    cases h' with
    | number hnumbers _ hn => exact absurd hpositive (not_forall_pos hnumbers hn)
    | tooMany => rfl
    | tooFew _ hcount' | missing _ hcount' | full _ hcount' => omega
  | tooFew hpositive hcount =>
    cases h' with
    | number hnumbers _ hn => exact absurd hpositive (not_forall_pos hnumbers hn)
    | tooFew => rfl
    | tooMany _ hcount' | missing _ hcount' | full _ hcount' => omega
  | missing hpositive hcount hplace =>
    cases h' with
    | number hnumbers _ hn => exact absurd hpositive (not_forall_pos hnumbers hn)
    | missing => rfl
    | tooMany _ hcount' | tooFew _ hcount' => omega
    | full _ _ hplace' => exact absurd hplace' hplace
  | full hpositive hcount hplace hroom =>
    cases h' with
    | number hnumbers _ hn => exact absurd hpositive (not_forall_pos hnumbers hn)
    | full => rfl
    | tooMany _ hcount' | tooFew _ hcount' => omega
    | missing _ _ hplace' => exact absurd hplace hplace'

end FirstFault

/-! ## The checks -/

variable {p : Plan} {command : Command} {kind : Kind} {path : Path}

/-- The count that is asked for is the one needed. -/
@[simp] theorem requiredIndices_one : requiredIndices command (.one kind) = .ok (needed command kind) := rfl

/-- As many numbers as are needed pass. -/
theorem arity_eq_ok (h : path.length = needed command kind) : arity command (.one kind) path = .ok () := by
  rw [arity, requiredIndices_one, Except.ok_bind, Plan.kindOf_one, Except.ok_bind, if_neg (by omega),
    if_neg (by omega)]

/-- More numbers than are needed are a fault. -/
theorem arity_of_tooMany (h : needed command kind < path.length) :
    arity command (.one kind) path =
      .error (.fault (.count command (.one kind) path.length (needed command kind) .tooMany)) := by
  rw [arity, requiredIndices_one, Except.ok_bind, Plan.kindOf_one, Except.ok_bind, if_pos h]

/-- Fewer numbers than are needed are a fault. -/
theorem arity_of_tooFew (h : path.length < needed command kind) :
    arity command (.one kind) path =
      .error (.fault (.count command (.one kind) path.length (needed command kind)
        (.tooFew (Help.usage command kind)))) := by
  rw [arity, requiredIndices_one, Except.ok_bind, Plan.kindOf_one, Except.ok_bind, if_neg (by omega),
    if_pos h]

/-- Only as many numbers as are needed pass. -/
theorem length_of_arity (h : arity command (.one kind) path = .ok ()) :
    path.length = needed command kind := by
  rcases Nat.lt_trichotomy path.length (needed command kind) with hfew | hcount | hmany
  · rw [arity_of_tooFew hfew] at h
    cases h
  · exact hcount
  · rw [arity_of_tooMany hmany] at h
    cases h

/-- A place that is there and has room for what is to be added passes. -/
theorem target_eq_ok (hedits : command.edits) (hplace : HasPlace p command kind path)
    (hroom : HasRoom p command kind path) : target p command (.one kind) path = .ok () := by
  rcases hedits with rfl | rfl | rfl
  · obtain ⟨siblings, hsiblings⟩ := Option.isSome_iff_exists.mp hplace
    rw [target, Plan.children_eq_ok.mpr hsiblings, Except.ok_bind,
      if_neg (Nat.not_le.mpr (hroom rfl siblings hsiblings))]
  · obtain ⟨node, hnode⟩ := Option.isSome_iff_exists.mp hplace
    rw [target, Plan.node_eq_ok.mpr hnode, Except.ok_bind]
  · obtain ⟨node, hnode⟩ := Option.isSome_iff_exists.mp hplace
    rw [target, Plan.node_eq_ok.mpr hnode, Except.ok_bind]

/-- A place that is not there is a fault. -/
theorem target_of_not_hasPlace (hedits : command.edits) (hlength : path.length = needed command kind)
    (h : ¬ HasPlace p command kind path) :
    target p command (.one kind) path = .error (.fault (.missing command.purpose (.one kind) path)) := by
  rcases hedits with rfl | rfl | rfl
  · have hnone : p.children? kind path = none := Option.not_isSome_iff_eq_none.mp h
    rw [target, Plan.children_of_none hlength hnone, Except.error_bind, Command.purpose]
  · have hnone : p.node? kind path = none := Option.not_isSome_iff_eq_none.mp h
    rw [target, Plan.node_of_none hlength hnone, Except.error_bind, Command.purpose]
  · have hnone : p.node? kind path = none := Option.not_isSome_iff_eq_none.mp h
    rw [target, Plan.node_of_none hlength hnone, Except.error_bind, Command.purpose]

/-- A place without room is a fault. -/
theorem target_of_not_hasRoom (h : ¬ HasRoom p command kind path) :
    target p command (.one kind) path = .error (.fault (.full (.one kind) maxChildren)) := by
  simp only [HasRoom, Classical.not_imp, Classical.not_forall, Nat.not_lt] at h
  obtain ⟨rfl, siblings, hsiblings, hfull⟩ := h
  rw [target, Plan.children_eq_ok.mpr hsiblings, Except.ok_bind, if_pos hfull]

/-- A place that passes is there and has room. -/
theorem of_target_eq_ok (hedits : command.edits) (hlength : path.length = needed command kind)
    (h : target p command (.one kind) path = .ok ()) :
    HasPlace p command kind path ∧ HasRoom p command kind path := by
  by_cases hplace : HasPlace p command kind path
  · by_cases hroom : HasRoom p command kind path
    · exact ⟨hplace, hroom⟩
    · rw [target_of_not_hasRoom hroom] at h
      cases h
  · rw [target_of_not_hasPlace hedits hlength hplace] at h
    cases h

/-! ## What passes is carried out -/

/-- An addition is checked as it is made. -/
theorem target_add (p : Plan) (clock : Clock) (item : Item) (parent : Path) (description : String) :
    target p .add item parent = (p.add clock item parent description).map fun _ => () := by
  unfold target Plan.add
  cases item with
  | all => rfl
  | one kind =>
    rcases p.children (.one kind) parent .add with failure | siblings
    · rfl
    · simp only [Plan.kindOf_one, Except.ok_bind]
      by_cases hfull : siblings.length ≥ maxChildren
      · rw [if_pos hfull, if_pos hfull]
        rfl
      · rw [if_neg hfull, if_neg hfull]
        rfl

/-- So is an update. -/
theorem target_update (p : Plan) (item : Item) (path : Path) (description : String) :
    target p .update item path = (p.update item path description).map fun _ => () := by
  unfold target Plan.update
  cases item with
  | all => rfl
  | one kind => rcases p.node (.one kind) path .update with failure | node <;> rfl

/-- And so is a removal. -/
theorem target_remove (p : Plan) (item : Item) (path : Path) :
    target p .remove item path = (p.remove item path).map fun _ => () := by
  unfold target Plan.remove
  cases item with
  | all => rfl
  | one kind => rcases p.node (.one kind) path .remove with failure | node <;> rfl

/-- So what changes a record is checked as it is made, whichever command it is. -/
theorem target_edit (hedits : command.edits) (p : Plan) (clock : Clock) (kind : Kind) (path : Path)
    (description : String) :
    target p command (.one kind) path = (p.edit clock command kind path description).map fun _ => () := by
  rcases hedits with rfl | rfl | rfl
  · rw [target_add p clock (.one kind) path description, Plan.edit]
    rcases p.add clock (.one kind) path description with failure | added <;> rfl
  · rw [target_update p (.one kind) path description, Plan.edit]
    rcases p.update (.one kind) path description with failure | updated <;> rfl
  · rw [target_remove p (.one kind) path, Plan.edit]
    rcases p.remove (.one kind) path with failure | removed <;> rfl

/-- **A change whose place passes is carried out**, whatever the description. -/
theorem exists_edit (hedits : command.edits) (hplace : HasPlace p command kind path)
    (hroom : HasRoom p command kind path) (clock : Clock) (description : String) :
    ∃ plan clock', p.edit clock command kind path description = .ok (plan, clock') := by
  have hcheck := target_eq_ok hedits hplace hroom
  rw [target_edit hedits p clock kind path description] at hcheck
  obtain ⟨⟨plan, clock'⟩, hedit, -⟩ := Except.map_eq_ok.mp hcheck
  exact ⟨plan, clock', hedit⟩

end Check

end LifePlan
