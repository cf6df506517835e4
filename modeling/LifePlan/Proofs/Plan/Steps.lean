import LifePlan.Proofs.Check
import LifePlan.Proofs.Plan.Siblings

/-!
# Changes made step by step

A change of a plan is made in steps: the records that it needs are looked up, the clock is read for a new record, a
list is changed. What was done before a step fails is not undone (`Steps`). But everything that can fail comes
first, so that a change that fails leaves the plan and the clock as they were, and a removal that has found its
record finds it a second time, in the list that it is taken out of (`done_addition`, `done_renewal`, `done_removal`).

The check of a command tells beforehand what becomes of the change: they succeed together, and if they fail, then in
the same way (`Check.target_foretells`). Which way that is, `Check.Refuses` says.
-/

namespace LifePlan

open Kind (Record)

variable {α β : Type} {p q : Plan} {clock clock' : Clock} {kind : Kind} {parent path : Path}

/-! ## Steps -/

/-- What can stop a change on its way. -/
inductive Stop where
  | failure (failure : Failure)
  /-- An index that a list does not have. -/
  | index
  deriving DecidableEq, Repr

/-- Steps on a plan and a clock. What they have done is not undone when they are stopped. -/
abbrev Steps (α : Type) := ExceptT Stop (StateM (Plan × Clock)) α

namespace Steps

/-- What comes of the steps, with the plan and the clock that they leave. -/
def done (steps : Steps α) (p : Plan) (clock : Clock) : Except Stop α × Plan × Clock := steps.run.run (p, clock)

/-- Looks something up in the plan as it is. -/
def look (f : Plan → Except Failure α) : Steps α :=
  ExceptT.mk fun (p, clock) => ((f p).mapError .failure, p, clock)

/-- Reads the clock. -/
def readClock : Steps String := modifyGet fun (p, clock) => (clock.now, p, clock.tick)

/-- Changes the plan. -/
def revise (f : Plan → Plan) : Steps Unit := modify fun (p, clock) => (f p, clock)

section done

variable {x : Steps α} {f : α → Steps β} {a : α}

/-- After a step that succeeds the others follow. -/
theorem done_bind_of_ok (h : x.done p clock = (.ok a, q, clock')) : (x >>= f).done p clock = (f a).done q clock' := by
  unfold done at h ⊢
  rw [ExceptT.run_bind, StateT.run_bind, h]
  rfl

/-- A step that fails is the last one, and what was done before it stays. -/
theorem done_bind_of_error {e : Stop} (h : x.done p clock = (.error e, q, clock')) :
    (x >>= f).done p clock = (.error e, q, clock') := by
  unfold done at h ⊢
  rw [ExceptT.run_bind, StateT.run_bind, h]
  rfl

/-- To look something up changes nothing. -/
theorem done_look (k : Plan → Except Failure α) : (look k).done p clock = ((k p).mapError .failure, p, clock) := rfl

/-- What is found is what comes of it. -/
theorem done_look_of_ok {k : Plan → Except Failure α} (h : k p = .ok a) :
    (look k).done p clock = (.ok a, p, clock) := by
  rw [done_look, h]
  rfl

/-- What is not found stops the steps. -/
theorem done_look_of_error {k : Plan → Except Failure α} {failure : Failure} (h : k p = .error failure) :
    (look k).done p clock = (.error (.failure failure), p, clock) := by
  rw [done_look, h]
  rfl

end done

/-! ## Changes -/

/-- An index as a list takes it: a negative one counts from the end. -/
def wrapped (length : Nat) (i : Int) : Int := if i < 0 then i + length else i

/-- Takes the last index of a path out of a list of siblings: the index and the record there. -/
def pick (siblings : List Node) (path : Path) : Option (Int × Node) := do
  let i ← path.getLast?
  let node ← at? siblings (wrapped siblings.length i)
  return (wrapped siblings.length i, node)

/-- The steps of an addition. -/
def addition (item : Item) (parent : Path) (description : String) : Steps Node := do
  let siblings ← look fun p => p.children item parent .add
  if siblings.length ≥ maxChildren then throw (.failure (.fault (.full item maxChildren)))
  let kind ← look fun _ => Plan.kindOf item
  let date ← readClock
  revise fun p => p.append kind parent date description
  return .fresh kind date description

/-- The steps of an update. -/
def renewal (item : Item) (path : Path) (description : String) : Steps Node := do
  let node ← look fun p => p.node item path .update
  let kind ← look fun _ => Plan.kindOf item
  revise fun p => p.describe kind path description
  return node.describe description

/-- The steps of a removal. The record is looked up first; then its siblings are, and it is taken out of their list
by the last index. -/
def removal (item : Item) (path : Path) : Steps Node := do
  let _ ← look fun p => p.node item path .remove
  let siblings ← look fun p => p.children item path.dropLast .remove
  let kind ← look fun _ => Plan.kindOf item
  match pick siblings path with
  | none => throw .index
  | some (i, node) =>
    revise fun p => p.erase kind (path.dropLast ++ [i])
    return node

/-- What comes of a change that is made or fails as a whole: if it fails, the plan and the clock stay. -/
def settled (p : Plan) (clock : Clock) : Except Failure (Node × Plan × Clock) → Except Stop Node × Plan × Clock
  | .ok (node, q, clock') => (.ok node, q, clock')
  | .error failure => (.error (.failure failure), p, clock)

/-- **An addition that fails has done nothing**, and one that succeeds has read the clock once. -/
theorem done_addition (p : Plan) (clock : Clock) (item : Item) (parent : Path) (description : String) :
    (addition item parent description).done p clock = settled p clock (p.add clock item parent description) := by
  unfold addition Plan.add
  cases item with
  | all => exact done_bind_of_error (done_look_of_error rfl)
  | one kind =>
    rcases hsiblings : p.children (.one kind) parent .add with failure | siblings
    · rw [done_bind_of_error (done_look_of_error hsiblings)]
      rfl
    · rw [done_bind_of_ok (done_look_of_ok hsiblings)]
      by_cases hfull : siblings.length ≥ maxChildren
      · simp only [if_pos hfull, Plan.kindOf_one, Except.ok_bind]
        exact done_bind_of_error rfl
      · simp only [if_neg hfull, Plan.kindOf_one, Except.ok_bind]
        rfl

/-- **So has an update.** It never reads the clock. -/
theorem done_renewal (p : Plan) (clock : Clock) (item : Item) (path : Path) (description : String) :
    (renewal item path description).done p clock =
      settled p clock ((p.update item path description).map fun (node, q) => (node, q, clock)) := by
  unfold renewal Plan.update
  cases item with
  | all => exact done_bind_of_error (done_look_of_error rfl)
  | one kind =>
    rcases hnode : p.node (.one kind) path .update with failure | node
    · rw [done_bind_of_error (done_look_of_error hnode)]
      rfl
    · rw [done_bind_of_ok (done_look_of_ok hnode)]
      rfl

/-- **A record that is there is found a second time**, by its index in the list of its siblings. -/
theorem exists_pick {node : Node} (h : p.node? kind path = some node) :
    ∃ siblings i, p.children? kind path.dropLast = some siblings ∧ pick siblings path = some (i, node) ∧
      path.dropLast ++ [i] = path := by
  obtain ⟨parent, n, xs, x, rfl, hsiblings, hx, rfl⟩ := Plan.exists_siblings h
  refine ⟨xs.map Record.toNode, n, ?_, ?_, ?_⟩
  · rw [List.dropLast_concat]
    exact Plan.children?_of_siblings? hsiblings
  · have hindex (length : Nat) : wrapped length (n : Int) = n := if_neg (by omega)
    unfold pick
    simp [hindex, hx]
  · rw [List.dropLast_concat]

/-- **A removal whose record is found does not fail**, and one whose record is not found has done nothing. -/
theorem done_removal (p : Plan) (clock : Clock) (item : Item) (path : Path) :
    (removal item path).done p clock =
      settled p clock ((p.remove item path).map fun (node, q) => (node, q, clock)) := by
  unfold removal Plan.remove
  cases item with
  | all => exact done_bind_of_error (done_look_of_error rfl)
  | one kind =>
    rcases hnode : p.node (.one kind) path .remove with failure | node
    · rw [done_bind_of_error (done_look_of_error hnode)]
      rfl
    -- the record was found, so its siblings are there and the last index is one of theirs
    · obtain ⟨siblings, i, hsiblings, hpick, hpath⟩ := exists_pick (Plan.node_eq_ok.mp hnode)
      have hlist : p.children (.one kind) path.dropLast .remove = .ok siblings := Plan.children_eq_ok.mpr hsiblings
      rw [done_bind_of_ok (done_look_of_ok hnode), done_bind_of_ok (done_look_of_ok hlist),
        done_bind_of_ok (done_look_of_ok (Plan.kindOf_one kind)), hpick]
      simp only [hpath]
      rfl

end Steps

/-! ## What a check tells beforehand -/

namespace Check

variable {command : Command} {item : Item} {failure : Failure}

/-- Why a command cannot change a plan at a place. That the place is of no kind of record, or has the wrong length,
comes before whether there is something; that a parent is missing comes before whether it has room. -/
inductive Refuses (p : Plan) (command : Command) : Item → Path → Failure → Prop
  | addressless {item : Item} {path : Path} (hedits : ¬ command.edits) :
      Refuses p command item path (.misuse (.addressless command))
  | noRecordKind {path : Path} (hedits : command.edits) : Refuses p command .all path (.misuse .noRecordKind)
  | pathLength {kind : Kind} {path : Path} (hedits : command.edits) (hlength : path.length ≠ needed command kind) :
      Refuses p command (.one kind) path (.misuse (.pathLength path (.one kind) (needed command kind)))
  | missing {kind : Kind} {path : Path} (hedits : command.edits) (hlength : path.length = needed command kind)
      (hplace : ¬ HasPlace p command kind path) :
      Refuses p command (.one kind) path (.fault (.missing command.purpose (.one kind) path))
  | full {kind : Kind} {path : Path} (hedits : command.edits) (hlength : path.length = needed command kind)
      (hplace : HasPlace p command kind path) (hroom : ¬ HasRoom p command kind path) :
      Refuses p command (.one kind) path (.fault (.full (.one kind) maxChildren))

/-- A command that changes no records does not get past its check. -/
theorem target_of_not_edits (h : ¬ command.edits) :
    target p command item path = .error (.misuse (.addressless command)) := by
  unfold target
  cases command with
  | add => exact absurd (.inl rfl) h
  | update => exact absurd (.inr (.inl rfl)) h
  | remove => exact absurd (.inr (.inr rfl)) h
  | list | help | clear | erase | exit | abandon | unknown => rfl

/-- Neither does a path of the wrong length. -/
theorem target_of_length_ne (hedits : command.edits) (h : path.length ≠ needed command kind) :
    target p command (.one kind) path = .error (.misuse (.pathLength path (.one kind) (needed command kind))) := by
  rcases hedits with rfl | rfl | rfl
  · have hparent : path.length ≠ kind.depth - 1 := h
    rw [target, Plan.children, Plan.kindOf_one, Except.ok_bind, if_pos hparent]
    rfl
  · have hrecord : path.length ≠ kind.depth := h
    rw [target, Plan.node, Plan.kindOf_one, Except.ok_bind, if_pos hrecord]
    rfl
  · have hrecord : path.length ≠ kind.depth := h
    rw [target, Plan.node, Plan.kindOf_one, Except.ok_bind, if_pos hrecord]
    rfl

/-- What cannot be changed is refused by the check. -/
theorem target_of_refuses (h : Refuses p command item path failure) : target p command item path = .error failure := by
  cases h with
  | addressless hedits => exact target_of_not_edits hedits
  | noRecordKind hedits => rcases hedits with rfl | rfl | rfl <;> rfl
  | pathLength hedits hlength => exact target_of_length_ne hedits hlength
  | missing hedits hlength hplace => exact target_of_not_hasPlace hedits hlength hplace
  | full hedits hlength hplace hroom => exact target_of_not_hasRoom hroom

/-- A check passes, or there is a reason why it does not. -/
theorem target_eq_ok_or_refuses (p : Plan) (command : Command) (item : Item) (path : Path) :
    target p command item path = .ok () ∨ ∃ failure, Refuses p command item path failure := by
  by_cases hedits : command.edits
  · cases item with
    | all => exact .inr ⟨_, .noRecordKind hedits⟩
    | one kind =>
      by_cases hlength : path.length = needed command kind
      · by_cases hplace : HasPlace p command kind path
        · by_cases hroom : HasRoom p command kind path
          · exact .inl (target_eq_ok hedits hplace hroom)
          · exact .inr ⟨_, .full hedits hlength hplace hroom⟩
        · exact .inr ⟨_, .missing hedits hlength hplace⟩
      · exact .inr ⟨_, .pathLength hedits hlength⟩
  · exact .inr ⟨_, .addressless hedits⟩

/-- **A check fails with the reason why nothing can be changed.** -/
theorem target_eq_error_iff : target p command item path = .error failure ↔ Refuses p command item path failure := by
  constructor
  · intro h
    rcases target_eq_ok_or_refuses p command item path with hok | ⟨failure', hrefuses⟩
    · rw [hok] at h
      cases h
    · rw [target_of_refuses hrefuses] at h
      cases h
      exact hrefuses
  · exact target_of_refuses

/-- **A check foretells what becomes of the change**, for every plan and whatever is asked: the check of a command
passes if and only if the change succeeds, and if it does not, both fail in the same way, for the reason that
`Refuses` gives. Step by step, a change that fails has changed neither the plan nor the clock before, and a removal
fails only where its first look finds nothing: the second one and the index in the list never do. -/
theorem target_foretells (p : Plan) (clock : Clock) (item : Item) (path : Path) (description : String) :
    (target p .add item path = (p.add clock item path description).map (fun _ => ()) ∧
      target p .update item path = (p.update item path description).map (fun _ => ()) ∧
      target p .remove item path = (p.remove item path).map fun _ => ()) ∧
    (∀ command failure, target p command item path = .error failure ↔ Refuses p command item path failure) ∧
    (Steps.addition item path description).done p clock =
      Steps.settled p clock (p.add clock item path description) ∧
    (Steps.renewal item path description).done p clock =
      Steps.settled p clock ((p.update item path description).map fun (node, q) => (node, q, clock)) ∧
    (Steps.removal item path).done p clock =
      Steps.settled p clock ((p.remove item path).map fun (node, q) => (node, q, clock)) := by
  refine ⟨⟨?_, ?_, ?_⟩, fun command failure => target_eq_error_iff, ?_, ?_, ?_⟩
  · exact target_add p clock item path description
  · exact target_update p item path description
  · exact target_remove p item path
  · exact Steps.done_addition p clock item path description
  · exact Steps.done_renewal p clock item path description
  · exact Steps.done_removal p clock item path

end Check

end LifePlan
