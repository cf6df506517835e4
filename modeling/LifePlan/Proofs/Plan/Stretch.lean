import LifePlan.Proofs.Plan.Siblings
import LifePlan.Proofs.Plan.Traversal

/-!
# The stretch of a list of siblings

In the rows of a plan a list of siblings is one stretch: each of its rows is held by one of the siblings
(`exists_holds_of_mem_rowsFrom`), and what stands around it is not in the list (`Plan.stretch`). The second holds
because it stays when the list is emptied: then no record can be looked up that is in the list.
-/

namespace LifePlan

open Kind (Record)

/-- The address of a row. -/
def Row.address (r : Row) : Address := ⟨r.kind, r.path⟩

@[simp] theorem Kind.Record.kind_toNode {kind : Kind} (x : kind.Record) : x.toNode.kind = kind := by
  cases kind with
  | goal | action | agreement | alert | result => rfl

/-- What a record and its children are come across at is held by it. -/
theorem Node.holds_of_mem_rows {x : Node} {path : Path} (hpath : path.length = x.kind.depth) {r : Row}
    (hr : r ∈ x.rows path) : Address.Holds ⟨x.kind, path⟩ r.address := by
  obtain ⟨e, he, rfl⟩ := List.mem_map.mp hr
  exact holds_of_mem_entries hpath he

/-- **Each row of a list of siblings is held by one of them.** -/
theorem exists_holds_of_mem_rowsFrom {kind : Kind} {parent : Path} (hparent : parent.length + 1 = kind.depth) {i : Nat}
    {xs : List kind.Record} {r : Row} (hr : r ∈ rowsFrom parent i xs) :
    ∃ n : Nat, n < xs.length ∧ Address.Holds ⟨kind, parent ++ [((i + n : Nat) : Int)]⟩ r.address := by
  obtain ⟨e, he, rfl⟩ := List.mem_map.mp hr
  obtain ⟨n, x, hx, he⟩ := mem_entriesFrom.mp he
  have hpath : (parent ++ [((i + n : Nat) : Int)]).length = x.toNode.kind.depth := by
    rw [List.length_append, List.length_singleton, hparent, Record.kind_toNode]
  have hholds := Node.holds_of_mem_entries hpath he
  rw [Record.kind_toNode] at hholds
  exact ⟨n, (List.getElem?_eq_some_iff.mp hx).1, hholds⟩

namespace Plan

variable {p : Plan} {kind : Kind} {parent path : Path} {a b : Address}

/-! ## Rows and lookups -/

/-- **The rows of a plan are those of the records that can be looked up.** -/
theorem mem_rows_iff {r : Row} :
    r ∈ p.rows ↔ ∃ node, p.node? r.kind r.path = some node ∧ node.date = r.date ∧ node.description = r.description := by
  constructor
  · intro hr
    obtain ⟨e, he, rfl⟩ := List.mem_map.mp hr
    exact ⟨e.node, node?_of_mem_walk he, rfl, rfl⟩
  · rintro ⟨node, hnode, hdate, hdescription⟩
    obtain ⟨hkind, hmem⟩ := mem_walk_of_node? hnode
    refine List.mem_map.mpr ⟨_, hmem, ?_⟩
    cases r
    simp_all [Entry.row, Entry.kind]

/-- There are rows for the addresses at which a record can be looked up. -/
theorem mem_addresses_iff : a ∈ p.rows.map Row.address ↔ ∃ node, p.node? a.kind a.path = some node := by
  rw [List.mem_map]
  constructor
  · rintro ⟨r, hr, rfl⟩
    obtain ⟨node, hnode, -⟩ := mem_rows_iff.mp hr
    exact ⟨node, hnode⟩
  · rintro ⟨node, hnode⟩
    exact ⟨⟨a.kind, a.path, node.date, node.description⟩, mem_rows_iff.mpr ⟨node, hnode, rfl, rfl⟩, rfl⟩

/-- The addresses of the rows are those of the walk. -/
theorem map_address_rows (p : Plan) : p.rows.map Row.address = p.walk.map Entry.address := by
  rw [rows, List.map_map]
  rfl

/-- The addresses of the rows are proper. -/
theorem isProper_of_mem_rows {r : Row} (hr : r ∈ p.rows) : r.address.IsProper := by
  obtain ⟨e, he, rfl⟩ := List.mem_map.mp hr
  exact isProper_of_mem_walk he

/-- A record that owns one that is there is there. -/
theorem exists_node?_of_holds (hab : a.Holds b) {node : Node} (h : p.node? b.kind b.path = some node) :
    ∃ owner, p.node? a.kind a.path = some owner := by
  obtain ⟨kind, path⟩ := a
  obtain ⟨kind', path'⟩ := b
  obtain ⟨hkind, hpath⟩ := hab
  simp only at hkind hpath h ⊢
  subst hpath
  unfold node? at h
  split at h
  · obtain ⟨goal, hgoal, -⟩ := Option.map_eq_some_iff.mp h
    obtain rfl : kind = .goal := by simpa [Kind.lineage] using hkind
    simp [node?, Kind.depth, Kind.lineage, hgoal]
  · obtain ⟨goal, hgoal, h⟩ := Option.bind_eq_some_iff.mp h
    obtain ⟨action, haction, -⟩ := Option.map_eq_some_iff.mp h
    obtain rfl | rfl : kind = .goal ∨ kind = .action := by simpa [Kind.lineage] using hkind
    · simp [node?, Kind.depth, Kind.lineage, hgoal]
    · simp [node?, Kind.depth, Kind.lineage, hgoal, haction]
  · obtain ⟨goal, hgoal, h⟩ := Option.bind_eq_some_iff.mp h
    obtain ⟨action, haction, h⟩ := Option.bind_eq_some_iff.mp h
    obtain ⟨agreement, hagreement, -⟩ := Option.map_eq_some_iff.mp h
    obtain rfl | rfl | rfl : kind = .goal ∨ kind = .action ∨ kind = .agreement := by
      simpa [Kind.lineage] using hkind
    · simp [node?, Kind.depth, Kind.lineage, hgoal]
    · simp [node?, Kind.depth, Kind.lineage, hgoal, haction]
    · simp [node?, Kind.depth, Kind.lineage, hgoal, haction, hagreement]
  · obtain ⟨goal, hgoal, h⟩ := Option.bind_eq_some_iff.mp h
    obtain ⟨action, haction, h⟩ := Option.bind_eq_some_iff.mp h
    obtain ⟨agreement, hagreement, h⟩ := Option.bind_eq_some_iff.mp h
    obtain ⟨alert, halert, -⟩ := Option.map_eq_some_iff.mp h
    obtain rfl | rfl | rfl | rfl : kind = .goal ∨ kind = .action ∨ kind = .agreement ∨ kind = .alert := by
      simpa [Kind.lineage] using hkind
    · simp [node?, Kind.depth, Kind.lineage, hgoal]
    · simp [node?, Kind.depth, Kind.lineage, hgoal, haction]
    · simp [node?, Kind.depth, Kind.lineage, hgoal, haction, hagreement]
    · simp [node?, Kind.depth, Kind.lineage, hgoal, haction, hagreement, halert]
  · obtain ⟨goal, hgoal, h⟩ := Option.bind_eq_some_iff.mp h
    obtain ⟨result, hresult, -⟩ := Option.map_eq_some_iff.mp h
    obtain rfl | rfl : kind = .goal ∨ kind = .result := by simpa [Kind.lineage] using hkind
    · simp [node?, Kind.depth, Kind.lineage, hgoal]
    · simp [node?, Kind.depth, Kind.lineage, hgoal, hresult]
  · cases h

/-! ## Lists of siblings -/

/-- The address of a parent has one index less than its children are deep. -/
theorem length_of_siblings? {xs : List kind.Record} (h : p.siblings? kind parent = some xs) :
    parent.length + 1 = kind.depth := by
  unfold siblings? at h
  split at h
  · rfl
  · rfl
  · rfl
  · rfl
  · rfl
  · cases h

/-- An element that is found is found changed. -/
theorem at?_modify {α : Type} {xs : List α} {i : Int} {x : α} (h : at? xs i = some x) (f : α → α) :
    at? (xs.modify i.toNat f) i = some (f x) := by
  obtain ⟨n, rfl, hx⟩ := exists_index_of_at? h
  rw [Int.toNat_natCast, at?_natCast, List.getElem?_modify_eq, hx]
  rfl

/-- A list of siblings that is changed is found changed. -/
theorem siblings?_overSiblings {xs : List kind.Record} (h : p.siblings? kind parent = some xs)
    (f : List kind.Record → List kind.Record) : (p.overSiblings kind parent f).siblings? kind parent = some (f xs) := by
  unfold siblings? at h
  split at h
  · obtain rfl := Option.some.inj h
    rfl
  · obtain ⟨x, hx, rfl⟩ := Option.map_eq_some_iff.mp h
    simp [siblings?, overSiblings, modifyGoal, at?_modify hx]
  · obtain ⟨x, hx, h⟩ := Option.bind_eq_some_iff.mp h
    obtain ⟨y, hy, rfl⟩ := Option.map_eq_some_iff.mp h
    simp [siblings?, overSiblings, modifyAction, modifyGoal, Goal.modifyAction, at?_modify hx, at?_modify hy]
  · obtain ⟨x, hx, h⟩ := Option.bind_eq_some_iff.mp h
    obtain ⟨y, hy, h⟩ := Option.bind_eq_some_iff.mp h
    obtain ⟨z, hz, rfl⟩ := Option.map_eq_some_iff.mp h
    simp [siblings?, overSiblings, modifyAgreement, modifyAction, modifyGoal, Goal.modifyAction,
      Action.modifyAgreement, at?_modify hx, at?_modify hy, at?_modify hz]
  · obtain ⟨x, hx, rfl⟩ := Option.map_eq_some_iff.mp h
    simp [siblings?, overSiblings, modifyGoal, at?_modify hx]
  · cases h

/-- Where there are no siblings no record is in their list. -/
theorem not_isIn_of_siblings?_eq_nil (h : p.siblings? kind parent = some []) {r : Row} (hr : r ∈ p.rows) :
    ¬ r.address.IsIn kind parent := by
  rintro ⟨hkind, hparent⟩
  obtain ⟨node, hnode, -⟩ := mem_rows_iff.mp hr
  have hholds : Address.Holds ⟨kind, r.path.take kind.depth⟩ r.address := ⟨hkind, rfl⟩
  obtain ⟨sibling, hsibling⟩ := exists_node?_of_holds hholds hnode
  obtain ⟨parent', n, xs, x, hpath, hsiblings, hx, -⟩ := exists_siblings hsibling
  have hlength := length_of_siblings? hsiblings
  obtain rfl : parent' = parent := by
    have htake := congrArg (List.take parent'.length) hpath
    rw [List.take_left, List.take_take, Nat.min_eq_left (hlength ▸ Nat.le_succ _)] at htake
    rw [← htake, ← hparent, ← hlength, Nat.add_sub_cancel]
    rfl
  rw [h] at hsiblings
  obtain rfl := Option.some.inj hsiblings
  cases hx

/-- **A list of siblings is one stretch of a walk**, and what stands around it is not in the list. -/
theorem stretch {xs : List kind.Record} (h : p.siblings? kind parent = some xs) :
    ∃ before after, (∀ f, (p.overSiblings kind parent f).rows = before ++ rowsFrom parent 0 (f xs) ++ after) ∧
      (∀ r ∈ before, ¬ r.address.IsIn kind parent) ∧ ∀ r ∈ after, ¬ r.address.IsIn kind parent := by
  obtain ⟨before, after, hrows⟩ := surrounds_siblings h
  simp only at hrows
  have hnone : (p.overSiblings kind parent fun _ => []).siblings? kind parent = some [] := siblings?_overSiblings h _
  have houtside (r : Row) (hr : r ∈ before ∨ r ∈ after) : ¬ r.address.IsIn kind parent := by
    refine not_isIn_of_siblings?_eq_nil hnone ?_
    rw [hrows, rowsFrom, entriesFrom_nil, List.map_nil, List.append_nil]
    exact List.mem_append.mpr hr
  exact ⟨before, after, hrows, fun r hr => houtside r (.inl hr), fun r hr => houtside r (.inr hr)⟩

end Plan

end LifePlan
