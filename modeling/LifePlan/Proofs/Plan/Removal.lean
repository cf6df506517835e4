import LifePlan.Proofs.Plan.Stretch

/-!
# What a removal does to a whole plan

When a record is removed, its row and those of what it owns are gone from the walk, the rows in and under its later
siblings have one index that is lower by one, and all other rows stay as they are (`Plan.rows_erase_eq`). The
personal data stay, and so do the records of kinds that are not below the kind of the removed one: neither are the
results of a goal touched when one of its actions is removed, nor the other way round (`Plan.rows_remove`).
-/

namespace LifePlan

open Kind (Record)

/-! ## Rows after a removal -/

/-- The row for the address that a record has after another one was removed. -/
def Row.after (gone : Address) (r : Row) : Row := { r with path := (r.address.after gone).path }

/-- What is left of a row when another record is removed. -/
def Row.left (gone : Address) (r : Row) : Option Row := if gone.Holds r.address then none else some (r.after gone)

namespace Row

variable {a : Address} {r : Row} {rs : List Row}

/-- A row after a removal is for the address after the removal. -/
theorem address_after (a : Address) (r : Row) : (r.after a).address = r.address.after a := by
  have hkind := Address.kind_after r.address a
  rw [address, after, Address.mk.injEq]
  exact ⟨hkind.symm, rfl⟩

/-- What is left of rows are those that are not held, after the removal. -/
theorem filterMap_left (a : Address) (rs : List Row) :
    rs.filterMap (left a) = (rs.filter fun r => ¬ a.Holds r.address).map (after a) := by
  rw [← List.filterMap_eq_map, List.filterMap_filter]
  refine List.filterMap_congr fun r _ => ?_
  rw [left]
  by_cases h : a.Holds r.address
  · rw [if_pos h, if_neg (by simp [h])]
  · rw [if_neg h, if_pos (by simp [h])]
    rfl

/-- Rows that are held are gone. -/
theorem filterMap_left_of_holds (h : ∀ r ∈ rs, a.Holds r.address) : rs.filterMap (left a) = [] :=
  List.filterMap_eq_nil_iff.mpr fun r hr => by rw [left, if_pos (h r hr)]

/-- Rows behind the removed record have an index that is lower by one. -/
theorem filterMap_left_of_isAhead (h : ∀ r ∈ rs, ¬ a.Holds r.address ∧ a.IsAhead r.address) :
    rs.filterMap (left a) = rs.map (lower (a.kind.depth - 1)) := by
  refine List.filterMap_eq_map_iff_forall_eq_some.mpr fun r hr => ?_
  rw [left, if_neg (h r hr).1, after, Address.after, if_pos (h r hr).2]
  rfl

/-- A row that is neither held nor behind the removed record stays. -/
theorem left_eq_self (h : ¬ a.Holds r.address ∧ ¬ a.IsAhead r.address) : left a r = some r := by
  rw [left, if_neg h.1, after, Address.after, if_neg h.2]
  rfl

/-- Such rows stay. -/
theorem filterMap_left_of_not (h : ∀ r ∈ rs, ¬ a.Holds r.address ∧ ¬ a.IsAhead r.address) :
    rs.filterMap (left a) = rs :=
  (List.filterMap_eq_map_iff_forall_eq_some.mpr fun r hr => left_eq_self (h r hr)).trans (List.map_id rs)

end Row

namespace Plan

variable {p : Plan} {kind : Kind} {path : Path} {node : Node}

/-- **The rows around a record**: in front of it there are rows that have nothing to do with it, behind it those of
its later siblings, and behind these again others. A removal leaves them out of its own rows, and it lowers an index
in those of its later siblings. -/
theorem exists_rows_around (h : p.node? kind path = some node) :
    ∃ front later back,
      p.rows = front ++ node.rows path ++ later ++ back ∧
      (p.erase kind path).rows = front ++ later.map (Row.lower (kind.depth - 1)) ++ back ∧
      (∀ r ∈ front ++ back, ¬ Address.Holds ⟨kind, path⟩ r.address ∧ ¬ Address.IsAhead ⟨kind, path⟩ r.address) ∧
      (∀ r ∈ node.rows path, Address.Holds ⟨kind, path⟩ r.address) ∧
      ∀ r ∈ later, ¬ Address.Holds ⟨kind, path⟩ r.address ∧ Address.IsAhead ⟨kind, path⟩ r.address := by
  have hnode := length_of_node? h
  obtain ⟨parent, n, xs, x, rfl, hsiblings, hx, rfl⟩ := exists_siblings h
  obtain ⟨before, after, hrows, hbefore, hafter⟩ := stretch hsiblings
  have hparent := length_of_siblings? hsiblings
  have hlevel : kind.depth - 1 = parent.length := by rw [← hparent, Nat.add_sub_cancel]
  have hout {r : Row} (hr : ¬ r.address.IsIn kind parent) :
      ¬ Address.Holds ⟨kind, parent ++ [(n : Int)]⟩ r.address ∧
        ¬ Address.IsAhead ⟨kind, parent ++ [(n : Int)]⟩ r.address :=
    ⟨fun hheld => hr (hheld.isIn hparent), fun hahead => hr (hahead.isIn hparent)⟩
  refine ⟨before ++ rowsFrom parent 0 (xs.take n), rowsFrom parent (n + 1) (xs.drop (n + 1)), after,
    rows_eq hrows hx, ?_, fun r hr => ?_, fun r hr => ?_, fun r hr => ?_⟩
  · rw [rows_erase_eq_append hsiblings hrows hx, hlevel]
  · rw [List.append_assoc] at hr
    rcases List.mem_append.mp hr with hr | hr
    · exact hout (hbefore r hr)
    rcases List.mem_append.mp hr with hr | hr
    · obtain ⟨m, hm, hheld⟩ := exists_holds_of_mem_rowsFrom hparent hr
      rw [List.length_take, Nat.lt_min] at hm
      rw [hheld.sibling_iff, hheld.isAhead_iff]
      omega
    · exact hout (hafter r hr)
  · have hheld := Node.holds_of_mem_rows (x := x.toNode) (by rw [hnode, Record.kind_toNode]) hr
    rwa [Record.kind_toNode] at hheld
  · obtain ⟨m, -, hheld⟩ := exists_holds_of_mem_rowsFrom hparent hr
    rw [hheld.sibling_iff, hheld.isAhead_iff]
    omega

/-- **What a removal does to the rows of a plan.** -/
theorem rows_erase_eq (h : p.node? kind path = some node) :
    (p.erase kind path).rows = p.rows.filterMap (Row.left ⟨kind, path⟩) := by
  obtain ⟨front, later, back, hold, hnew, hout, hheld, hahead⟩ := exists_rows_around h
  rw [List.forall_mem_append] at hout
  rw [hnew, hold, List.filterMap_append, List.filterMap_append, List.filterMap_append,
    Row.filterMap_left_of_not hout.1, Row.filterMap_left_of_not hout.2, Row.filterMap_left_of_holds hheld,
    Row.filterMap_left_of_isAhead hahead, List.append_nil]

/-- The rows that are held are those of the record and of what it owns. -/
theorem filter_holds_rows (h : p.node? kind path = some node) :
    (p.rows.filter fun r => Address.Holds ⟨kind, path⟩ r.address) = node.rows path := by
  obtain ⟨front, later, back, hold, -, hout, hheld, hahead⟩ := exists_rows_around h
  rw [List.forall_mem_append] at hout
  have hnone {rs : List Row} (hrs : ∀ r ∈ rs, ¬ Address.Holds ⟨kind, path⟩ r.address) :
      (rs.filter fun r => Address.Holds ⟨kind, path⟩ r.address) = [] :=
    List.filter_eq_nil_iff.mpr fun r hr => by simpa using hrs r hr
  have hall : ((node.rows path).filter fun r => Address.Holds ⟨kind, path⟩ r.address) = node.rows path :=
    List.filter_eq_self.mpr fun r hr => by simpa using hheld r hr
  rw [hold, List.filter_append, List.filter_append, List.filter_append, hnone fun r hr => (hout.1 r hr).1,
    hnone fun r hr => (hout.2 r hr).1, hnone fun r hr => (hahead r hr).1, hall, List.append_nil, List.append_nil,
    List.nil_append]

/-- Records of a kind that is not below that of the removed one stay as they are. -/
theorem filter_rows_erase (h : p.node? kind path = some node) {kind' : Kind} (hkind : kind ∉ kind'.lineage) :
    ((p.erase kind path).rows.filter fun r => r.kind = kind') = p.rows.filter fun r => r.kind = kind' := by
  rw [rows_erase_eq h, List.filter_filterMap, ← List.filterMap_eq_filter]
  refine List.filterMap_congr fun r _ => ?_
  by_cases hr : r.kind = kind'
  · subst hr
    rw [Row.left_eq_self ⟨fun hheld => hkind hheld.1, fun ⟨_, _, _, _, _, hheld⟩ => hkind hheld.1⟩]
    rfl
  · rw [Option.guard, if_neg (by simpa using hr), Row.left]
    split
    · rfl
    · exact Option.filter_some_neg (decide_eq_false hr)

/-- All records are counted, row by row. -/
theorem count_all (p : Plan) : p.count .all = p.rows.length := by
  rw [rows, List.length_map]
  exact List.countP_eq_length.mpr fun _ _ => rfl

/-- One row is for the address of the record, the others that are held are for what it owns. -/
theorem countP_holds (h : p.node? kind path = some node) :
    (p.rows.countP fun r => Address.Holds ⟨kind, path⟩ r.address) =
      1 + p.rows.countP fun r => Address.Owns ⟨kind, path⟩ r.address := by
  have hself : Address.Holds ⟨kind, path⟩ ⟨kind, path⟩ := .refl (length_of_node? h)
  have hone : (p.rows.countP fun r => r.address = ⟨kind, path⟩) = 1 := by
    have haddress : (⟨kind, path⟩ : Address) ∈ p.rows.map Row.address := mem_addresses_iff.mpr ⟨node, h⟩
    have hcount := List.count_eq_one_of_mem (p.map_address_rows ▸ p.nodup_addresses) haddress
    rw [List.count, List.countP_map] at hcount
    rw [← hcount]
    exact List.countP_congr fun r _ => by simp
  rw [List.countP_eq_countP_filter_add _ _ fun r => r.address = ⟨kind, path⟩, List.countP_filter, List.countP_filter,
    ← hone]
  congr 1
  · refine List.countP_congr fun r _ => ?_
    simp only [Bool.and_eq_true, decide_eq_true_eq]
    exact ⟨And.right, fun hr => ⟨hr ▸ hself, hr⟩⟩
  · refine List.countP_congr fun r _ => ?_
    simp only [Bool.and_eq_true, Bool.not_eq_true', decide_eq_true_eq, decide_eq_false_iff_not]
    exact and_congr_right fun _ => ne_comm

/-- **A removal as a whole.** A record that is there is removed and given back. The personal data, the birthday and
the date stay. From the rows those are gone that the record holds, and these are just its own and those of what it
owns; the others stay in their order, with their dates and descriptions, and their addresses change only in and under
later siblings. So the count of all records drops by one and the number of records that it owned. The records of
kinds that are not below its own are not touched. -/
theorem rows_remove {a : Address} (h : p.node? a.kind a.path = some node) :
    ∃ q, p.remove (.one a.kind) a.path = .ok (node, q) ∧
      (∀ field, q.get field = p.get field) ∧
      q.rows = (p.rows.filter fun r => ¬ a.Holds r.address).map (Row.after a) ∧
      (p.rows.filter fun r => a.Holds r.address) = node.rows a.path ∧
      q.count .all + (1 + p.rows.countP fun r => a.Owns r.address) = p.count .all ∧
      ∀ kind, a.kind ∉ kind.lineage →
        (q.rows.filter fun r => r.kind = kind) = p.rows.filter fun r => r.kind = kind := by
  have hrows : (p.erase a.kind a.path).rows = (p.rows.filter fun r => ¬ a.Holds r.address).map (Row.after a) := by
    rw [rows_erase_eq h, Row.filterMap_left]
  refine ⟨p.erase a.kind a.path, remove_eq_ok h, get_erase h, hrows, filter_holds_rows h, ?_,
    fun kind hkind => filter_rows_erase h hkind⟩
  rw [count_all, count_all, hrows, List.length_map, ← countP_holds h, ← List.countP_eq_length_filter, Nat.add_comm,
    List.length_eq_countP_add_countP fun r : Row => decide (a.Holds r.address)]
  simp only [decide_not, decide_eq_true_eq]

/-- A plan with a goal that has two actions and two results. -/
def branchedPlan : Plan :=
  { blank "" "" with goals :=
    [⟨"2000", "health", [⟨"2001", "walk", [⟨"2002", "daily", []⟩]⟩, ⟨"2003", "swim", [⟨"2004", "weekly", []⟩]⟩],
      [⟨"2005", "fit"⟩, ⟨"2006", "calm"⟩]⟩] }

/-- Its first action is removed with the agreement; the second one becomes the first, and the results stay. -/
theorem rows_remove_branchedPlan :
    let walk : Node := .action ⟨"2001", "walk", [⟨"2002", "daily", []⟩]⟩
    branchedPlan.node? .action [0, 0] = some walk ∧
      ∃ q, branchedPlan.remove (.one .action) [0, 0] = .ok (walk, q) ∧
        q.rows = [⟨.goal, [0], "2000", "health"⟩, ⟨.action, [0, 0], "2003", "swim"⟩,
          ⟨.agreement, [0, 0, 0], "2004", "weekly"⟩, ⟨.result, [0, 0], "2005", "fit"⟩,
          ⟨.result, [0, 1], "2006", "calm"⟩] ∧ q.count .all + 2 = 7 := by
  intro walk
  have hwalk : branchedPlan.node? .action [0, 0] = some walk := by decide
  obtain ⟨q, hremove, -, hrows, -, hcount, -⟩ := rows_remove (a := ⟨.action, [0, 0]⟩) hwalk
  refine ⟨hwalk, q, hremove, ?_, ?_⟩
  · rw [hrows]
    decide
  · rw [show 2 = 1 + branchedPlan.rows.countP fun r => Address.Owns ⟨.action, [0, 0]⟩ r.address by decide, hcount]
    decide

end Plan

end LifePlan
