import LifePlan.Proofs.Plan.Removal

/-!
# Edits that do not depend on their order

Two records of a plan, neither of which owns the other one, can be removed in either order, and a record can be
described anew before or after another one is removed (`Plan.edits_commute`). The second edit is made at the address
that its record has after the first one (`Address.after`).

A plan is told by its personal data and its rows (`Plan.eq_of_rows`). So what the edits do to the addresses of rows
decides: what is left of a row after two removals does not depend on their order (`Row.left_comm`), and neither does
it for a removal and a description (`Row.left_describe`).
-/

namespace LifePlan

/-! ## Rows after edits -/

namespace Row

variable {a b : Address} {r : Row}

/-- The row at another address. -/
def moved (r : Row) (c : Address) : Row := ⟨c.kind, c.path, r.date, r.description⟩

/-- The row with another description, if it is for a given address. -/
def describe (b : Address) (d : String) (r : Row) : Row := if r.address = b then { r with description := d } else r

@[simp] theorem address_moved (r : Row) (c : Address) : (r.moved c).address = c := rfl

@[simp] theorem moved_moved (r : Row) (c : Address) : (r.moved c).moved = r.moved := rfl

/-- A description leaves a row at its address. -/
@[simp] theorem address_describe (b : Address) (d : String) (r : Row) : (r.describe b d).address = r.address := by
  rw [describe]
  split <;> rfl

/-- What is left of a row is the row at what is left of its address. -/
theorem left_eq (a : Address) (r : Row) : left a r = (Address.left a r.address).map r.moved := by
  rw [left, Address.left]
  split
  · rfl
  · rw [Option.map_some, after, moved, Address.kind_after]
    rfl

/-- **What is left of a row after two removals does not depend on their order.** -/
theorem left_comm (ha : a.IsProper) (hb : b.IsProper) (hr : r.address.IsProper) (hab : ¬ a.Holds b)
    (hba : ¬ b.Holds a) : (left a r).bind (left (b.after a)) = (left b r).bind (left (a.after b)) := by
  have hmoved (c c' : Address) :
      (left c r).bind (left c') = ((Address.left c r.address).bind (Address.left c')).map r.moved := by
    rw [left_eq, Option.bind_map, Option.map_bind]
    congr 1
    funext x
    simp only [Function.comp_apply, left_eq, address_moved, moved_moved]
  rw [hmoved, hmoved, Address.left_comm ha hb hr hab hba]

/-- **A row can be described anew before or after another record is removed.** -/
theorem left_describe (ha : a.IsProper) (hb : b.IsProper) (hr : r.address.IsProper) (hab : ¬ a.Holds b) (d : String) :
    left a (r.describe b d) = (left a r).map (describe (b.after a) d) := by
  by_cases hheld : a.Holds r.address
  · rw [left, left, if_pos hheld, address_describe, if_pos hheld, Option.map_none]
  rw [left, left, if_neg hheld, address_describe, if_neg hheld, Option.map_some, Option.some.injEq]
  by_cases hsame : r.address = b
  · subst hsame
    rw [describe, if_pos rfl, describe, if_pos (address_after a r)]
    rfl
  · have hother : (r.after a).address ≠ b.after a := by
      intro h
      rw [address_after] at h
      exact hsame (Address.after_inj ha hr hb hheld hab h)
    rw [describe, if_neg hsame, describe, if_neg hother]

end Row

/-! ## Plans are told by their rows -/

/-- What a row tells of a record: its date and its description. -/
def Node.label (x : Node) : String × String := (x.date, x.description)

/-- Lists are the same if they have the same labels and records with the same labels are the same. -/
theorem eq_of_labels {α : Type} (label : α → String × String) {xs ys : List α}
    (hlabels : ∀ n : Nat, xs[n]?.map label = ys[n]?.map label)
    (hinj : ∀ (n : Nat) x y, xs[n]? = some x → ys[n]? = some y → label x = label y → x = y) : xs = ys := by
  refine List.ext_getElem? fun n => ?_
  have hlabel := hlabels n
  rcases hx : xs[n]? with _ | x <;> rcases hy : ys[n]? with _ | y
  · rfl
  · rw [hx, hy] at hlabel
    cases hlabel
  · rw [hx, hy] at hlabel
    cases hlabel
  · rw [hx, hy] at hlabel
    rw [hinj n x y hx hy (Option.some.inj hlabel)]

namespace Plan

variable {p q : Plan} {a b : Address} {x y : Node}

/-- Plans with the same rows have the same labels at each address. -/
theorem label_eq_of_rows (h : p.rows = q.rows) (kind : Kind) (path : Path) :
    (p.node? kind path).map Node.label = (q.node? kind path).map Node.label := by
  have hrow (p : Plan) (date d : String) :
      (p.node? kind path).map Node.label = some (date, d) ↔ ⟨kind, path, date, d⟩ ∈ p.rows := by
    rw [mem_rows_iff, Option.map_eq_some_iff]
    simp only [Node.label, Prod.mk.injEq]
  refine Option.ext fun ⟨date, d⟩ => ?_
  rw [hrow, hrow, h]

/-- **Plans with the same rows have the same goals.** -/
theorem goals_eq_of_rows (h : p.rows = q.rows) : p.goals = q.goals := by
  have hsame := label_eq_of_rows h
  refine eq_of_labels (fun x => (Node.goal x).label) (fun g => ?_) fun g x y hx hy hgoal => ?_
  · simpa [node?, Function.comp_def] using hsame .goal [g]
  have hactions : x.actions = y.actions := by
    refine eq_of_labels (fun x => (Node.action x).label) (fun a => ?_) fun a x' y' hx' hy' haction => ?_
    · simpa [node?, hx, hy, Function.comp_def] using hsame .action [g, a]
    have hagreements : x'.agreements = y'.agreements := by
      refine eq_of_labels (fun x => (Node.agreement x).label) (fun ag => ?_) fun ag x'' y'' hx'' hy'' hagreement => ?_
      · simpa [node?, hx, hy, hx', hy', Function.comp_def] using hsame .agreement [g, a, ag]
      have halerts : x''.alerts = y''.alerts := by
        refine eq_of_labels (fun x => (Node.alert x).label) (fun al => ?_) fun al x''' y''' _ _ halert => ?_
        · simpa [node?, hx, hy, hx', hy', hx'', hy'', Function.comp_def] using hsame .alert [g, a, ag, al]
        · exact Alert.ext (Prod.mk.inj halert).1 (Prod.mk.inj halert).2
      exact Agreement.ext (Prod.mk.inj hagreement).1 (Prod.mk.inj hagreement).2 halerts
    exact Action.ext (Prod.mk.inj haction).1 (Prod.mk.inj haction).2 hagreements
  have hresults : x.results = y.results := by
    refine eq_of_labels (fun x => (Node.result x).label) (fun r => ?_) fun r x' y' _ _ hresult => ?_
    · simpa [node?, hx, hy, Function.comp_def] using hsame .result [g, r]
    · exact Result.ext (Prod.mk.inj hresult).1 (Prod.mk.inj hresult).2
  exact Goal.ext (Prod.mk.inj hgoal).1 (Prod.mk.inj hgoal).2 hactions hresults

/-- **A plan is told by its personal data and its rows.** -/
theorem eq_of_rows (hfields : ∀ field, p.get field = q.get field) (hrows : p.rows = q.rows) : p = q :=
  eq_of_get hfields (goals_eq_of_rows hrows)

/-! ## Two edits -/

/-- **What another description does to the rows of a plan.** -/
theorem rows_describe_eq (h : p.node? b.kind b.path = some y) (d : String) :
    (p.describe b.kind b.path d).rows = p.rows.map (Row.describe b d) := by
  obtain ⟨before, after, hold, hnew⟩ := rows_describe h d
  have hnodup := p.map_address_rows ▸ p.nodup_addresses
  rw [hold, List.map_append, List.map_cons, List.nodup_append, List.nodup_cons] at hnodup
  obtain ⟨-, ⟨hafter, -⟩, hbefore⟩ := hnodup
  have hother {rs : List Row} (hrs : ∀ r ∈ rs, r.address ≠ b) : rs.map (Row.describe b d) = rs :=
    (List.map_congr_left fun r hr => if_neg (hrs r hr)).trans (List.map_id rs)
  have hself : Row.describe b d ⟨b.kind, b.path, y.date, y.description⟩ = ⟨b.kind, b.path, y.date, d⟩ := if_pos rfl
  rw [hnew, hold, List.map_append, List.map_cons, hself,
    hother fun r hr => hbefore _ (List.mem_map_of_mem hr) _ List.mem_cons_self,
    hother fun r hr hsame => hafter (List.mem_map.mpr ⟨r, hr, hsame⟩)]

/-- A record that is not removed is found at its address after the removal. -/
theorem exists_node?_erase (ha : p.node? a.kind a.path = some x) (hb : p.node? b.kind b.path = some y)
    (hab : ¬ a.Holds b) : ∃ node, (p.erase a.kind a.path).node? (b.after a).kind (b.after a).path = some node := by
  obtain ⟨r, hr, rfl⟩ := List.mem_map.mp (mem_addresses_iff.mpr ⟨y, hb⟩)
  rw [← mem_addresses_iff, rows_erase_eq ha, ← Row.address_after]
  exact List.mem_map_of_mem (List.mem_filterMap.mpr ⟨r, hr, if_neg hab⟩)

/-- A record is found at its address after any record is described anew. -/
theorem exists_node?_describe (ha : p.node? a.kind a.path = some x) (hb : p.node? b.kind b.path = some y)
    (d : String) : ∃ node, (p.describe b.kind b.path d).node? a.kind a.path = some node := by
  have haddress : Row.address ∘ Row.describe b d = Row.address := funext (Row.address_describe b d)
  rw [← mem_addresses_iff, rows_describe_eq hb, List.map_map, haddress]
  exact mem_addresses_iff.mpr ⟨x, ha⟩

/-- **Two removals make the same plan in either order.** -/
theorem erase_erase (ha : p.node? a.kind a.path = some x) (hb : p.node? b.kind b.path = some y)
    (hab : ¬ a.Holds b) (hba : ¬ b.Holds a) :
    (p.erase a.kind a.path).erase (b.after a).kind (b.after a).path =
      (p.erase b.kind b.path).erase (a.after b).kind (a.after b).path := by
  obtain ⟨y', hb'⟩ := exists_node?_erase ha hb hab
  obtain ⟨x', ha'⟩ := exists_node?_erase hb ha hba
  refine eq_of_rows (fun field => ?_) ?_
  · rw [get_erase hb', get_erase ha, get_erase ha', get_erase hb]
  · rw [rows_erase_eq hb', rows_erase_eq ha, rows_erase_eq ha', rows_erase_eq hb, List.filterMap_filterMap,
      List.filterMap_filterMap]
    exact List.filterMap_congr fun r hr =>
      Row.left_comm (length_of_node? ha) (length_of_node? hb) (isProper_of_mem_rows hr) hab hba

/-- **A removal and another description make the same plan in either order.** -/
theorem erase_describe (ha : p.node? a.kind a.path = some x) (hb : p.node? b.kind b.path = some y)
    (hab : ¬ a.Holds b) (d : String) :
    (p.describe b.kind b.path d).erase a.kind a.path =
      (p.erase a.kind a.path).describe (b.after a).kind (b.after a).path d := by
  obtain ⟨y', hb'⟩ := exists_node?_erase ha hb hab
  obtain ⟨x', ha'⟩ := exists_node?_describe ha hb d
  refine eq_of_rows (fun field => ?_) ?_
  · rw [get_erase ha', get_describe hb, get_describe hb', get_erase ha]
  · rw [rows_erase_eq ha', rows_describe_eq hb, rows_describe_eq hb', rows_erase_eq ha, List.filterMap_map,
      List.map_filterMap]
    exact List.filterMap_congr fun r hr =>
      Row.left_describe (length_of_node? ha) (length_of_node? hb) (isProper_of_mem_rows hr) hab d

/-- The plan that is left when the record at an address is removed. -/
def without (p : Plan) (a : Address) : Except Failure Plan := (p.remove (.one a.kind) a.path).map Prod.snd

/-- The plan in which the record at an address is described anew. -/
def renamed (p : Plan) (a : Address) (d : String) : Except Failure Plan :=
  (p.update (.one a.kind) a.path d).map Prod.snd

/-- A record that is there can be removed. -/
theorem without_eq_ok (h : p.node? a.kind a.path = some x) : p.without a = .ok (p.erase a.kind a.path) := by
  rw [without, remove_eq_ok h]
  rfl

/-- It can be described anew. -/
theorem renamed_eq_ok (h : p.node? a.kind a.path = some x) (d : String) :
    p.renamed a d = .ok (p.describe a.kind a.path d) := by
  rw [renamed, update_eq_ok h]
  rfl

/-- **Edits of different records commute.** If a record does not hold another one, to remove it and to describe the
other one anew makes the same plan in either order; and if the other one does not hold it either, so does to remove
both. Each time the second edit is made at the address that its record has after the first one, and it succeeds. -/
theorem edits_commute (ha : p.node? a.kind a.path = some x) (hb : p.node? b.kind b.path = some y)
    (hab : ¬ a.Holds b) :
    (¬ b.Holds a → ∃ q, (p.without a >>= fun left => left.without (b.after a)) = .ok q ∧
      (p.without b >>= fun left => left.without (a.after b)) = .ok q) ∧
    ∀ d, ∃ q, (p.without a >>= fun left => left.renamed (b.after a) d) = .ok q ∧
      (p.renamed b d >>= fun named => named.without a) = .ok q := by
  obtain ⟨y', hb'⟩ := exists_node?_erase ha hb hab
  constructor
  · intro hba
    obtain ⟨x', ha'⟩ := exists_node?_erase hb ha hba
    refine ⟨(p.erase a.kind a.path).erase (b.after a).kind (b.after a).path, ?_, ?_⟩
    · rw [without_eq_ok ha, Except.ok_bind, without_eq_ok hb']
    · rw [without_eq_ok hb, Except.ok_bind, without_eq_ok ha', erase_erase ha hb hab hba]
  · intro d
    obtain ⟨x', ha'⟩ := exists_node?_describe ha hb d
    refine ⟨(p.erase a.kind a.path).describe (b.after a).kind (b.after a).path d, ?_, ?_⟩
    · rw [without_eq_ok ha, Except.ok_bind, renamed_eq_ok hb']
    · rw [renamed_eq_ok hb, Except.ok_bind, without_eq_ok ha', erase_describe ha hb hab]

/-- The agreement of the second action goes with it to another address when the first action is removed. -/
theorem edits_commute_branchedPlan :
    let walk : Address := ⟨.action, [0, 0]⟩
    let weekly : Address := ⟨.agreement, [0, 1, 0]⟩
    let moved : Address := ⟨.agreement, [0, 0, 0]⟩
    (∃ q, (branchedPlan.without walk >>= fun left => left.without moved) = .ok q ∧
      (branchedPlan.without weekly >>= fun left => left.without walk) = .ok q) ∧
    ∃ q, (branchedPlan.without walk >>= fun left => left.renamed moved "daily") = .ok q ∧
      (branchedPlan.renamed weekly "daily" >>= fun named => named.without walk) = .ok q := by
  intro walk weekly moved
  have hwalk : branchedPlan.node? .action [0, 0] = some (.action ⟨"2001", "walk", [⟨"2002", "daily", []⟩]⟩) := rfl
  have hweekly : branchedPlan.node? .agreement [0, 1, 0] = some (.agreement ⟨"2004", "weekly", []⟩) := rfl
  have hmoved : weekly.after walk = moved := by decide
  have hstays : walk.after weekly = walk := by decide
  obtain ⟨hremovals, hdescriptions⟩ := edits_commute (a := walk) (b := weekly) hwalk hweekly (by decide)
  rw [hmoved] at hremovals hdescriptions
  rw [hstays] at hremovals
  exact ⟨hremovals (by decide), hdescriptions "daily"⟩

end Plan

end LifePlan
