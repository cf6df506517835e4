import LifePlan.Proofs.Plan.Edit
import LifePlan.Proofs.Plan.Siblings

/-!
# How records are described

What holds of the descriptions of all records (`AllDescribed`) still holds when a record is added or described anew
with a description of which it holds, and when a record is removed (`AllDescribed.edit`); and it holds of the
description of each record that is looked up (`AllDescribed.node?`).
-/

namespace LifePlan

namespace Plan

variable {p q : Plan} {P : String → Prop} {kind : Kind} {path : Path}

/-- All records of a plan have descriptions with a property. -/
def AllDescribed (P : String → Prop) (p : Plan) : Prop := ∀ row ∈ p.rows, P row.description

/-- A plan without data has no records. -/
theorem allDescribed_blank (P : String → Prop) (birthday date : String) :
    (blank birthday date).AllDescribed P := fun _ hrow => absurd hrow List.not_mem_nil

namespace AllDescribed

/-- A record that is looked up has a description with the property. -/
theorem node? (h : p.AllDescribed P) {node : Node} (hnode : p.node? kind path = some node) :
    P node.description := by
  obtain ⟨before, after, hrows, -⟩ := rows_describe hnode node.description
  refine h ⟨kind, path, node.date, node.description⟩ ?_
  rw [hrows]
  exact List.mem_append_right before List.mem_cons_self

/-- One row may take the place of others, or come between them, if its description has the property. -/
theorem of_row (h : p.AllDescribed P) {before after : List Row} {row : Row} (old : List Row)
    (hnew : q.rows = before ++ row :: after) (hold : p.rows = before ++ (old ++ after))
    (hrow : P row.description) : q.AllDescribed P := by
  intro other hother
  have hkept (hsame : other ∈ before ∨ other ∈ after) : P other.description := by
    refine h other ?_
    rw [hold]
    rcases hsame with hbefore | hafter
    · exact List.mem_append_left _ hbefore
    · exact List.mem_append_right before (List.mem_append_right old hafter)
  rw [hnew] at hother
  rcases List.mem_append.mp hother with hbefore | hother
  · exact hkept (.inl hbefore)
  · rcases List.mem_cons.mp hother with rfl | hafter
    · exact hrow
    · exact hkept (.inr hafter)

/-- A record may be added with such a description. -/
theorem append (h : p.AllDescribed P) {nodes : List Node} (hnodes : p.children? kind path = some nodes)
    {date d : String} (hd : P d) : (p.append kind path date d).AllDescribed P := by
  obtain ⟨before, place, after, hold, hnew⟩ := rows_append hnodes date d
  exact h.of_row [] hnew hold hd

/-- A record may be described anew. -/
theorem describe (h : p.AllDescribed P) {node : Node} (hnode : p.node? kind path = some node) {d : String}
    (hd : P d) : (p.describe kind path d).AllDescribed P := by
  obtain ⟨before, after, hold, hnew⟩ := rows_describe hnode d
  exact h.of_row [⟨kind, path, node.date, node.description⟩] hnew hold hd

/-- A record may be removed: those that are counted anew keep their descriptions. -/
theorem erase (h : p.AllDescribed P) {node : Node} (hnode : p.node? kind path = some node) :
    (p.erase kind path).AllDescribed P := by
  obtain ⟨before, later, after, hold, hnew⟩ := rows_erase hnode
  have hkept (row : Row) (hrow : row ∈ before ∨ row ∈ later ∨ row ∈ after) : P row.description := by
    refine h row ?_
    rw [hold]
    rcases hrow with hrow | hrow | hrow <;> simp [hrow]
  intro row hrow
  rw [hnew] at hrow
  rcases List.mem_append.mp hrow with hrow | hrow
  · rcases List.mem_append.mp hrow with hrow | hrow
    · exact hkept row (.inl hrow)
    · obtain ⟨counted, hcounted, rfl⟩ := List.mem_map.mp hrow
      exact hkept counted (.inr (.inl hcounted))
  · exact hkept row (.inr (.inr hrow))

/-- **An edit keeps what holds of all descriptions**, if it holds of the one that is given. -/
theorem edit (h : p.AllDescribed P) {clock clock' : Clock} {command : Command} {d : String}
    (hedit : p.edit clock command kind path d = .ok (q, clock')) (hd : command = .remove ∨ P d) :
    q.AllDescribed P := by
  rcases edit_cases hedit with ⟨rfl, nodes, hnodes, -, rfl, -⟩ | ⟨rfl, hnode, rfl, -⟩ | ⟨rfl, hnode, rfl, -⟩
  · exact h.append hnodes (hd.resolve_left (by decide))
  · obtain ⟨node, hnode⟩ := Option.isSome_iff_exists.mp hnode
    exact h.describe hnode (hd.resolve_left (by decide))
  · obtain ⟨node, hnode⟩ := Option.isSome_iff_exists.mp hnode
    exact h.erase hnode

end AllDescribed

end Plan

end LifePlan
