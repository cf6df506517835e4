import LifePlan.Proofs.Plan.Route
import LifePlan.Proofs.Plan.Walk

/-!
# Addresses

An address is a kind with a path; only both together say which record is meant, since the paths of a goal's actions
and of its results look alike. `Address.Holds` says that a record owns another one or is that record, and
`Address.Precedes` that a record comes before another one in a listing: a record comes before what it owns, earlier
siblings before later ones, and actions before results. No two addresses precede each other (`Address.Precedes.asymm`).

When a record is removed, the addresses in and under its later siblings have one index that is lower by one
(`Address.after`), and those that it holds are gone (`Address.left`). Two removals can be made in either order: with the
addresses that the two records have after the other removal, a third one ends up at the same address
(`Address.left_comm`).

Each of these is told by the routes of the addresses: a record holds those to which its route leads on
(`Address.holds_iff`), and what is left of an address is what is left of its route (`Address.map_route_left`).
-/

namespace LifePlan

/-- A kind is on the way to another one if and only if the way to it is the start of the way to that one. -/
theorem Kind.mem_lineage_iff {k k' : Kind} : k ∈ k'.lineage ↔ k.lineage <+: k'.lineage := by
  cases k <;> cases k' <;> decide

/-- The kind is the last one of its lineage. -/
theorem Kind.lineage_eq (kind : Kind) : kind.lineage = kind.lineage.dropLast ++ [kind] := by
  cases kind <;> rfl

/-- Where a record is. -/
structure Address where
  kind : Kind
  path : Path
  deriving DecidableEq, Repr

/-- The address of an entry. -/
def Entry.address (e : Entry) : Address := ⟨e.kind, e.path⟩

namespace Address

variable {a a' b b' c : Address} {kind : Kind} {parent : Path}

/-- The path has as many indices as lead to a record of the kind. -/
def IsProper (a : Address) : Prop := a.path.length = a.kind.depth

/-- The record at `b` is the one at `a`, or this one owns it: the kind is on the way to the other one, and the path
is the start of the other path. -/
def Holds (a b : Address) : Prop := a.kind ∈ b.kind.lineage ∧ b.path.take a.kind.depth = a.path

/-- The record at `a` owns the one at `b`. -/
def Owns (a b : Address) : Prop := a.Holds b ∧ a ≠ b

/-- The record at `a` stands in the list of the records of a kind under a parent, or one of that list owns it. -/
def IsIn (a : Address) (kind : Kind) (parent : Path) : Prop :=
  kind ∈ a.kind.lineage ∧ a.path.take (kind.depth - 1) = parent

/-- A later sibling of the record at `a` is at `b`, or it owns what is there. -/
def IsAhead (a b : Address) : Prop :=
  ∃ parent n m, n < m ∧ a.path = parent ++ [n] ∧ Holds ⟨a.kind, parent ++ [m]⟩ b

/-- A listing comes to the record at one address before it comes to the one at the other. -/
inductive Precedes : Address → Address → Prop
  /-- A record comes before what it owns. -/
  | owner {a b : Address} (h : a.Owns b) : Precedes a b
  /-- A record comes, with what it owns, before its later siblings. -/
  | sibling {a b : Address} {kind : Kind} {parent : Path} {n m : Int} (hlt : n < m)
      (ha : Holds ⟨kind, parent ++ [n]⟩ a) (hb : Holds ⟨kind, parent ++ [m]⟩ b) : Precedes a b
  /-- The actions of a goal come, with what they own, before its results. -/
  | result {a b : Address} {goal : Path} {n m : Int} (ha : Holds ⟨.action, goal ++ [n]⟩ a)
      (hb : Holds ⟨.result, goal ++ [m]⟩ b) : Precedes a b

instance : Decidable (Holds a b) :=
  inferInstanceAs (Decidable (a.kind ∈ b.kind.lineage ∧ b.path.take a.kind.depth = a.path))

instance : Decidable (Owns a b) := inferInstanceAs (Decidable (a.Holds b ∧ a ≠ b))

instance : Decidable (IsAhead a b) :=
  decidable_of_iff
    (a.kind ∈ b.kind.lineage ∧ ∃ n ∈ a.path.getLast?, ∃ m ∈ (b.path.take a.kind.depth).getLast?,
      n < m ∧ (b.path.take a.kind.depth).dropLast = a.path.dropLast) <| by
    constructor
    · rintro ⟨hkind, n, hn, m, hm, hlt, hparent⟩
      refine ⟨a.path.dropLast, n, m, hlt, (List.dropLast_append_getLast? n hn).symm, hkind, ?_⟩
      rw [← hparent, List.dropLast_append_getLast? m hm]
    · rintro ⟨parent, n, m, hlt, hpath, hkind, htake⟩
      refine ⟨hkind, n, ?_, m, ?_, hlt, ?_⟩
      · rw [hpath, List.getLast?_concat]
        rfl
      · rw [htake, List.getLast?_concat]
        rfl
      · rw [htake, hpath, List.dropLast_concat, List.dropLast_concat]

/-- The address of a record after another one was removed: if it is a later sibling, or is owned by one, the index at
that level is lower by one. -/
def after (a gone : Address) : Address :=
  if gone.IsAhead a then { a with path := a.path.modify (gone.kind.depth - 1) (· - 1) } else a

/-- The address of a record after another one was removed, if it was not removed with it. -/
def left (gone a : Address) : Option Address := if gone.Holds a then none else some (a.after gone)

/-! ## Proper addresses -/

/-- A record holds itself. -/
theorem Holds.refl (ha : a.IsProper) : a.Holds a :=
  ⟨Kind.mem_lineage_iff.mpr List.prefix_rfl, List.take_of_length_le (Nat.le_of_eq ha)⟩

/-- What holds something at a proper address is at a proper address. -/
theorem Holds.isProper (h : a.Holds b) (hb : b.IsProper) : a.IsProper := by
  have hdepth : a.kind.depth ≤ b.kind.depth := (Kind.mem_lineage_iff.mp h.1).length_le
  rw [IsProper, ← h.2, List.length_take, hb, Nat.min_eq_left hdepth]

/-- A removal keeps the kind. -/
@[simp] theorem kind_after (a gone : Address) : (a.after gone).kind = a.kind := by
  rw [after]
  split <;> rfl

/-- It keeps the length of the path. -/
@[simp] theorem length_after (a gone : Address) : (a.after gone).path.length = a.path.length := by
  rw [after]
  split
  · exact List.length_modify _ _ _
  · rfl

/-- A proper address is a proper one after a removal. -/
theorem IsProper.after (ha : a.IsProper) (gone : Address) : (a.after gone).IsProper := by
  rw [IsProper, kind_after, length_after, ha]

/-! ## Siblings -/

/-- What a record of a list holds is in the list. -/
theorem Holds.isIn {n : Int} (h : Holds ⟨kind, parent ++ [n]⟩ a) (hparent : parent.length + 1 = kind.depth) :
    a.IsIn kind parent := by
  refine ⟨h.1, ?_⟩
  have hlevel : kind.depth - 1 = parent.length := by rw [← hparent, Nat.add_sub_cancel]
  have htake := congrArg (List.take parent.length) h.2
  rwa [List.take_left, List.take_take, Nat.min_eq_left (hparent ▸ Nat.le_succ _), ← hlevel] at htake

/-- Of the records of one list only one holds something. -/
theorem Holds.sibling_iff {n m : Int} (h : Holds ⟨kind, parent ++ [m]⟩ a) :
    Holds ⟨kind, parent ++ [n]⟩ a ↔ n = m := by
  constructor
  · intro h'
    exact List.singleton_inj.mp (List.append_cancel_left (h'.2.symm.trans h.2))
  · rintro rfl
    exact h

/-- A record is ahead of what its later siblings hold, and of nothing else in the list. -/
theorem Holds.isAhead_iff {n m : Int} (h : Holds ⟨kind, parent ++ [m]⟩ a) :
    IsAhead ⟨kind, parent ++ [n]⟩ a ↔ n < m := by
  constructor
  · rintro ⟨parent', n', m', hlt, hpath, h'⟩
    obtain ⟨rfl, hn⟩ := List.append_inj' hpath rfl
    obtain rfl := List.singleton_inj.mp hn
    obtain rfl := h.sibling_iff.mp h'
    exact hlt
  · exact fun hlt => ⟨parent, n, m, hlt, rfl, h⟩

/-- A record is only ahead of what is in its list. -/
theorem IsAhead.isIn {n : Int} (h : IsAhead ⟨kind, parent ++ [n]⟩ a) (hparent : parent.length + 1 = kind.depth) :
    a.IsIn kind parent := by
  obtain ⟨parent', n', m', -, hpath, h'⟩ := h
  obtain ⟨rfl, -⟩ := List.append_inj' hpath rfl
  exact h'.isIn hparent

/-- What is left of an address is the address after the removal. -/
theorem left_eq_some_iff : left a b = some b' ↔ ¬ a.Holds b ∧ b.after a = b' := by
  rw [left]
  split
  · next h => simp [h]
  · next h => simp [h]

/-! ## Routes -/

/-- The way from the plan to an address: the kinds that one comes to, each with an index. -/
def route (a : Address) : Route := List.zipWith Step.mk a.kind.lineage a.path

/-- The route of steps that are known. -/
theorem route_eq {r : Route} (hkind : r.map Step.kind = a.kind.lineage) (hpath : r.map Step.index = a.path) :
    a.route = r := by
  rw [route, ← hkind, ← hpath, List.zipWith_map, List.zipWith_self]
  exact List.map_id r

/-- The kinds of a route are the lineage. -/
theorem map_kind_route (ha : a.IsProper) : a.route.map Step.kind = a.kind.lineage := by
  rw [route, List.map_zipWith, ← List.map_uncurry_zip_eq_zipWith]
  exact List.map_fst_zip (Nat.le_of_eq ha.symm)

/-- The indices of a route are the path. -/
theorem map_index_route (ha : a.IsProper) : a.route.map Step.index = a.path := by
  rw [route, List.map_zipWith, ← List.map_uncurry_zip_eq_zipWith]
  exact List.map_snd_zip (Nat.le_of_eq ha)

/-- A route has steps. -/
theorem route_ne_nil (ha : a.IsProper) : a.route ≠ [] := by
  intro hnil
  have hkind := map_kind_route ha
  rw [hnil] at hkind
  exact absurd (congrArg List.length hkind) (Nat.ne_of_lt a.kind.depth_pos)

/-- An address is known by its route. -/
theorem route_inj (ha : a.IsProper) (hb : b.IsProper) (h : a.route = b.route) : a = b := by
  have hlineage : a.kind.lineage = b.kind.lineage := by rw [← map_kind_route ha, h, map_kind_route hb]
  have hpath : a.path = b.path := by rw [← map_index_route ha, h, map_index_route hb]
  have hkind := congrArg List.getLast? hlineage
  rw [Kind.getLast?_lineage, Kind.getLast?_lineage, Option.some.injEq] at hkind
  cases a
  cases b
  simp_all

/-- The route to one of the records in a list. -/
theorem route_concat {n : Int} (h : IsProper ⟨kind, parent ++ [n]⟩) :
    route ⟨kind, parent ++ [n]⟩ = List.zipWith Step.mk kind.lineage.dropLast parent ++ [⟨kind, n⟩] := by
  have hlength : kind.lineage.dropLast.length = parent.length := by
    rw [IsProper, List.length_append, List.length_singleton] at h
    rw [List.length_dropLast, ← Kind.depth, ← h, Nat.add_sub_cancel]
  rw [route, kind.lineage_eq, List.dropLast_concat, List.zipWith_append hlength]
  rfl

/-- **A record holds those to which its route leads on.** -/
theorem holds_iff (ha : a.IsProper) (hb : b.IsProper) : a.Holds b ↔ a.route <+: b.route := by
  constructor
  · rintro ⟨hkind, hpath⟩
    obtain ⟨rest, hrest⟩ := Kind.mem_lineage_iff.mp hkind
    rw [route, route, ← hrest, ← List.take_append_drop a.kind.depth b.path, hpath, List.zipWith_append ha.symm]
    exact List.prefix_append _ _
  · intro hroute
    have hkind := hroute.map Step.kind
    have hpath := hroute.map Step.index
    rw [map_kind_route ha, map_kind_route hb] at hkind
    rw [map_index_route ha, map_index_route hb] at hpath
    refine ⟨Kind.mem_lineage_iff.mpr hkind, ?_⟩
    rw [← ha]
    exact (List.prefix_iff_eq_take.mp hpath).symm

/-- The routes of what records of one list hold begin alike, up to the step that leads to the record. -/
theorem Holds.route_prefix {n : Int} (h : Holds ⟨kind, parent ++ [n]⟩ a) (ha : a.IsProper) :
    List.zipWith Step.mk kind.lineage.dropLast parent ++ [⟨kind, n⟩] <+: a.route := by
  rw [← route_concat (h.isProper ha)]
  exact (holds_iff (h.isProper ha) ha).mp h

/-- **Where a listing comes first, the route is before the other one.** -/
theorem Precedes.route_before (h : a.Precedes b) (ha : a.IsProper) (hb : b.IsProper) : a.route.Before b.route := by
  cases h with
  | owner h =>
    exact Route.before_of_prefix ((holds_iff ha hb).mp h.1) fun hroute => h.2 (route_inj ha hb hroute)
  | @sibling kind parent n m hlt hheld hheld' =>
    exact Route.before_of_step (s := ⟨kind, n⟩) (t := ⟨kind, m⟩) (.inr ⟨rfl, hlt⟩) (hheld.route_prefix ha)
      (hheld'.route_prefix hb)
  | @result goal n m hheld hheld' =>
    exact Route.before_of_step (s := ⟨.action, n⟩) (t := ⟨.result, m⟩) (.inl ⟨rfl, rfl⟩) (hheld.route_prefix ha)
      (hheld'.route_prefix hb)

/-- **No two addresses precede each other.** -/
theorem Precedes.asymm (h : a.Precedes b) (ha : a.IsProper) (hb : b.IsProper) : ¬ b.Precedes a := fun h' =>
  (h.route_before ha hb).asymm (h'.route_before hb ha)

/-! ## After a removal -/

/-- A record is ahead of others if their routes turn to a later sibling of it. -/
theorem isAhead_iff (ha : a.IsProper) (hb : b.IsProper) :
    a.IsAhead b ↔
      ∃ start kind n m rest, n < m ∧ a.route = start ++ [⟨kind, n⟩] ∧ b.route = start ++ ⟨kind, m⟩ :: rest := by
  constructor
  · rintro ⟨parent, n, m, hlt, hpath, hheld⟩
    obtain ⟨rest, hroute⟩ := hheld.route_prefix hb
    obtain ⟨kind, path⟩ := a
    obtain rfl : path = parent ++ [n] := hpath
    refine ⟨_, kind, n, m, rest, hlt, route_concat ha, ?_⟩
    rw [← hroute, List.append_assoc]
    rfl
  · rintro ⟨start, kind, n, m, rest, hlt, haroute, hbroute⟩
    have hakind := map_kind_route ha
    have hapath := map_index_route ha
    rw [haroute, List.map_append, List.map_singleton] at hakind hapath
    obtain rfl : kind = a.kind := by
      have hlast := congrArg List.getLast? hakind
      rwa [List.getLast?_concat, Kind.getLast?_lineage, Option.some.injEq] at hlast
    have hsibling : IsProper ⟨a.kind, start.map Step.index ++ [m]⟩ := by
      rw [IsProper, ← ha, ← hapath, List.length_append, List.length_append, List.length_singleton,
        List.length_singleton]
    have hroute : route ⟨a.kind, start.map Step.index ++ [m]⟩ = start ++ [⟨a.kind, m⟩] := by
      refine route_eq ?_ ?_
      · rw [List.map_append, List.map_singleton, hakind]
      · rw [List.map_append, List.map_singleton]
    refine ⟨start.map Step.index, n, m, hlt, hapath.symm, (holds_iff hsibling hb).mpr ?_⟩
    rw [hroute, hbroute]
    exact ⟨rest, by rw [List.append_assoc]; rfl⟩

/-- An address of whose route something is left is not held. -/
theorem not_holds_of_left (ha : a.IsProper) (hb : b.IsProper) {r : Route} (h : a.route.left b.route = some r) :
    ¬ a.Holds b := by
  intro hheld
  rw [Route.left_of_prefix ((holds_iff ha hb).mp hheld)] at h
  cases h

/-- **What is left of an address is what is left of its route.** -/
theorem map_route_left (ha : a.IsProper) (hb : b.IsProper) : (left a b).map route = a.route.left b.route := by
  rcases Route.left_cases (route_ne_nil ha) b.route with
    hheld | ⟨start, kind, n, m, rest, hlt, haroute, hbroute⟩ | hleft
  · rw [Route.left_of_prefix hheld, left, if_pos ((holds_iff ha hb).mpr hheld), Option.map_none]
  · have hleft := Route.left_of_lt start kind hlt rest
    rw [← haroute, ← hbroute] at hleft
    have hlevel : a.kind.depth - 1 = (start.map Step.index).length := by
      rw [← ha, ← map_index_route ha, haroute, List.length_map, List.length_map, List.length_append,
        List.length_singleton, Nat.add_sub_cancel]
    rw [hleft, left, if_neg (not_holds_of_left ha hb hleft), after,
      if_pos ((isAhead_iff ha hb).mpr ⟨start, kind, n, m, rest, hlt, haroute, hbroute⟩), Option.map_some,
      Option.some.injEq]
    refine route_eq ?_ ?_
    · rw [← map_kind_route hb, hbroute, List.map_append, List.map_append, List.map_cons, List.map_cons]
    · rw [← map_index_route hb, hbroute, List.map_append, List.map_append, List.map_cons, List.map_cons, hlevel,
        modify_append_cons]
  · have hnot := not_holds_of_left ha hb hleft
    have hstays : ¬ a.IsAhead b := by
      intro hahead
      obtain ⟨start, kind, n, m, rest, hlt, haroute, hbroute⟩ := (isAhead_iff ha hb).mp hahead
      rw [haroute, hbroute, Route.left_of_lt start kind hlt rest, Option.some.injEq] at hleft
      have hstep := (List.cons.inj (List.append_cancel_left hleft)).1
      have hindex := (Step.mk.inj hstep).2
      omega
    rw [hleft, left, if_neg hnot, after, if_neg hstays, Option.map_some]

/-- Proper addresses, or none, are known by their routes. -/
theorem eq_of_map_route {x y : Option Address} (hx : ∀ a ∈ x, a.IsProper) (hy : ∀ a ∈ y, a.IsProper)
    (h : x.map route = y.map route) : x = y := by
  rcases x with _ | a <;> rcases y with _ | b
  · rfl
  · cases h
  · cases h
  · rw [route_inj (hx a rfl) (hy b rfl) (Option.some.inj h)]

/-- What is left of a proper address is a proper one. -/
theorem isProper_of_left (hb : b.IsProper) (h : left a b = some b') : b'.IsProper := by
  obtain ⟨-, rfl⟩ := left_eq_some_iff.mp h
  exact hb.after a

/-- **Records that stay have different addresses after a removal.** -/
theorem after_inj (ha : a.IsProper) (hb : b.IsProper) (hc : c.IsProper) (hab : ¬ a.Holds b) (hac : ¬ a.Holds c)
    (h : b.after a = c.after a) : b = c := by
  have hbleft := map_route_left ha hb
  have hcleft := map_route_left ha hc
  rw [left, if_neg hab, Option.map_some, h] at hbleft
  rw [left, if_neg hac, Option.map_some] at hcleft
  exact route_inj hb hc (Route.left_inj hbleft.symm hcleft.symm)

/-- What is left of an address after two removals is what is left of its route. -/
theorem map_route_bind_left (ha : a.IsProper) (hb : b.IsProper) (hc : c.IsProper) :
    ((left a c).bind (left b)).map route = (a.route.left c.route).bind b.route.left := by
  rw [← map_route_left ha hc]
  rcases hleft : left a c with _ | c'
  · rfl
  · exact map_route_left hb (isProper_of_left hc hleft)

/-- **Two records can be removed in either order**: with the addresses that they have after the other removal, a third
record is at the same address in the end, or it is gone. -/
theorem left_comm (ha : a.IsProper) (hb : b.IsProper) (hc : c.IsProper) (hab : ¬ a.Holds b) (hba : ¬ b.Holds a) :
    (left a c).bind (left (b.after a)) = (left b c).bind (left (a.after b)) := by
  have hbleft := map_route_left ha hb
  have haleft := map_route_left hb ha
  rw [left, if_neg hab, Option.map_some] at hbleft
  rw [left, if_neg hba, Option.map_some] at haleft
  have hproper {x y : Address} : ∀ z ∈ (left x c).bind (left y), z.IsProper := by
    intro z hz
    obtain ⟨w, hw, hz⟩ := Option.bind_eq_some_iff.mp hz
    exact isProper_of_left (isProper_of_left hc hw) hz
  refine eq_of_map_route hproper hproper ?_
  rw [map_route_bind_left ha (hb.after a) hc, map_route_bind_left hb (ha.after b) hc]
  exact Route.left_comm hbleft.symm haleft.symm c.route

end Address

end LifePlan
