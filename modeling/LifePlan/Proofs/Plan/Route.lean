import LifePlan.Kind
import Mathlib.Data.List.Lex
import Mathlib.Tactic.SplitIfs

/-!
# Routes

A route leads from the plan down to a record. Its steps say to which kind one turns and at which index.

Routes are ordered as a listing comes to their ends (`Route.Before`): from a record to what it owns, from an earlier
sibling to a later one, and from actions to results. The order is asymmetric (`Route.Before.asymm`).

When a record is removed, the routes through it are gone, and those through its later siblings have one index that
is lower by one (`Route.left`). Which of two records is removed first makes no difference to the route of a third
one (`Route.left_comm`).
-/

namespace LifePlan

/-- A turn on the way from the plan to a record. -/
structure Step where
  kind : Kind
  index : Int
  deriving DecidableEq, Repr

/-- The way from the plan to a record. -/
abbrev Route := List Step

namespace Step

variable {s s' t t' u : Step}

/-- A listing takes one turn before it takes the other one. -/
def Before (s t : Step) : Prop :=
  s.kind = .action ∧ t.kind = .result ∨ s.kind = t.kind ∧ s.index < t.index

instance : Std.Asymm Before where
  asymm := by
    rintro s t (⟨hs, ht⟩ | ⟨hkind, hlt⟩) (⟨ht', hs'⟩ | ⟨hkind', hlt'⟩)
    · rw [hs] at hs'
      cases hs'
    · rw [hs, ht] at hkind'
      cases hkind'
    · rw [ht', hs'] at hkind
      cases hkind
    · omega

/-! ## Steps after a removal -/

/-- What is left of an index when the sibling at another one is removed. -/
def indexLeft (gone i : Int) : Option Int :=
  if gone < i then some (i - 1) else if i < gone then some i else none

/-- What is left of a step when the record at the end of another one is removed. -/
def left (gone s : Step) : Option Step :=
  if gone.kind = s.kind then (indexLeft gone.index s.index).map (⟨s.kind, ·⟩) else some s

/-- Siblings stay apart. -/
theorem indexLeft_inj {n i j k : Int} (hi : indexLeft n i = some k) (hj : indexLeft n j = some k) : i = j := by
  unfold indexLeft at hi hj
  split_ifs at hi hj <;> simp only [Option.some.injEq] at hi hj <;> omega

/-- Two siblings can be removed in either order. -/
theorem indexLeft_comm {n m n' m' : Int} (hm : indexLeft n m = some m') (hn : indexLeft m n = some n') (i : Int) :
    (indexLeft n i).bind (indexLeft m') = (indexLeft m i).bind (indexLeft n') := by
  unfold indexLeft at *
  split_ifs at hm hn <;> simp only [Option.some.injEq] at hm hn
  all_goals
    subst hm hn
    split_ifs
    all_goals simp only [Option.bind_some, Option.bind_none]
    all_goals split_ifs
    all_goals first | rfl | omega

/-- A step to another kind stays. -/
theorem left_of_ne (h : s.kind ≠ t.kind) : left s t = some t := if_neg h

/-- A step that is removed does not stay. -/
theorem left_self (s : Step) : left s s = none := by
  rw [left, if_pos rfl, indexLeft, if_neg (Int.lt_irrefl _), if_neg (Int.lt_irrefl _), Option.map_none]

/-- A step that stays is another one. -/
theorem ne_of_left (h : left s t = some t') : s ≠ t := by
  rintro rfl
  rw [left_self] at h
  cases h

/-- What stays leads to the same kind. -/
theorem kind_of_left (h : left s t = some t') : t'.kind = t.kind := by
  unfold left at h
  split_ifs at h
  · obtain ⟨i, -, rfl⟩ := Option.map_eq_some_iff.mp h
    rfl
  · rw [Option.some.inj h]

/-- Different steps stay apart. -/
theorem left_inj (ht : left s t = some u) (ht' : left s t' = some u) : t = t' := by
  have hkind : t.kind = t'.kind := (kind_of_left ht).symm.trans (kind_of_left ht')
  by_cases hs : s.kind = t.kind
  · rw [left, if_pos hs] at ht
    rw [left, if_pos (hs.trans hkind)] at ht'
    obtain ⟨i, hi, rfl⟩ := Option.map_eq_some_iff.mp ht
    obtain ⟨j, hj, hij⟩ := Option.map_eq_some_iff.mp ht'
    obtain rfl := (Step.mk.inj hij).2
    have hindex := indexLeft_inj hi hj
    cases t
    cases t'
    simp_all
  · rw [left_of_ne hs] at ht
    rw [left_of_ne (hkind ▸ hs)] at ht'
    exact Option.some.inj (ht.trans ht'.symm)

/-- What stays of a step to another kind stays again. -/
theorem bind_left_of_ne (h : s.kind ≠ u.kind) (t : Step) : (left t u).bind (left s) = left t u := by
  rcases hu : left t u with _ | v
  · rfl
  · rw [Option.bind_some, left_of_ne (kind_of_left hu ▸ h)]

/-- Two records under one parent can be removed in either order. -/
theorem left_comm (ht : left s t = some t') (hs : left t s = some s') (u : Step) :
    (left s u).bind (left t') = (left t u).bind (left s') := by
  by_cases hst : s.kind = t.kind
  · by_cases hu : s.kind = u.kind
    · obtain ⟨k, n⟩ := s
      obtain ⟨k', m⟩ := t
      obtain ⟨k'', i⟩ := u
      simp only at hst hu
      subst hst hu
      simp only [left, if_true] at ht hs
      obtain ⟨m', hm, rfl⟩ := Option.map_eq_some_iff.mp ht
      obtain ⟨n', hn, rfl⟩ := Option.map_eq_some_iff.mp hs
      have hcomm := congrArg (Option.map (Step.mk k)) (indexLeft_comm hm hn i)
      simpa only [left, if_true, Option.map_bind, Option.bind_map, Function.comp_def] using hcomm
    · have hs' := kind_of_left hs
      have ht' := kind_of_left ht
      rw [left_of_ne hu, left_of_ne (hst ▸ hu), Option.bind_some, Option.bind_some, left_of_ne (by rwa [ht', ← hst]),
        left_of_ne (by rwa [hs'])]
  · -- Neither is a sibling of the other, so that both stay; the third one is a sibling of one of them at most.
    obtain rfl : t = t' := Option.some.inj ((left_of_ne hst).symm.trans ht)
    obtain rfl : s = s' := Option.some.inj ((left_of_ne (Ne.symm hst)).symm.trans hs)
    by_cases hu : s.kind = u.kind
    · have hne : t.kind ≠ u.kind := fun h => hst (hu.trans h.symm)
      rw [bind_left_of_ne hne, left_of_ne hne, Option.bind_some]
    · rw [left_of_ne hu, Option.bind_some, bind_left_of_ne hu]

end Step

namespace Route

variable {s s' t t' : Step} {a b a' b' r r' : Route}

/-! ## Order -/

/-- A listing comes to the end of one route before it comes to the end of the other one. -/
def Before : Route → Route → Prop := List.Lex Step.Before

/-- No two routes are before each other. -/
theorem Before.asymm (h : r.Before r') : ¬ r'.Before r := (List.Lex.asymm Step.Before).asymm r r' h

/-- Routes that part are ordered by the steps with which they part. -/
theorem before_of_step (h : s.Before t) {start : Route} (hr : start ++ [s] <+: r) (hr' : start ++ [t] <+: r') :
    r.Before r' := by
  obtain ⟨rest, rfl⟩ := hr
  obtain ⟨rest', rfl⟩ := hr'
  rw [List.append_assoc, List.append_assoc]
  induction start with
  | nil => exact .rel h
  | cons x start ih => exact .cons ih

/-- A route is before those to which it leads on. -/
theorem before_of_prefix (h : r <+: r') (hne : r ≠ r') : r.Before r' := by
  induction r generalizing r' with
  | nil =>
    rcases r' with _ | ⟨t, r'⟩
    · exact absurd rfl hne
    · exact .nil
  | cons s r ih =>
    obtain ⟨rest, rfl⟩ := h
    exact .cons (ih (List.prefix_append r rest) fun hr => hne (congrArg (s :: ·) hr))

/-! ## Routes after a removal -/

/-- What is left of a route when the record at the end of another one is removed. -/
def left : Route → Route → Option Route
  | [], _ => none
  | _ :: _, [] => some []
  | [s], t :: r => (s.left t).map (· :: r)
  | s :: s' :: gone, t :: r => if s = t then (left (s' :: gone) r).map (t :: ·) else some (t :: r)

@[simp] theorem left_singleton_cons (s t : Step) (r : Route) : left [s] (t :: r) = (s.left t).map (· :: r) := rfl

/-- The plan stays. -/
theorem left_nil (ha : a ≠ []) : left a [] = some [] := by
  obtain ⟨s, a, rfl⟩ := List.exists_cons_of_ne_nil ha
  rw [left]

/-- Routes with the same first step. -/
theorem left_cons_self (ha : a ≠ []) (s : Step) (r : Route) :
    left (s :: a) (s :: r) = (left a r).map (s :: ·) := by
  obtain ⟨u, a, rfl⟩ := List.exists_cons_of_ne_nil ha
  rw [left, if_pos rfl]

/-- A route with another first step stays, if the one that is gone does not end with its own. -/
theorem left_cons_of_ne (ha : a ≠ []) (hne : s ≠ t) (r : Route) : left (s :: a) (t :: r) = some (t :: r) := by
  obtain ⟨u, a, rfl⟩ := List.exists_cons_of_ne_nil ha
  rw [left, if_neg hne]

/-- A route to which the one that is gone leads on is gone. -/
theorem left_of_prefix (h : a <+: r) : left a r = none := by
  induction a generalizing r with
  | nil => rfl
  | cons s a ih =>
    obtain ⟨rest, rfl⟩ := h
    rcases eq_or_ne a [] with rfl | ha
    · rw [List.cons_append, left_singleton_cons, Step.left_self, Option.map_none]
    · rw [List.cons_append, left_cons_self ha, ih (List.prefix_append a rest), Option.map_none]

/-- A route through a later sibling has one index that is lower by one. -/
theorem left_of_lt (start : Route) (kind : Kind) {n m : Int} (h : n < m) (rest : Route) :
    left (start ++ [⟨kind, n⟩]) (start ++ ⟨kind, m⟩ :: rest) = some (start ++ ⟨kind, m - 1⟩ :: rest) := by
  induction start with
  | nil =>
    rw [List.nil_append, List.nil_append, left_singleton_cons, Step.left, if_pos rfl, Step.indexLeft, if_pos h]
    rfl
  | cons s start ih => rw [List.cons_append, List.cons_append, left_cons_self (by simp), ih, Option.map_some]; rfl

/-- **What a removal does to a route**: it is gone, or it goes through a later sibling, or it stays. -/
theorem left_cases (ha : a ≠ []) (r : Route) :
    a <+: r ∨
      (∃ start kind n m rest, n < m ∧ a = start ++ [⟨kind, n⟩] ∧ r = start ++ ⟨kind, m⟩ :: rest) ∨
        left a r = some r := by
  induction a generalizing r with
  | nil => exact absurd rfl ha
  | cons s a ih =>
    rcases r with _ | ⟨t, r⟩
    · exact .inr (.inr rfl)
    by_cases ha : a = []
    · subst ha
      obtain ⟨k, n⟩ := s
      obtain ⟨k', m⟩ := t
      by_cases hkind : k = k'
      · subst hkind
        rcases Int.lt_trichotomy n m with hlt | rfl | hgt
        · exact .inr (.inl ⟨[], k, n, m, r, hlt, rfl, rfl⟩)
        · exact .inl ⟨r, rfl⟩
        · refine .inr (.inr ?_)
          rw [left_singleton_cons, Step.left, if_pos rfl, Step.indexLeft, if_neg (Int.lt_asymm hgt), if_pos hgt]
          rfl
      · refine .inr (.inr ?_)
        rw [left_singleton_cons, Step.left_of_ne hkind, Option.map_some]
    · by_cases hst : s = t
      · subst hst
        rcases ih ha r with ⟨rest, rfl⟩ | ⟨start, kind, n, m, rest, hlt, rfl, rfl⟩ | hleft
        · exact .inl ⟨rest, rfl⟩
        · exact .inr (.inl ⟨s :: start, kind, n, m, rest, hlt, rfl, rfl⟩)
        · exact .inr (.inr (by rw [left_cons_self ha, hleft, Option.map_some]))
      · exact .inr (.inr (left_cons_of_ne ha hst r))

/-- The first step stays, if the route that is gone does not end with its own. -/
theorem head?_left (ha : a ≠ []) (h : left (s :: a) r = some r') : r'.head? = r.head? := by
  rcases r with _ | ⟨t, r⟩
  · obtain rfl := Option.some.inj h
    rfl
  by_cases hst : s = t
  · subst hst
    rw [left_cons_self ha] at h
    obtain ⟨r', -, rfl⟩ := Option.map_eq_some_iff.mp h
    rfl
  · rw [left_cons_of_ne ha hst] at h
    obtain rfl := Option.some.inj h
    rfl

/-- Different routes stay apart. -/
theorem left_inj (hr : left a r = some b) (hr' : left a r' = some b) : r = r' := by
  induction a generalizing r r' b with
  | nil => cases hr
  | cons s a ih =>
    by_cases ha : a = []
    · subst ha
      rcases r with _ | ⟨t, r⟩ <;> rcases r' with _ | ⟨t', r'⟩
      · rfl
      · obtain rfl := Option.some.inj hr
        obtain ⟨u, -, hu⟩ := Option.map_eq_some_iff.mp hr'
        cases hu
      · obtain rfl := Option.some.inj hr'
        obtain ⟨u, -, hu⟩ := Option.map_eq_some_iff.mp hr
        cases hu
      · obtain ⟨u, hu, rfl⟩ := Option.map_eq_some_iff.mp hr
        obtain ⟨u', hu', hb⟩ := Option.map_eq_some_iff.mp hr'
        obtain ⟨rfl, rfl⟩ := List.cons.inj hb
        rw [Step.left_inj hu hu']
    · have hhead := (head?_left ha hr).symm.trans (head?_left ha hr')
      rcases r with _ | ⟨t, r⟩ <;> rcases r' with _ | ⟨t', r'⟩
      · rfl
      · cases hhead
      · cases hhead
      · obtain rfl := Option.some.inj hhead
        by_cases hst : s = t
        · subst hst
          rw [left_cons_self ha] at hr hr'
          obtain ⟨u, hu, rfl⟩ := Option.map_eq_some_iff.mp hr
          obtain ⟨u', hu', hb⟩ := Option.map_eq_some_iff.mp hr'
          obtain rfl := (List.cons.inj hb).2
          rw [ih hu hu']
        · rw [left_cons_of_ne ha hst] at hr hr'
          exact Option.some.inj (hr.trans hr'.symm)

/-- What stays of a route does not end with the plan. -/
theorem ne_nil_of_left (hb : b ≠ []) (h : left a b = some b') : b' ≠ [] := by
  obtain ⟨t, b, rfl⟩ := List.exists_cons_of_ne_nil hb
  rcases a with _ | ⟨s, a⟩
  · cases h
  by_cases ha : a = []
  · subst ha
    obtain ⟨t', -, rfl⟩ := Option.map_eq_some_iff.mp h
    exact List.cons_ne_nil t' b
  · have hhead := head?_left ha h
    rintro rfl
    cases hhead

/-- What stays of a route with another first step stays again. -/
theorem bind_left_of_ne (ha : a ≠ []) (hb : b ≠ []) {u : Step} (h : s ≠ u) (r : Route) :
    (left (t :: b) (u :: r)).bind (left (s :: a)) = left (t :: b) (u :: r) := by
  by_cases htu : t = u
  · subst htu
    rw [left_cons_self hb]
    rcases left b r with _ | r'
    · rfl
    · rw [Option.map_some, Option.bind_some, left_cons_of_ne ha h]
  · rw [left_cons_of_ne hb htu, Option.bind_some, left_cons_of_ne ha h]

/-- Routes with the same first step, after two removals. -/
theorem bind_left_cons_self (ha : a ≠ []) (hb : b ≠ []) (s : Step) (r : Route) :
    (left (s :: a) (s :: r)).bind (left (s :: b)) = ((left a r).bind (left b)).map (s :: ·) := by
  rw [left_cons_self ha]
  rcases left a r with _ | r'
  · rfl
  · rw [Option.map_some, Option.bind_some, left_cons_self hb, Option.bind_some]

/-- Two siblings can be removed in either order. -/
theorem left_comm_siblings (ht : s.left t = some t') (hs : t.left s = some s') (r : Route) :
    (left [s] r).bind (left [t']) = (left [t] r).bind (left [s']) := by
  rcases r with _ | ⟨u, r⟩
  · rfl
  have hcomm := congrArg (Option.map (· :: r)) (Step.left_comm ht hs u)
  simpa only [left_singleton_cons, Option.bind_map, Option.map_bind, Function.comp_def] using hcomm

/-- A record and one that a sibling owns can be removed in either order. -/
theorem left_comm_singleton (hb : b ≠ []) (ht : s.left t = some t') (r : Route) :
    (left [s] r).bind (left (t' :: b)) = (left (t :: b) r).bind (left [s]) := by
  rcases r with _ | ⟨u, r⟩
  · rfl
  by_cases hu : t = u
  · subst hu
    rw [left_singleton_cons, ht, left_cons_self hb, Option.map_some, Option.bind_some, left_cons_self hb,
      Option.bind_map]
    rcases left b r with _ | x
    · rfl
    · rw [Option.bind_some, Function.comp_apply, left_singleton_cons, ht]
      rfl
  · rw [left_cons_of_ne hb hu, Option.bind_some, left_singleton_cons]
    rcases hs : s.left u with _ | v
    · rfl
    · have hv : t' ≠ v := fun h => hu (Step.left_inj ht (h ▸ hs))
      rw [Option.map_some, Option.bind_some, left_cons_of_ne hb hv]

/-- Two records that different ones own can be removed in either order. The third route begins like one of theirs at
most. -/
theorem left_comm_of_ne (ha : a ≠ []) (hb : b ≠ []) (hst : s ≠ t) (r : Route) :
    (left (s :: a) r).bind (left (t :: b)) = (left (t :: b) r).bind (left (s :: a)) := by
  rcases r with _ | ⟨u, r⟩
  · rw [left_nil (List.cons_ne_nil s a), left_nil (List.cons_ne_nil t b), Option.bind_some, Option.bind_some,
      left_nil (List.cons_ne_nil s a), left_nil (List.cons_ne_nil t b)]
  by_cases hu : s = u
  · have hne : t ≠ u := fun h => hst (hu.trans h.symm)
    rw [bind_left_of_ne hb ha hne, left_cons_of_ne hb hne, Option.bind_some]
  · rw [left_cons_of_ne ha hu, Option.bind_some, bind_left_of_ne ha hb hu]

/-- Two records that can be removed in either order can be so under one that owns both. -/
theorem left_comm_cons (ha : a ≠ []) (ha' : a' ≠ []) (hb : b ≠ []) (hb' : b' ≠ []) (s : Step)
    (h : ∀ r, (left a r).bind (left b') = (left b r).bind (left a')) (r : Route) :
    (left (s :: a) r).bind (left (s :: b')) = (left (s :: b) r).bind (left (s :: a')) := by
  rcases r with _ | ⟨u, r⟩
  · rfl
  by_cases hu : s = u
  · subst hu
    rw [bind_left_cons_self ha hb', bind_left_cons_self hb ha', h]
  · rw [left_cons_of_ne ha hu, left_cons_of_ne hb hu, Option.bind_some, Option.bind_some, left_cons_of_ne hb' hu,
      left_cons_of_ne ha' hu]

/-- **Two records can be removed in either order**: with what is left of the routes to them, the same is left of a
third route. -/
theorem left_comm (hb : left a b = some b') (ha : left b a = some a') (r : Route) :
    (left a r).bind (left b') = (left b r).bind (left a') := by
  induction a generalizing b b' a' r with
  | nil => cases hb
  | cons s a ih =>
    rcases b with _ | ⟨t, b⟩
    · cases ha
    by_cases hanil : a = [] <;> by_cases hbnil : b = []
    · subst hanil hbnil
      obtain ⟨t', ht, rfl⟩ := Option.map_eq_some_iff.mp hb
      obtain ⟨s', hs, rfl⟩ := Option.map_eq_some_iff.mp ha
      exact left_comm_siblings ht hs r
    · subst hanil
      obtain ⟨t', ht, rfl⟩ := Option.map_eq_some_iff.mp hb
      rw [left_cons_of_ne hbnil (Step.ne_of_left ht).symm] at ha
      cases ha
      exact left_comm_singleton hbnil ht r
    · subst hbnil
      obtain ⟨s', hs, rfl⟩ := Option.map_eq_some_iff.mp ha
      rw [left_cons_of_ne hanil (Step.ne_of_left hs).symm] at hb
      cases hb
      exact (left_comm_singleton hanil hs r).symm
    by_cases hst : s = t
    · subst hst
      rw [left_cons_self hanil] at hb
      rw [left_cons_self hbnil] at ha
      obtain ⟨b'', hb'', rfl⟩ := Option.map_eq_some_iff.mp hb
      obtain ⟨a'', ha'', rfl⟩ := Option.map_eq_some_iff.mp ha
      exact left_comm_cons hanil (ne_nil_of_left hanil ha'') hbnil (ne_nil_of_left hbnil hb'') s (ih hb'' ha'') r
    · rw [left_cons_of_ne hanil hst] at hb
      rw [left_cons_of_ne hbnil (Ne.symm hst)] at ha
      cases hb
      cases ha
      exact left_comm_of_ne hanil hbnil hst r

end Route

end LifePlan
