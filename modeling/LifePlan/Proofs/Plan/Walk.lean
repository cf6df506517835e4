import LifePlan.Plan.Address
import LifePlan.Plan.Walk

/-!
# What a walk comes across

A walk comes across a record only at its own place: looking up the place of an entry finds the record of the
entry (`node?_of_mem_walk`). The entries of a record and of what it owns do not depend on where the record is,
apart from the start of their paths (`Node.entries_eq`).
-/

namespace LifePlan

attribute [ext] Alert Result Agreement Action Goal Plan

/-- The record at a place and all that it owns, as entries. -/
def Node.entries (path : Path) : Node → List Entry
  | .goal x => x.entries path
  | .action x => x.entries path
  | .agreement x => x.entries path
  | .alert x => x.entries path
  | .result x => x.entries path

/-! ## Siblings -/

/-- To change an element in the middle of a list. -/
theorem modify_append_cons {α : Type} (xs : List α) (y : α) (ys : List α) (f : α → α) :
    (xs ++ y :: ys).modify xs.length f = xs ++ f y :: ys := by
  induction xs with
  | nil => rfl
  | cons x xs ih => rw [List.cons_append, List.length_cons, List.modify_succ_cons, ih, List.cons_append]

/-- Changes that agree on an element make the same list. -/
theorem modify_congr {α : Type} {xs : List α} {n : Nat} {x : α} {f k : α → α} (hx : xs[n]? = some x)
    (h : f x = k x) : xs.modify n f = xs.modify n k := by
  obtain ⟨hn, rfl⟩ := List.getElem?_eq_some_iff.mp hx
  rw [List.modify_eq_take_cons_drop hn, List.modify_eq_take_cons_drop hn, h]

section siblings

variable {α : Type} {f : Path → α → List Entry} {path : Path} {xs : List α} {e : Entry}

/-- An entry of a list of siblings is one of a sibling, at the index that this one has. -/
theorem mem_entriesFrom {i : Nat} :
    e ∈ entriesFrom f path i xs ↔
      ∃ n x, xs[n]? = some x ∧ e ∈ f (path ++ [((i + n : Nat) : Int)]) x := by
  induction xs generalizing i with
  | nil => simp
  | cons x xs ih =>
    rw [entriesFrom_cons, List.mem_append, ih]
    constructor
    · rintro (he | ⟨n, y, hy, he⟩)
      · exact ⟨0, x, rfl, he⟩
      · rw [Nat.add_right_comm] at he
        exact ⟨n + 1, y, hy, he⟩
    · rintro ⟨n, y, hy, he⟩
      rcases n with _ | n
      · obtain rfl := Option.some.inj hy
        exact .inl he
      · rw [← Nat.add_assoc, Nat.add_right_comm] at he
        exact .inr ⟨n, y, hy, he⟩

/-- The entries of a list of siblings, with one of them changed: those before it and those behind it stay. -/
theorem entriesFrom_modify {n : Nat} {x : α} (hx : xs[n]? = some x) (path : Path) (k : α → α) :
    entriesFrom f path 0 (xs.modify n k) =
      entriesFrom f path 0 (xs.take n) ++ f (path ++ [(n : Int)]) (k x) ++
        entriesFrom f path (n + 1) (xs.drop (n + 1)) := by
  obtain ⟨hn, rfl⟩ := List.getElem?_eq_some_iff.mp hx
  have hlength : (xs.take n).length = n := List.length_take_of_le (Nat.le_of_lt hn)
  rw [List.modify_eq_take_cons_drop hn, entriesFrom_append, entriesFrom_cons, hlength, Nat.zero_add,
    List.append_assoc]

/-- The entries of a list of siblings, without one of them: those behind it are counted anew. -/
theorem entriesFrom_eraseIdx {n : Nat} {x : α} (hx : xs[n]? = some x) (path : Path) :
    entriesFrom f path 0 (xs.eraseIdx n) =
      entriesFrom f path 0 (xs.take n) ++ entriesFrom f path n (xs.drop (n + 1)) := by
  obtain ⟨hn, rfl⟩ := List.getElem?_eq_some_iff.mp hx
  have hlength : (xs.take n).length = n := List.length_take_of_le (Nat.le_of_lt hn)
  rw [List.eraseIdx_eq_take_drop_succ, entriesFrom_append, hlength, Nat.zero_add]

end siblings

/-! ## Where a record is -/

/-- The entry with a longer path, at the start. -/
def Entry.under (path : Path) (e : Entry) : Entry := { e with path := path ++ e.path }

/-- What is under a place that is under another one is under both. -/
theorem Entry.under_under (path path' : Path) (e : Entry) :
    (e.under path').under path = e.under (path ++ path') := by
  rw [under, under, under, List.append_assoc]

/-- The entries of siblings only start with another path if those of each of them do. -/
theorem entriesFrom_eq {α : Type} {f : Path → α → List Entry}
    (hf : ∀ path x, f path x = (f [] x).map (Entry.under path)) (path : Path) (i : Nat) (xs : List α) :
    entriesFrom f path i xs = (entriesFrom f [] i xs).map (Entry.under path) := by
  induction xs generalizing i with
  | nil => rfl
  | cons x xs ih =>
    have hx : f (path ++ [(i : Int)]) x = (f ([] ++ [(i : Int)]) x).map (Entry.under path) := by
      rw [hf (path ++ [(i : Int)]), hf ([] ++ [(i : Int)]), List.map_map]
      exact List.map_congr_left fun e _ => (e.under_under path _).symm
    rw [entriesFrom_cons, entriesFrom_cons, List.map_append, hx, ih]

/-- An alert is the same anywhere. -/
theorem Alert.entries_eq (path : Path) (x : Alert) : x.entries path = (x.entries []).map (Entry.under path) := by
  simp [entries, Entry.under]

/-- So is a result. -/
theorem Result.entries_eq (path : Path) (x : Result) :
    x.entries path = (x.entries []).map (Entry.under path) := by
  simp [entries, Entry.under]

/-- An agreement is the same anywhere, with its alerts. -/
theorem Agreement.entries_eq (path : Path) (x : Agreement) :
    x.entries path = (x.entries []).map (Entry.under path) := by
  rw [entries, entries, entriesFrom_eq Alert.entries_eq]
  simp [Entry.under]

/-- So is an action, with its agreements. -/
theorem Action.entries_eq (path : Path) (x : Action) :
    x.entries path = (x.entries []).map (Entry.under path) := by
  rw [entries, entries, entriesFrom_eq Agreement.entries_eq]
  simp [Entry.under]

/-- And so is a goal, with its actions and its results. -/
theorem Goal.entries_eq (path : Path) (x : Goal) : x.entries path = (x.entries []).map (Entry.under path) := by
  rw [entries, entries, entriesFrom_eq Action.entries_eq, entriesFrom_eq Result.entries_eq]
  simp [Entry.under]

/-- **A record and what it owns are the same anywhere**, apart from the start of their paths. -/
theorem Node.entries_eq (path : Path) (x : Node) : x.entries path = (x.entries []).map (Entry.under path) := by
  cases x with
  | goal x => exact x.entries_eq path
  | action x => exact x.entries_eq path
  | agreement x => exact x.entries_eq path
  | alert x => exact x.entries_eq path
  | result x => exact x.entries_eq path

namespace Plan

/-! ## Plans that are the same -/

/-- Plans with the same fields and the same goals are the same. -/
theorem eq_of_get {p q : Plan} (hfields : ∀ f, p.get f = q.get f) (hgoals : p.goals = q.goals) : p = q :=
  Plan.ext (hfields .firstname) (hfields .lastname) (hfields .birthday) (hfields .address) (hfields .zip)
    (hfields .city) (hfields .country) (hfields .state) (hfields .telephone) (hfields .mobile)
    (hfields .email) hgoals (hfields .date) (hfields .about)

/-! ## Looking entries up -/

/-- **A walk comes across a record only at its own place.** -/
theorem node?_of_mem_walk {p : Plan} {e : Entry} (he : e ∈ p.walk) : p.node? e.kind e.path = some e.node := by
  obtain ⟨g, x, hx, he⟩ := mem_entriesFrom.mp he
  rcases List.mem_cons.mp he with rfl | he
  · simp [node?, Entry.kind, Node.kind, hx]
  rcases List.mem_append.mp he with he | he
  · obtain ⟨a, y, hy, he⟩ := mem_entriesFrom.mp he
    rcases List.mem_cons.mp he with rfl | he
    · simp [node?, Entry.kind, Node.kind, hx, hy]
    obtain ⟨ag, z, hz, he⟩ := mem_entriesFrom.mp he
    rcases List.mem_cons.mp he with rfl | he
    · simp [node?, Entry.kind, Node.kind, hx, hy, hz]
    obtain ⟨al, w, hw, he⟩ := mem_entriesFrom.mp he
    obtain rfl := List.mem_singleton.mp he
    simp [node?, Entry.kind, Node.kind, hx, hy, hz, hw]
  · obtain ⟨r, y, hy, he⟩ := mem_entriesFrom.mp he
    obtain rfl := List.mem_singleton.mp he
    simp [node?, Entry.kind, Node.kind, hx, hy]

end Plan

end LifePlan
