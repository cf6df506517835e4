import LifePlan.Proofs.Plan.Edit
import LifePlan.Proofs.Plan.Address
import LifePlan.Proofs.Plan.Walk
import Mathlib.Data.Set.Card

/-!
# Walking and looking up

A walk comes across exactly the records that can be looked up, and at the same addresses (`Plan.mem_walk_iff`), each
of them once (`Plan.nodup_addresses`) and in the order of `Address.Precedes` (`Plan.pairwise_walk`): parents first,
siblings by their indices, actions before results. So the two ways through a plan agree (`Plan.walk_agrees`).

`Lists kind f` says of a way to list the records of a kind, with what they own, that all entries are held by the
address at which it starts and stand in this order. From a way to list the records of one kind it follows for the
kind that owns them.
-/

namespace LifePlan

/-! ## Addresses that own others -/

namespace Address

variable {a b c : Address} {kind owner : Kind} {path : Path}

/-- What a record holds, it holds with all that this holds. -/
theorem Holds.trans (h : a.Holds b) (h' : b.Holds c) : a.Holds c := by
  have hdepth : a.kind.depth ≤ b.kind.depth := (Kind.mem_lineage_iff.mp h.1).length_le
  refine ⟨Kind.mem_lineage_iff.mpr ((Kind.mem_lineage_iff.mp h.1).trans (Kind.mem_lineage_iff.mp h'.1)), ?_⟩
  rw [← h.2, ← h'.2, List.take_take, Nat.min_eq_left hdepth]

/-- A record owns its children and what they hold. -/
theorem Holds.owns {n : Int} (hlineage : kind.lineage = owner.lineage ++ [kind]) (hpath : path.length = owner.depth)
    (h : Holds ⟨kind, path ++ [n]⟩ a) : Owns ⟨owner, path⟩ a := by
  have howner : Holds ⟨owner, path⟩ ⟨kind, path ++ [n]⟩ := by
    refine ⟨Kind.mem_lineage_iff.mpr (hlineage ▸ List.prefix_append _ _), ?_⟩
    rw [← hpath, List.take_left]
  refine ⟨howner.trans h, ?_⟩
  rintro rfl
  have hlength := (Kind.mem_lineage_iff.mp h.1).length_le
  rw [hlineage, List.length_append, List.length_singleton] at hlength
  exact absurd hlength (Nat.not_succ_le_self _)

end Address

/-! ## Listing records of one kind -/

/-- A way to list the records of a kind, each with what it owns: from an address of the kind one gets what this address
holds, in the order of a listing. -/
structure Lists {α : Type} (kind : Kind) (f : Path → α → List Entry) : Prop where
  holds : ∀ {path x e}, path.length = kind.depth → e ∈ f path x → Address.Holds ⟨kind, path⟩ e.address
  pairwise : ∀ {path x}, path.length = kind.depth → (f path x).Pairwise fun e e' => e.address.Precedes e'.address

namespace Lists

variable {α β : Type} {kind owner : Kind} {f : Path → α → List Entry} {path : Path} {e : Entry}

/-- An entry of a list of siblings is held by one of them. -/
theorem exists_holds (hf : Lists kind f) (hpath : path.length + 1 = kind.depth) {i : Nat} {xs : List α}
    (he : e ∈ entriesFrom f path i xs) :
    ∃ n : Nat, i ≤ n ∧ Address.Holds ⟨kind, path ++ [(n : Int)]⟩ e.address := by
  obtain ⟨n, x, -, he⟩ := mem_entriesFrom.mp he
  exact ⟨i + n, Nat.le_add_right i n, hf.holds (by rw [List.length_append, List.length_singleton, hpath]) he⟩

/-- Siblings are listed in order, each with what it owns. -/
theorem pairwise_entriesFrom (hf : Lists kind f) (hpath : path.length + 1 = kind.depth) (i : Nat) (xs : List α) :
    (entriesFrom f path i xs).Pairwise fun e e' => e.address.Precedes e'.address := by
  induction xs generalizing i with
  | nil => exact List.Pairwise.nil
  | cons x xs ih =>
    have hlength : (path ++ [(i : Int)]).length = kind.depth := by
      rw [List.length_append, List.length_singleton, hpath]
    refine List.pairwise_append.mpr ⟨hf.pairwise hlength, ih (i + 1), fun e he e' he' => ?_⟩
    obtain ⟨n, hn, hholds⟩ := hf.exists_holds hpath he'
    exact .sibling (by omega) (hf.holds hlength he) hholds

/-- An entry of a list of children is owned by the parent. -/
theorem owns (hf : Lists kind f) (hlineage : kind.lineage = owner.lineage ++ [kind]) (hpath : path.length = owner.depth)
    {xs : List α} (he : e ∈ entriesFrom f path 0 xs) : Address.Owns ⟨owner, path⟩ e.address := by
  have hdepth : path.length + 1 = kind.depth := by
    rw [hpath, Kind.depth, Kind.depth, hlineage, List.length_append, List.length_singleton]
  obtain ⟨n, -, hholds⟩ := hf.exists_holds hdepth he
  exact hholds.owns hlineage hpath

/-- Records that own nothing are listed by themselves. -/
theorem leaf {f : Path → α → Entry} (haddress : ∀ path x, (f path x).address = ⟨kind, path⟩) :
    Lists kind fun path x => [f path x] where
  holds := by
    intro path x e hpath he
    obtain rfl := List.mem_singleton.mp he
    rw [haddress]
    exact Address.Holds.refl hpath
  pairwise _ := List.pairwise_singleton _ _

/-- A record is listed in front of what it owns. -/
theorem cons {head : Path → β → Entry} {g : Path → β → List Entry}
    (haddress : ∀ path x, (head path x).address = ⟨owner, path⟩)
    (howns : ∀ path x e, path.length = owner.depth → e ∈ g path x → Address.Owns ⟨owner, path⟩ e.address)
    (hpairwise : ∀ path x, path.length = owner.depth →
      (g path x).Pairwise fun e e' => e.address.Precedes e'.address) :
    Lists owner fun path x => head path x :: g path x where
  holds := by
    intro path x e hpath he
    rcases List.mem_cons.mp he with rfl | he
    · rw [haddress]
      exact Address.Holds.refl hpath
    · exact (howns path x e hpath he).1
  pairwise := by
    intro path x hpath
    refine List.pairwise_cons.mpr ⟨fun e he => ?_, hpairwise path x hpath⟩
    rw [haddress]
    exact .owner (howns path x e hpath he)

end Lists

/-- Alerts are listed by themselves. -/
theorem lists_alert : Lists .alert Alert.entries := Lists.leaf fun _ _ => rfl

/-- So are results. -/
theorem lists_result : Lists .result Result.entries := Lists.leaf fun _ _ => rfl

/-- Agreements are listed with their alerts. -/
theorem lists_agreement : Lists .agreement Agreement.entries :=
  Lists.cons (fun _ _ => rfl) (fun _ _ _ hpath he => lists_alert.owns rfl hpath he) fun _ _ hpath =>
    lists_alert.pairwise_entriesFrom (congrArg (· + 1) hpath) 0 _

/-- Actions are listed with their agreements. -/
theorem lists_action : Lists .action Action.entries :=
  Lists.cons (fun _ _ => rfl) (fun _ _ _ hpath he => lists_agreement.owns rfl hpath he) fun _ _ hpath =>
    lists_agreement.pairwise_entriesFrom (congrArg (· + 1) hpath) 0 _

/-- Goals are listed with their actions first and their results behind them. -/
theorem lists_goal : Lists .goal Goal.entries := by
  refine Lists.cons (fun _ _ => rfl) (fun path x e hpath he => ?_) fun path x hpath => ?_
  · rcases List.mem_append.mp he with he | he
    · exact lists_action.owns rfl hpath he
    · exact lists_result.owns rfl hpath he
  · have hdepth : path.length + 1 = 2 := congrArg (· + 1) hpath
    refine List.pairwise_append.mpr ⟨lists_action.pairwise_entriesFrom hdepth 0 _,
      lists_result.pairwise_entriesFrom hdepth 0 _, fun e he e' he' => ?_⟩
    obtain ⟨n, -, hholds⟩ := lists_action.exists_holds hdepth he
    obtain ⟨m, -, hholds'⟩ := lists_result.exists_holds hdepth he'
    exact .result hholds hholds'

/-- A record of any kind holds its entries. -/
theorem Node.holds_of_mem_entries {x : Node} {path : Path} (hpath : path.length = x.kind.depth) {e : Entry}
    (he : e ∈ x.entries path) : Address.Holds ⟨x.kind, path⟩ e.address := by
  cases x with
  | goal x => exact lists_goal.holds hpath he
  | action x => exact lists_action.holds hpath he
  | agreement x => exact lists_agreement.holds hpath he
  | alert x => exact lists_alert.holds hpath he
  | result x => exact lists_result.holds hpath he

namespace Plan

variable {p : Plan} {e : Entry} {kind : Kind} {path : Path}

/-! ## What a walk comes across -/

/-- A record that can be looked up is come across. -/
theorem mem_walk_of_node? {node : Node} (h : p.node? kind path = some node) :
    node.kind = kind ∧ ⟨path, node⟩ ∈ p.walk := by
  have hat {α : Type} {f : Path → α → List Entry} {xs : List α} {i : Int} {x : α} (parent : Path)
      (hx : at? xs i = some x) {e : Entry} (he : e ∈ f (parent ++ [i]) x) : e ∈ entriesFrom f parent 0 xs := by
    cases i with
    | ofNat n => exact mem_entriesFrom.mpr ⟨n, x, hx, by rwa [Nat.zero_add]⟩
    | negSucc n => cases hx
  unfold node? at h
  split at h
  · obtain ⟨goal, hgoal, rfl⟩ := Option.map_eq_some_iff.mp h
    exact ⟨rfl, hat [] hgoal List.mem_cons_self⟩
  · obtain ⟨goal, hgoal, h⟩ := Option.bind_eq_some_iff.mp h
    obtain ⟨action, haction, rfl⟩ := Option.map_eq_some_iff.mp h
    refine ⟨rfl, hat [] hgoal (List.mem_cons_of_mem _ (List.mem_append_left _ ?_))⟩
    exact hat _ haction List.mem_cons_self
  · obtain ⟨goal, hgoal, h⟩ := Option.bind_eq_some_iff.mp h
    obtain ⟨action, haction, h⟩ := Option.bind_eq_some_iff.mp h
    obtain ⟨agreement, hagreement, rfl⟩ := Option.map_eq_some_iff.mp h
    refine ⟨rfl, hat [] hgoal (List.mem_cons_of_mem _ (List.mem_append_left _ ?_))⟩
    refine hat _ haction (List.mem_cons_of_mem _ ?_)
    exact hat _ hagreement List.mem_cons_self
  · obtain ⟨goal, hgoal, h⟩ := Option.bind_eq_some_iff.mp h
    obtain ⟨action, haction, h⟩ := Option.bind_eq_some_iff.mp h
    obtain ⟨agreement, hagreement, h⟩ := Option.bind_eq_some_iff.mp h
    obtain ⟨alert, halert, rfl⟩ := Option.map_eq_some_iff.mp h
    refine ⟨rfl, hat [] hgoal (List.mem_cons_of_mem _ (List.mem_append_left _ ?_))⟩
    refine hat _ haction (List.mem_cons_of_mem _ ?_)
    refine hat _ hagreement (List.mem_cons_of_mem _ ?_)
    exact hat _ halert List.mem_cons_self
  · obtain ⟨goal, hgoal, h⟩ := Option.bind_eq_some_iff.mp h
    obtain ⟨result, hresult, rfl⟩ := Option.map_eq_some_iff.mp h
    refine ⟨rfl, hat [] hgoal (List.mem_cons_of_mem _ (List.mem_append_right _ ?_))⟩
    exact hat _ hresult List.mem_cons_self
  · cases h

/-- **A walk comes across exactly what can be looked up.** -/
theorem mem_walk_iff {node : Node} : ⟨path, node⟩ ∈ p.walk ∧ node.kind = kind ↔ p.node? kind path = some node := by
  constructor
  · rintro ⟨hmem, rfl⟩
    exact node?_of_mem_walk hmem
  · intro h
    exact (mem_walk_of_node? h).symm

/-- The addresses of a walk are proper. -/
theorem isProper_of_mem_walk (he : e ∈ p.walk) : e.address.IsProper := length_of_node? (node?_of_mem_walk he)

/-- **A walk is in order.** -/
theorem pairwise_walk (p : Plan) : p.walk.Pairwise fun e e' => e.address.Precedes e'.address :=
  lists_goal.pairwise_entriesFrom rfl 0 p.goals

/-- What comes later in a walk does not precede what comes earlier. -/
theorem pairwise_walk_not (p : Plan) : p.walk.Pairwise fun e e' => ¬ e'.address.Precedes e.address :=
  p.pairwise_walk.imp_of_mem fun he he' h => h.asymm (isProper_of_mem_walk he) (isProper_of_mem_walk he')

/-- **A walk comes to each address once.** -/
theorem nodup_addresses (p : Plan) : (p.walk.map Entry.address).Nodup := by
  refine List.pairwise_map.mpr (p.pairwise_walk.imp_of_mem fun {e e'} he he' h hsame => ?_)
  rw [← hsame] at h
  exact h.asymm (isProper_of_mem_walk he) (isProper_of_mem_walk he) h

/-! ## Counting -/

/-- Each entry is of one kind. -/
theorem length_eq_sum_countP (es : List Entry) :
    es.length = (Kind.all.map fun kind => es.countP fun e => decide (e.kind = kind)).sum := by
  induction es with
  | nil => rfl
  | cons e es ih =>
    simp only [Kind.all, List.map_cons, List.map_nil, List.sum_cons, List.sum_nil, List.countP_cons,
      List.length_cons] at ih ⊢
    cases e.kind <;> simp <;> omega

/-- As many paths lead to a record of a kind as there are such records. -/
theorem encard_paths (p : Plan) (kind : Kind) :
    {path | (p.node? kind path).isSome = true}.encard = p.count (.one kind) := by
  have hpaths : {path | (p.node? kind path).isSome = true} =
      (((p.select (.one kind)).map Entry.path).toFinset : Set Path) := by
    ext path
    simp only [Set.mem_ofPred_eq, List.coe_toFinset, List.mem_map, select, List.mem_filter, Item.covers_one,
      decide_eq_true_eq, Option.isSome_iff_exists, ← mem_walk_iff]
    constructor
    · rintro ⟨node, hmem, rfl⟩
      exact ⟨⟨path, node⟩, ⟨hmem, rfl⟩, rfl⟩
    · rintro ⟨e, ⟨hmem, rfl⟩, rfl⟩
      exact ⟨e.node, hmem, rfl⟩
  have hnodup : ((p.select (.one kind)).map Entry.path).Nodup := by
    have haddresses : ((p.select (.one kind)).map Entry.address).Nodup :=
      p.nodup_addresses.sublist (List.filter_sublist.map Entry.address)
    refine List.pairwise_map.mpr ((List.pairwise_map.mp haddresses).imp_of_mem fun {e e'} he he' h hsame => h ?_)
    have hkind : e.kind = kind := by simpa using (List.mem_filter.mp he).2
    have hkind' : e'.kind = kind := by simpa using (List.mem_filter.mp he').2
    rw [Entry.address, Entry.address, hkind, hkind', hsame]
  rw [hpaths, Set.encard_coe_eq_coe_finsetCard, List.toFinset_card_of_nodup hnodup, List.length_map,
    count_eq_length_select]

/-- **Walking and looking up agree.** A walk comes to each address once. A lookup by kind and path succeeds, for
whatever purpose, if and only if a walk comes to this address, and then it finds the very record of the walk. A walk
comes to parents before their children, to siblings by their indices, and to the actions of a goal, with what they
own, before its results. There are as many records of a kind as paths at which one is found, and the counts of the
kinds add up to the count of all records. -/
theorem walk_agrees (p : Plan) :
    (p.walk.map Entry.address).Nodup ∧
    (∀ kind path purpose node,
      p.node (.one kind) path purpose = .ok node ↔ ⟨path, node⟩ ∈ p.walk ∧ node.kind = kind) ∧
    (p.walk.Pairwise fun e e' => e.address.Precedes e'.address ∧ ¬ e'.address.Precedes e.address) ∧
    (∀ kind purpose, {path | ∃ node, p.node (.one kind) path purpose = .ok node}.encard = p.count (.one kind)) ∧
    p.count .all = (Kind.all.map fun kind => p.count (.one kind)).sum := by
  refine ⟨p.nodup_addresses, fun kind path purpose node => ?_, p.pairwise_walk.and p.pairwise_walk_not,
    fun kind purpose => ?_, ?_⟩
  · rw [node_eq_ok, mem_walk_iff]
  · simp only [node_eq_ok, ← Option.isSome_iff_exists]
    exact p.encard_paths kind
  · have hall : p.count .all = p.walk.length := List.countP_eq_length.mpr fun _ _ => rfl
    rw [hall, length_eq_sum_countP]
    rfl

end Plan

end LifePlan
