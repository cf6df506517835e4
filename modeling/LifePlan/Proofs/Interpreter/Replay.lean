import LifePlan.Proofs.Interpreter.Inline
import LifePlan.Proofs.Interpreter.Numerals
import LifePlan.Proofs.Plan.Regrow

/-!
# A plan can be typed in again

For each record of a plan there is a line that adds it (`additionLine`): the command, the kind, the numbers of its
parent and its description between quotes. Typed one after the other in the order of a walk, these lines make the
plan again, apart from the dates (`replay_walk`), whatever the descriptions look like inside, as long as the history
keeps the lines (`replay_null`). One line does what one step of `Plan.Grows` does (`feed_additionLine`).
-/

namespace LifePlan

namespace Interpreter

open Text (IsFirm)

variable {s : Interpreter} {keeps : String → Bool} {e : Entry} {es : List Entry} {p q : Plan}

/-! ## Typing a record in -/

/-- The line that adds the record of an entry. Where the record is a goal, there are no numbers between the
spaces. -/
def additionLine (e : Entry) : String :=
  wholeLine "add" e.kind.name (numbersOf e.path.dropLast) e.node.description

/-- The name of a kind is one of its words. -/
theorem name_mem_spellings (kind : Kind) : kind.name ∈ kind.spellings := by cases kind <;> decide

/-- **One line adds one record** where its parent is there and has room, and nothing is shown. -/
theorem feed_additionLine (hidle : s.pending = none) (hwithin : s.plan.Within maxChildren)
    {siblings : List Node} (hparent : s.plan.children? e.kind e.path.dropLast = some siblings)
    (hroom : siblings.length < maxChildren) (hfirm : IsFirm e.node.description.toList) :
    s.feed (additionLine e) =
      ⟨{ s.record (additionLine e) with
          plan := s.plan.append e.kind e.path.dropLast s.clock.now e.node.description
          clock := s.clock.tick },
        .ok .continue, []⟩ := by
  have hbounds := Plan.bounds_of_children? hwithin hparent
  have hadmits : Check.Admits s.plan .add e.kind (e.path.dropLast.map (· + 1)) := by
    refine ⟨fun n hn => ?_, ?_, ?_, fun _ others hothers => ?_⟩
    · obtain ⟨i, hi, rfl⟩ := List.mem_map.mp hn
      have := (hbounds i hi).1
      omega
    · rw [List.length_map, Plan.length_of_children? hparent]
      rfl
    · rw [Check.HasPlace, if_pos rfl, places_map_add_one, hparent]
      rfl
    · rw [places_map_add_one, hparent] at hothers
      cases hothers
      exact hroom
  have hnonneg : ∀ i ∈ e.path.dropLast, 0 ≤ i := fun i hi => (hbounds i hi).1
  rw [← numberOf_numeralsOf hnonneg] at hadmits
  obtain ⟨plan, clock, hedit, hfeed⟩ := @feed_wholeLine_of_admits s .add e.kind "add" e.kind.name _ _ _ hidle
    (by decide) (name_mem_spellings e.kind) (joined_numbersOf _) (isNumeral_numeralsOf hnonneg)
    (length_numeralsOf_le hnonneg fun i hi => (hbounds i hi).2) hfirm hadmits
  rw [numberOf_numeralsOf hnonneg, places_map_add_one, Change.command, Plan.edit,
    Plan.add_eq_ok hparent hroom] at hedit
  cases hedit
  exact hfeed

/-! ## Typing a plan in -/

/-- An interpreter with a new plan. -/
def fresh (clock : Clock) (history : Option (List String)) : Interpreter :=
  ⟨(Plan.fresh clock).1, (Plan.fresh clock).2, none, history⟩

/-- What is seen of a line that only changes the plan. -/
structure Quiet (r : Reply) : Prop where
  outcome : r.outcome = .ok .continue
  shown : r.shown = []
  pending : r.state.pending = none

/-- There is no white space at the ends of such a line, so that the history gets it as it is. -/
theorem strip_additionLine (e : Entry) : Text.strip (additionLine e).toList = (additionLine e).toList := by
  refine Text.strip_eq_self (fun c hc => ?_) (fun c hc => ?_)
  · simp only [additionLine, wholeLine, openLine, String.toList_append, List.append_assoc] at hc
    cases hc
    rfl
  · have hquote : "\"".toList = ['"'] := rfl
    simp only [additionLine, wholeLine, String.toList_append, hquote, List.getLast?_concat] at hc
    cases hc
    rfl

/-- So it is not refused if the history keeps it, or if there is none. -/
theorem not_refuses_additionLine (h : s.history.isSome = true → keeps (additionLine e) = true) :
    ¬ s.Refuses keeps (additionLine e) :=
  not_refuses_of_keeps (by rwa [strip_additionLine, String.ofList_toList])

/-- **A plan grows while lines are typed** that the history keeps: every line is carried out quietly, and the goals
become those of the plan that is grown to, apart from the dates. -/
theorem runInto_of_grows (hgrows : p.Grows es q) (hplan : s.plan.undated = p) (hidle : s.pending = none)
    (hwithin : s.plan.Within maxChildren) (hfirm : ∀ e ∈ es, IsFirm e.node.description.toList)
    (hkeeps : s.history.isSome = true → ∀ e ∈ es, keeps (additionLine e) = true) :
    (∀ before line after, es.map additionLine = before ++ line :: after →
      Quiet ((s.runInto keeps (before.map .feed)).feedInto keeps line)) ∧
    (s.runInto keeps ((es.map additionLine).map .feed)).plan.undated = q := by
  induction hgrows generalizing s with
  | done p =>
    refine ⟨fun before line after h => ?_, hplan⟩
    simp at h
  | @step p q r e es siblings hparent hroom hadded hrest ih =>
    rw [List.forall_mem_cons] at hfirm
    subst hplan
    -- the parent is there on the plan with dates too, with as many records under it
    obtain ⟨others, hothers, hlength⟩ : ∃ others, s.plan.children? e.kind e.path.dropLast = some others ∧
        others.length = siblings.length := by
      have hcount := Plan.children?_undated s.plan e.kind e.path.dropLast
      rw [hparent, Option.map_some] at hcount
      exact Option.map_eq_some_iff.mp hcount.symm
    have hkept : ¬ s.Refuses keeps (additionLine e) :=
      not_refuses_additionLine fun hhistory => hkeeps hhistory e List.mem_cons_self
    have hfeed := (feedInto_of_not_refuses hkept).trans
      (feed_additionLine hidle hwithin hothers (by omega) hfirm.1)
    have hwithin' : (s.feedInto keeps (additionLine e)).state.plan.Within maxChildren := by
      rw [hfeed]
      exact (Plan.heir_append hothers (by omega) _ _).within (Nat.le_refl _) hwithin
    have hplan' : (s.feedInto keeps (additionLine e)).state.plan.undated = q := by
      rw [hfeed, ← hadded, Plan.undated_append]
    have hidle' : (s.feedInto keeps (additionLine e)).state.pending = none := by
      rw [hfeed]
      exact hidle
    have hkeeps' : (s.feedInto keeps (additionLine e)).state.history.isSome = true →
        ∀ e ∈ es, keeps (additionLine e) = true := by
      rw [hfeed, record, Option.isSome_map]
      exact fun hhistory d hd => hkeeps hhistory d (List.mem_cons_of_mem e hd)
    obtain ⟨hquiet, hfinal⟩ := ih hplan' hidle' hwithin' hfirm.2 hkeeps'
    refine ⟨fun before line after h => ?_, hfinal⟩
    -- the line is the one that was typed first, or it is among the others
    rcases before with _ | ⟨first, before⟩
    · obtain ⟨rfl, -⟩ := List.cons.inj h
      exact ⟨congrArg Reply.outcome hfeed, congrArg Reply.shown hfeed, hidle'⟩
    · obtain ⟨rfl, hlines⟩ := List.cons.inj h
      exact hquiet before line after hlines

/-- **A plan can be typed in again.** Take a plan in which no list is longer than records may be added, and no
description is empty or has white space or a quote at its ends. Let a line be typed for each of its records, in
the order of a walk, into a new plan, without a history or with one that keeps these lines. Then every line is carried
out at once and shows nothing, and in the end there are the goals of the plan with all that they own, in the same order
and with the same descriptions. Only the dates may be others. -/
theorem replay_walk (p : Plan) (hwithin : p.Within maxChildren)
    (hfirm : ∀ e ∈ p.walk, IsFirm e.node.description.toList) (clock : Clock)
    (history : Option (List String)) (keeps : String → Bool)
    (hkeeps : history.isSome = true → ∀ e ∈ p.walk, keeps (additionLine e) = true) :
    let lines := p.walk.map additionLine
    (∀ before line after, lines = before ++ line :: after →
      Quiet (((fresh clock history).runInto keeps (before.map .feed)).feedInto keeps line)) ∧
    ((fresh clock history).runInto keeps (lines.map .feed)).plan.goals.map Goal.undated =
      p.goals.map Goal.undated := by
  intro lines
  have hempty : (fresh clock history).plan.Within maxChildren :=
    ⟨Nat.zero_le _, fun x hx => absurd hx List.not_mem_nil⟩
  have hgrows := Plan.grows_walk hwithin (Plan.fresh clock).1
  obtain ⟨hquiet, hfinal⟩ :=
    runInto_of_grows (s := fresh clock history) hgrows rfl rfl hempty hfirm hkeeps
  exact ⟨hquiet, congrArg Plan.goals hfinal⟩

/-- A plan whose descriptions look like commands, like numbers and like texts that end early. -/
def wordyPlan : Plan :=
  { Plan.blank "" "" with
    goals :=
      [⟨"1999", "exit!", [], []⟩,
        ⟨"1999", "2.1 of \"3\" x", [⟨"2000", ".,;", [⟨"2001", "-", [⟨"2002", "12"⟩]⟩]⟩],
          [⟨"2003", "re goal 1"⟩]⟩] }

/-- It is typed in again by six lines, which a history file keeps. -/
theorem replay_walk_wordyPlan :
    wordyPlan.walk.map additionLine =
        ["add goal  \"exit!\"", "add goal  \"2.1 of \"3\" x\"", "add action 2 \".,;\"",
          "add agreement 2.1 \"-\"", "add alert 2.1.1 \"12\"", "add result 2 \"re goal 1\""] ∧
      ((fresh ⟨⟨0, 0⟩⟩ (some [])).runInto HistoryFile.keeps
          ((wordyPlan.walk.map additionLine).map .feed)).plan.goals.map Goal.undated =
        wordyPlan.goals.map Goal.undated := by
  have hwithin : wordyPlan.Within maxChildren := by decide
  have hfirm : ∀ e ∈ wordyPlan.walk, IsFirm e.node.description.toList := by decide
  have hkeeps : ∀ e ∈ wordyPlan.walk, HistoryFile.keeps (additionLine e) = true := by decide
  obtain ⟨-, hgoals⟩ :=
    replay_walk wordyPlan hwithin hfirm ⟨⟨0, 0⟩⟩ (some []) HistoryFile.keeps fun _ => hkeeps
  exact ⟨by decide, hgoals⟩

/-- **A plan with a null character in a description cannot be typed in again** where the history is kept in a file. -/
theorem replay_null :
    let p : Plan := { Plan.blank "" "" with goals := [⟨"1999", "a\x00b", [], []⟩] }
    let s := fresh ⟨⟨0, 0⟩⟩ (some [])
    p.Within maxChildren ∧ (∀ e ∈ p.walk, IsFirm e.node.description.toList) ∧
      p.walk.map additionLine = ["add goal  \"a\x00b\""] ∧
        s.feedInto HistoryFile.keeps "add goal  \"a\x00b\"" = ⟨s, .error (.misuse .nullInLine), []⟩ ∧
          (s.runInto HistoryFile.keeps ((p.walk.map additionLine).map .feed)).plan.goals = [] := by
  intro p s
  have hrefuses : s.Refuses HistoryFile.keeps "add goal  \"a\x00b\"" :=
    ⟨rfl, rfl, by decide, by decide, by decide⟩
  exact ⟨by decide, by decide, by decide, feedInto_of_refuses hrefuses, by decide⟩

end Interpreter

end LifePlan
