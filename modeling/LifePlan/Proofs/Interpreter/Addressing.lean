import LifePlan.Proofs.Interpreter.Inline
import LifePlan.Proofs.Listing
import LifePlan.Proofs.Plan.Siblings

/-!
# The numbers in a listing are those to type

A listing shows the records of an item in the order of a walk, each in a line that starts with its label and its
numbers. Typed behind a command, the same label and the same numbers lead to that record: a line removes it with
what it owns (`feed_removalLine`), or describes it anew (`feed_renamingLine`), and nothing else is changed. So
what is listed can be acted upon as it is read, as long as the history takes the lines (`feedInto_listing`); a
history that is kept in a file takes all of them but those with a null character in the new description
(`notMem_removalLine`, `mem_of_mem_renamingLine`).
-/

namespace LifePlan

namespace Interpreter

open Reference (places)
open Text (IsFirm)

variable {s : Interpreter} {keeps : String → Bool} {p : Plan} {e : Entry} {line : String} {item : Item}

/-! ## Lines with printed numbers -/

/-- The line that removes the record of an entry, with its label and its numbers as they are printed. -/
def removalLine (e : Entry) : String := openLine "remove" e.kind.label (numbersOf e.path)

/-- The line that describes the record of an entry anew. -/
def renamingLine (e : Entry) (description : String) : String :=
  wholeLine "update" e.kind.label (numbersOf e.path) description

/-- The numbers of a record that is there are admitted by the commands that work on it. -/
theorem admits_of_node? {command : Command} (he : p.node? e.kind e.path = some e.node)
    (hcommand : command ≠ .add) :
    Check.Admits p command e.kind ((numeralsOf e.path).map Reference.numberOf) := by
  have hnonneg := Plan.nonneg_of_node? he
  rw [numberOf_numeralsOf hnonneg]
  refine ⟨fun n hn => ?_, ?_, ?_, fun hadd => absurd hadd hcommand⟩
  · obtain ⟨i, hi, rfl⟩ := List.mem_map.mp hn
    have := hnonneg i hi
    omega
  · rw [List.length_map, Plan.length_of_node? he, Check.needed, if_neg hcommand]
  · rw [Check.HasPlace, if_neg hcommand, places_map_add_one, he]
    rfl

section typed

variable (hidle : s.pending = none) (he : s.plan.node? e.kind e.path = some e.node)
  (hshort : ∀ ds ∈ numeralsOf e.path, ds.length ≤ digitLimit)

include hidle he hshort

/-- **A record is removed** by the line with its printed numbers. -/
theorem feed_removalLine :
    s.feed (removalLine e) =
      ⟨{ s.record (removalLine e) with plan := s.plan.erase e.kind e.path }, .ok .continue, []⟩ := by
  have hnonneg := Plan.nonneg_of_node? he
  have hnumerals := isNumeral_numeralsOf hnonneg
  have hedits : Command.remove.edits := .inr (.inr rfl)
  have hmeans := says_openLine hedits (names_of_mem_spellings "remove" (by decide)) (names_label e.kind)
    (numbersOf e.path)
  have htyped := Reference.typedNumbers_plain (joined_numbersOf e.path) hnumerals
  have hread := Reference.isReadable_plain (joined_numbersOf e.path) hnumerals hshort
  obtain ⟨plan, clock, hedit, hfeed⟩ := feed_of_admits hidle hmeans hedits hread
    (by rw [htyped]; exact admits_of_node? he (by decide)) (.inl rfl)
  rw [htyped, numberOf_numeralsOf hnonneg, places_map_add_one, Plan.edit, Plan.remove_eq_ok he] at hedit
  cases hedit
  exact hfeed

/-- **A record is described anew** by the line with its printed numbers and the description between quotes. -/
theorem feed_renamingLine {description : String} (hdescription : IsFirm description.toList) :
    s.feed (renamingLine e description) =
      ⟨{ s.record (renamingLine e description) with plan := s.plan.describe e.kind e.path description },
        .ok .continue, []⟩ := by
  have hnonneg := Plan.nonneg_of_node? he
  have hedits : Command.update.edits := .inr (.inl rfl)
  have hmeans := says_wholeLine hedits (names_of_mem_spellings "update" (by decide)) (names_label e.kind)
    (numbersOf e.path) description
  obtain ⟨plan, clock, hedit, hfeed⟩ := feed_described_of_admits hidle hmeans hedits (joined_numbersOf e.path)
    (isNumeral_numeralsOf hnonneg) hshort hdescription (admits_of_node? he (by decide))
  rw [numberOf_numeralsOf hnonneg, places_map_add_one, Plan.edit, Plan.update_eq_ok he] at hedit
  cases hedit
  exact hfeed

end typed

/-! ## Characters of these lines -/

section characters

variable (he : p.node? e.kind e.path = some e.node)

include he

/-- A line that stops behind printed numbers holds no control characters if its command holds none. -/
theorem isVisible_openLine {verb : String} (hverb : Display.IsVisible verb.toList) :
    Display.IsVisible (openLine verb e.kind.label (numbersOf e.path)).toList := by
  have hspace : Display.IsVisible " ".toList := by decide
  simp only [openLine, String.toList_append]
  exact ((hverb.append hspace).append (Display.isVisible_label e.kind)).append hspace |>.append
    (Display.isVisible_numbersOf he)

/-- There is no null character in a line that removes a record. -/
theorem notMem_removalLine : '\x00' ∉ (removalLine e).toList :=
  (isVisible_openLine he (by decide)).notMem_null

/-- A null character in a line that describes a record anew is one of the description. -/
theorem mem_of_mem_renamingLine {description : String}
    (h : '\x00' ∈ (renamingLine e description).toList) : '\x00' ∈ description.toList := by
  have hopen : '\x00' ∉ (openLine "update" e.kind.label (numbersOf e.path)).toList :=
    (isVisible_openLine he (by decide)).notMem_null
  have hquotes : '\x00' ∉ " \"".toList ∧ '\x00' ∉ "\"".toList := by decide
  simp only [renamingLine, wholeLine, String.toList_append, List.mem_append] at h
  rcases h with ((h | h) | h) | h
  · exact absurd h hopen
  · exact absurd h hquotes.1
  · exact h
  · exact absurd h hquotes.2

end characters

/-! ## Listings -/

/-- The printed numbers of an entry lead to its record, whatever else the state holds: by lines that the history does
not refuse the record is removed with what it owns, or it gets another description, and nothing else in the plan is
changed. -/
structure Addresses (keeps : String → Bool) (p : Plan) (e : Entry) : Prop where
  removes : ∀ s : Interpreter, s.plan = p → s.pending = none → ¬ s.Refuses keeps (removalLine e) →
    s.feedInto keeps (removalLine e) =
      ⟨{ s.record (removalLine e) with plan := p.erase e.kind e.path }, .ok .continue, []⟩
  loses : p.Loses e (p.erase e.kind e.path)
  describes : ∀ s : Interpreter, s.plan = p → s.pending = none → ∀ d : String, IsFirm d.toList →
    ¬ s.Refuses keeps (renamingLine e d) →
      s.feedInto keeps (renamingLine e d) =
        ⟨{ s.record (renamingLine e d) with plan := p.describe e.kind e.path d }, .ok .continue, []⟩
  renames : ∀ d : String, p.Renames e d (p.describe e.kind e.path d)

/-- **Printed numbers lead to the record that they are printed for**, if none is too long to be read. -/
theorem addresses_of_mem_walk (he : e ∈ p.walk) (hshort : ∀ ds ∈ numeralsOf e.path, ds.length ≤ digitLimit)
    (keeps : String → Bool) : Addresses keeps p e := by
  have hnode := Plan.node?_of_mem_walk he
  constructor
  · rintro s rfl hidle hkeeps
    rw [feedInto_of_not_refuses hkeeps]
    exact feed_removalLine hidle hnode hshort
  · exact Plan.loses_erase hnode
  · rintro s rfl hidle d hd hkeeps
    rw [feedInto_of_not_refuses hkeeps]
    exact feed_renamingLine hidle hnode hshort hd
  · exact Plan.renames_describe hnode

/-- What a listing shows: the records of an item, or that there are none. -/
def listed (p : Plan) (item : Item) : Display :=
  if p.select item = [] then .notice (Fault.nothingToShow item).message else .listing item (p.select item)

/-- A line that asks for a listing is recorded, and the listing is shown. -/
theorem feed_of_list (hidle : s.pending = none) (hcommand : (resolve line).command = .list)
    (hitem : (resolve line).item = some item) :
    s.feed line = ⟨s.record line, .ok .continue, [listed s.plan item]⟩ := by
  have hblank : ¬ Text.isBlankText line.toList = true := by
    intro hblank
    cases hcommand.symm.trans (command_resolve_of_isBlankText hblank)
  have hcomplete : (resolve line).isComplete = true :=
    Query.isComplete_of_item (by rw [hcommand]; rfl) (by rw [hitem]; rfl)
  have hcount : (s.record line).plan.count item = (s.plan.select item).length := s.plan.count_eq_length_select item
  rw [feed_of_idle hidle, execute_of_text hblank]
  simp only [dispatch, if_pos hcomplete, hcommand, hitem, Option.getD_some, list, hcount, listed,
    List.length_eq_zero_iff]
  by_cases hnone : s.plan.select item = []
  · simp only [if_pos hnone]
    rfl
  · simp only [if_neg hnone]
    rfl

/-- **What is listed can be acted upon as it is read.** A line that asks for the records of an item, and that the
history does not refuse, gets a notice if there are none. Otherwise three lines are printed and then one line for each
of the records, in the order of a walk, with its label and its numbers and with no line breaks but those of its
description. To remove a record or to describe it anew, its label and its numbers are typed as they are printed, if
they are short enough to be read and the history does not refuse the line. A history that is kept in a file never
refuses the removal, and the new description only if it has a null character. -/
theorem feedInto_listing (keeps : String → Bool) (hidle : s.pending = none)
    (hcommand : (resolve line).command = .list) (hitem : (resolve line).item = some item) :
    let entries := s.plan.select item
    (s.Refuses keeps line → s.feedInto keeps line = ⟨s, .error (.misuse .nullInLine), []⟩) ∧
    (¬ s.Refuses keeps line →
      (entries = [] →
        s.feedInto keeps line =
          ⟨s.record line, .ok .continue, [.notice (Fault.nothingToShow item).message]⟩) ∧
      (entries ≠ [] → s.feedInto keeps line = ⟨s.record line, .ok .continue, [.listing item entries]⟩)) ∧
    (∀ screen : Screen, (Display.listing item entries).print screen =
      (Display.listingHeader.flatMap fun header => header.toList ++ ['\n']) ++
        entries.flatMap fun e => screen.printLine (Display.entryMarkup item e)) ∧
    ∀ e ∈ entries, Display.Prints item e ∧
      ((∀ ds ∈ numeralsOf e.path, ds.length ≤ digitLimit) → Addresses keeps s.plan e) ∧
      ∀ t : Interpreter, ¬ t.Refuses HistoryFile.keeps (removalLine e) ∧
        ∀ d : String, t.Refuses HistoryFile.keeps (renamingLine e d) → '\x00' ∈ d.toList := by
  intro entries
  have hfeed := feed_of_list hidle hcommand hitem
  refine ⟨feedInto_of_refuses, fun hkeeps => ?_, fun screen => Display.print_listing screen item entries,
    fun e he => ?_⟩
  · rw [feedInto_of_not_refuses hkeeps]
    refine ⟨fun hnone => ?_, fun hsome => ?_⟩
    · rwa [listed, if_pos hnone] at hfeed
    · rwa [listed, if_neg hsome] at hfeed
  · have hwalk : e ∈ s.plan.walk := (List.mem_filter.mp he).1
    have hnode := Plan.node?_of_mem_walk hwalk
    refine ⟨Display.prints_of_node? item hnode, fun hshort => addresses_of_mem_walk hwalk hshort keeps,
      fun t => ⟨not_refuses_of_notMem (notMem_removalLine hnode), fun d hrefuses => ?_⟩⟩
    exact mem_of_mem_renamingLine hnode (keeps_strip_eq_false.mp hrefuses.refused)

/-- The last goal of the next plan. Its description has two lines, and it looks like a record and like markup. -/
def lastGoal : Goal :=
  ⟨"2000", "Goal(2): [red]\nrun", [⟨"2001", "up", [⟨"2002", "early", [⟨"2003", "late"⟩]⟩]⟩], [⟨"2004", "far"⟩]⟩

/-- A plan with more goals than may be added, as it may have been loaded. -/
def crowdedPlan : Plan :=
  { Plan.blank "" "" with goals := List.replicate 9 ⟨"1999", "walk", [], []⟩ ++ [lastGoal] }

/-- Its tenth goal and the alert of that goal are listed, and with their numbers the goal is removed and the alert
is described anew. -/
theorem feedInto_listing_crowdedPlan :
    let s : Interpreter := ⟨crowdedPlan, ⟨⟨0, 0⟩⟩, none, some []⟩
    let goal : Entry := ⟨[9], .goal lastGoal⟩
    let alert : Entry := ⟨[9, 0, 0, 0], .alert ⟨"2003", "late"⟩⟩
    Display.Prints .all goal ∧ Display.Prints .all alert ∧
      (s.feedInto HistoryFile.keeps "remove Goal 10").state.plan.goals =
          List.replicate 9 ⟨"1999", "walk", [], []⟩ ∧
        s.plan.Renames alert "not \"so\" late"
          (s.feedInto HistoryFile.keeps "update Alert 10.1.1.1 \"not \"so\" late\"").state.plan := by
  intro s goal alert
  have hlists : (resolve "show").command = .list ∧ (resolve "show").item = some .all := by decide
  obtain ⟨-, -, -, hentries⟩ := feedInto_listing (s := s) HistoryFile.keeps rfl hlists.1 hlists.2
  obtain ⟨hgoal, hgoalAt, hgoalKept⟩ := hentries goal (by decide)
  obtain ⟨halert, halertAt, halertKept⟩ := hentries alert (by decide)
  have hgoalAt := hgoalAt (by decide)
  have halertAt := halertAt (by decide)
  have hremoved := hgoalAt.removes s rfl rfl (hgoalKept s).1
  have hdescribed := halertAt.describes s rfl rfl "not \"so\" late" (by decide) fun hrefuses =>
    absurd ((halertKept s).2 _ hrefuses) (by decide)
  rw [show removalLine goal = "remove Goal 10" by decide] at hremoved
  rw [show renamingLine alert "not \"so\" late" = "update Alert 10.1.1.1 \"not \"so\" late\"" by decide]
    at hdescribed
  refine ⟨hgoal, halert, ?_, ?_⟩
  · rw [hremoved]
    decide
  · rw [hdescribed]
    exact halertAt.renames "not \"so\" late"

/-- **A record is not described anew with a null character** where the history is kept in a file, although the line has
its label and its number as they are printed. -/
theorem describes_null :
    let goal : Entry := ⟨[0], .goal ⟨"", "health", [], []⟩⟩
    goal ∈ oneGoal.plan.select .all ∧ IsFirm "a\x00b".toList ∧
      renamingLine goal "a\x00b" = "update Goal 1 \"a\x00b\"" ∧
        oneGoal.feedInto HistoryFile.keeps (renamingLine goal "a\x00b") =
          ⟨oneGoal, .error (.misuse .nullInLine), []⟩ := by
  intro goal
  have hrefuses : oneGoal.Refuses HistoryFile.keeps (renamingLine goal "a\x00b") :=
    ⟨rfl, rfl, by decide, by decide, by decide⟩
  exact ⟨by decide, by decide, by decide, feedInto_of_refuses hrefuses⟩

end Interpreter

end LifePlan
