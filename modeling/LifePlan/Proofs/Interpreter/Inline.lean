import LifePlan.Proofs.Interpreter.Pending
import LifePlan.Proofs.Numbers

/-!
# A description in the same line or in the next

A record is added or updated by one line, with the description between quotes behind the numbers, or by a line
that stops behind the numbers and a later one that is the description. Both lines have the same numbers
(`Reference.numerals_plain`, `Reference.numerals_described`), so they pass the same checks. If a check fails,
both tell the same fault; and if none does, the two ways end with the same plan (`inline_eq_interactive`). Only the
history can tell them apart: it gets the description in the one way and not in the other (`inline_null`).
-/

namespace LifePlan

namespace Interpreter

open Reference (Joined IsNumeral typedDescription places plain described)
open Text (IsFirm unquote)

variable {s : Interpreter} {change : Change} {kind : Kind} {verb noun numbers description : String}
  {numerals : List (List Char)} {keeps : String → Bool}

/-! ## The two lines -/

/-- The line that stops behind the numbers. -/
def openLine (verb noun numbers : String) : String := verb ++ " " ++ noun ++ " " ++ numbers

/-- The line that goes on with the description between quotes. -/
def wholeLine (verb noun numbers description : String) : String :=
  openLine verb noun numbers ++ " \"" ++ description ++ "\""

/-- A command that changes records takes an item. -/
theorem takesItem_of_edits {command : Command} (h : command.edits) : command.takesItem = true := by
  rcases h with rfl | rfl | rfl
  · rfl
  · rfl
  · rfl

/-- What the line that stops behind the numbers says. -/
theorem says_openLine {command : Command} (hedits : command.edits) (hverb : Names verb (.command command))
    (hnoun : Names noun (.kind kind)) (numbers : String) :
    Says (openLine verb noun numbers) command kind (plain numbers.toList) :=
  says_of_names (takesItem_of_edits hedits) hverb hnoun numbers

/-- What the line with the description says. -/
theorem says_wholeLine {command : Command} (hedits : command.edits) (hverb : Names verb (.command command))
    (hnoun : Names noun (.kind kind)) (numbers description : String) :
    Says (wholeLine verb noun numbers description) command kind
      (described numbers.toList description.toList) := by
  have hline : wholeLine verb noun numbers description =
      verb ++ " " ++ noun ++ " " ++ (numbers ++ " \"" ++ description ++ "\"") := by
    simp only [wholeLine, openLine, String.append_assoc]
  have hrest : (numbers ++ " \"" ++ description ++ "\"").toList =
      numbers.toList ++ ' ' :: Reference.quoted description.toList := by
    simp [Reference.quoted]
  rw [hline, described, ← hrest]
  exact says_of_names (takesItem_of_edits hedits) hverb hnoun _

/-- A line that is spelled out says so too. -/
theorem says_openLine_of_mem (hverb : verb ∈ change.command.spellings) (hnoun : noun ∈ kind.spellings)
    (numbers : String) : Says (openLine verb noun numbers) change.command kind (plain numbers.toList) :=
  says_openLine change.edits_command (names_of_mem_spellings verb hverb) (names_of_mem_kindSpellings noun hnoun)
    numbers

/-- With the description as well. -/
theorem says_wholeLine_of_mem (hverb : verb ∈ change.command.spellings) (hnoun : noun ∈ kind.spellings)
    (numbers description : String) :
    Says (wholeLine verb noun numbers description) change.command kind
      (described numbers.toList description.toList) :=
  says_wholeLine change.edits_command (names_of_mem_spellings verb hverb) (names_of_mem_kindSpellings noun hnoun)
    numbers description

/-! ## Lines that are passed over -/

/-- Lines without text change nothing while a change waits. -/
theorem runInto_of_empty {pending : Pending} (hpending : s.pending = some pending) {lines : List String}
    (hlines : ∀ line ∈ lines, unquote line.toList = []) : s.runInto keeps (lines.map .feed) = s := by
  induction lines with
  | nil => rfl
  | cons line lines ih =>
    rw [List.forall_mem_cons] at hlines
    have hfeed : s.afterInto keeps (.feed line) = s := by
      rw [afterInto, feedInto_of_not_refuses (not_refuses_of_waiting hpending),
        feed_empty hpending (by rw [hlines.1])]
    rw [List.map_cons, runInto, List.foldl_cons, hfeed]
    exact ih hlines.2

/-- **The description that comes after lines without text is what is carried out**, and the history does not get it. -/
theorem runInto_description {pending : Pending} (hpending : s.pending = some pending)
    (hfits : pending.Fits s.plan) {lines : List String} (hlines : ∀ line ∈ lines, unquote line.toList = [])
    {last : String} (hlast : unquote last.toList = description.toList) (hdescription : IsFirm description.toList) :
    ∃ plan clock,
      s.plan.edit s.clock pending.change.command pending.kind pending.path description = .ok (plan, clock) ∧
        s.runInto keeps (lines.map .feed ++ [.feed last]) =
          { s with plan := plan, clock := clock, pending := none } := by
  have htext : String.ofList (unquote last.toList) = description := by
    rw [hlast, String.ofList_toList]
  have hne : description ≠ "" := hdescription.ne_empty
  obtain ⟨plan, clock, hedit, hfeed⟩ := @feed_description s last pending hpending hfits (by rwa [htext])
  rw [htext] at hedit
  refine ⟨plan, clock, hedit, ?_⟩
  rw [runInto_append, runInto_of_empty hpending hlines, runInto, List.foldl_cons, List.foldl_nil, afterInto,
    feedInto_of_not_refuses (not_refuses_of_waiting hpending), hfeed]

/-! ## One line and the other -/

/-- A line that says a change, numbers and a description is carried out if the change is admitted, whichever words
it uses. -/
theorem feed_described_of_admits {command : Command} {line : String} (hidle : s.pending = none)
    (hmeans : Says line command kind (described numbers.toList description.toList)) (hedits : command.edits)
    (hnumbers : Joined numerals numbers.toList) (hnumerals : ∀ ds ∈ numerals, IsNumeral ds)
    (hshort : ∀ ds ∈ numerals, ds.length ≤ digitLimit) (hdescription : IsFirm description.toList)
    (h : Check.Admits s.plan command kind (numerals.map Reference.numberOf)) :
    ∃ plan clock,
      s.plan.edit s.clock command kind (places (numerals.map Reference.numberOf)) description =
          .ok (plan, clock) ∧
        s.feed line = ⟨{ s.record line with plan := plan, clock := clock }, .ok .continue, []⟩ := by
  have htyped := Reference.typedNumbers_described hnumbers hnumerals description.toList
  have htext : typedDescription (described numbers.toList description.toList) = description := by
    rw [Reference.typedDescription_described hnumbers hnumerals hdescription, String.ofList_toList]
  have hfeed := feed_of_admits hidle hmeans hedits
    (Reference.isReadable_described hnumbers hnumerals hshort description.toList) (by rwa [htyped])
    (.inr (by rw [htext]; exact hdescription.ne_empty))
  rwa [htyped, htext] at hfeed

section lines

variable (hidle : s.pending = none) (hverb : verb ∈ change.command.spellings) (hnoun : noun ∈ kind.spellings)
  (hnumbers : Joined numerals numbers.toList) (hnumerals : ∀ ds ∈ numerals, IsNumeral ds)
  (hshort : ∀ ds ∈ numerals, ds.length ≤ digitLimit)

include hidle hverb hnoun hnumbers hnumerals hshort

/-- The line that stops behind the numbers waits if its change is admitted. -/
theorem feed_openLine_of_admits
    (h : Check.Admits s.plan change.command kind (numerals.map Reference.numberOf)) :
    ∃ prefill,
      s.feed (openLine verb noun numbers) =
        ⟨{ s.record (openLine verb noun numbers) with
            pending := some ⟨change, kind, places (numerals.map Reference.numberOf), prefill⟩ },
          .ok .awaitingDescription, []⟩ := by
  have htyped := Reference.typedNumbers_plain hnumbers hnumerals
  have hfeed := feed_of_no_description hidle (says_openLine_of_mem hverb hnoun numbers)
    (Reference.isReadable_plain hnumbers hnumerals hshort) (by rwa [htyped])
    (Reference.typedDescription_plain hnumbers hnumerals)
  rwa [htyped] at hfeed

/-- The line with the description is carried out if its change is admitted. -/
theorem feed_wholeLine_of_admits (hdescription : IsFirm description.toList)
    (h : Check.Admits s.plan change.command kind (numerals.map Reference.numberOf)) :
    ∃ plan clock,
      s.plan.edit s.clock change.command kind (places (numerals.map Reference.numberOf)) description =
          .ok (plan, clock) ∧
        s.feed (wholeLine verb noun numbers description) =
          ⟨{ s.record (wholeLine verb noun numbers description) with plan := plan, clock := clock },
            .ok .continue, []⟩ :=
  feed_described_of_admits hidle (says_wholeLine_of_mem hverb hnoun numbers description) change.edits_command
    hnumbers hnumerals hshort hdescription h

/-- The line that stops behind the numbers tells the fault of the first check that fails. -/
theorem feed_openLine_of_firstFault {fault : Fault}
    (h : Check.FirstFault s.plan change.command kind (numerals.map Reference.numberOf) fault) :
    s.feed (openLine verb noun numbers) =
      ⟨s.record (openLine verb noun numbers), .ok .continue, [.notice fault.message]⟩ :=
  feed_of_firstFault hidle (says_openLine_of_mem hverb hnoun numbers) change.edits_command
    (Reference.isReadable_plain hnumbers hnumerals hshort)
    (by rwa [Reference.typedNumbers_plain hnumbers hnumerals])

/-- So does the line with the description. -/
theorem feed_wholeLine_of_firstFault {fault : Fault}
    (h : Check.FirstFault s.plan change.command kind (numerals.map Reference.numberOf) fault)
    (description : String) :
    s.feed (wholeLine verb noun numbers description) =
      ⟨s.record (wholeLine verb noun numbers description), .ok .continue, [.notice fault.message]⟩ :=
  feed_of_firstFault hidle (says_wholeLine_of_mem hverb hnoun numbers description) change.edits_command
    (Reference.isReadable_described hnumbers hnumerals hshort description.toList)
    (by rwa [Reference.typedNumbers_described hnumbers hnumerals])

end lines

/-! ## Both ways -/

/-- **A description in the same line or in the next**, if the history refuses neither of the two lines. A line that
stops behind the numbers is accepted if and only if the line that goes on with a description is. If they are not, both
show the same notice, and nothing but the history is changed. If they are, then after any lines without text the line
with the description ends with the plan and the clock that the one line leaves, and nothing waits. The command and the
kind may be spelled in any way, and between two numbers there may be any delimiters. -/
theorem inline_eq_interactive (hidle : s.pending = none) (hverb : verb ∈ change.command.spellings)
    (hnoun : noun ∈ kind.spellings) (hnumbers : Joined numerals numbers.toList)
    (hnumerals : ∀ ds ∈ numerals, IsNumeral ds) (hshort : ∀ ds ∈ numerals, ds.length ≤ digitLimit)
    (hdescription : IsFirm description.toList) (hkeepsOpen : ¬ s.Refuses keeps (openLine verb noun numbers))
    (hkeepsWhole : ¬ s.Refuses keeps (wholeLine verb noun numbers description)) :
    let opened := s.feedInto keeps (openLine verb noun numbers)
    let whole := s.feedInto keeps (wholeLine verb noun numbers description)
    (opened.outcome = .ok .awaitingDescription ↔ whole.outcome = .ok .continue ∧ whole.shown = []) ∧
    (opened.outcome ≠ .ok .awaitingDescription →
      ∃ message,
        opened = ⟨s.record (openLine verb noun numbers), .ok .continue, [.notice message]⟩ ∧
          whole =
            ⟨s.record (wholeLine verb noun numbers description), .ok .continue, [.notice message]⟩) ∧
    (opened.outcome = .ok .awaitingDescription →
      ∀ (lines : List String) (last : String), (∀ line ∈ lines, unquote line.toList = []) →
        unquote last.toList = description.toList →
        let final := s.runInto keeps (.feed (openLine verb noun numbers) :: (lines.map .feed ++ [.feed last]))
        final.plan = whole.state.plan ∧ final.clock = whole.state.clock ∧
          final.pending = none ∧ whole.state.pending = none) := by
  intro opened whole
  have hopen : opened = s.feed (openLine verb noun numbers) := feedInto_of_not_refuses hkeepsOpen
  have hwhole : whole = s.feed (wholeLine verb noun numbers description) := feedInto_of_not_refuses hkeepsWhole
  -- the numbers are the same, so the same checks decide about both lines
  rcases Check.admits_or_firstFault s.plan change.command kind (numerals.map Reference.numberOf) with
    hadmits | ⟨fault, hfault⟩
  · obtain ⟨prefill, hopened⟩ :=
      feed_openLine_of_admits hidle hverb hnoun hnumbers hnumerals hshort hadmits
    obtain ⟨plan, clock, hedit, hfed⟩ :=
      feed_wholeLine_of_admits hidle hverb hnoun hnumbers hnumerals hshort hdescription hadmits
    rw [hopened] at hopen
    rw [hfed] at hwhole
    have hfits := (tells_feedInto (ready_of_idle hidle) keeps (openLine verb noun numbers)).fits
    change ∀ pending ∈ opened.state.pending, pending.Fits opened.state.plan at hfits
    rw [hopen] at hfits
    refine ⟨?_, fun h => absurd (congrArg Reply.outcome hopen) h, fun _ lines last hlines hlast => ?_⟩
    · rw [hopen, hwhole]
      exact ⟨fun _ => ⟨rfl, rfl⟩, fun _ => rfl⟩
    · obtain ⟨plan', clock', hedit', hrun⟩ := runInto_description rfl (hfits _ rfl) hlines hlast hdescription
      cases hedit.symm.trans hedit'
      have hafter : s.afterInto keeps (.feed (openLine verb noun numbers)) = opened.state := rfl
      rw [runInto, List.foldl_cons, ← runInto, hafter, hopen, hrun, hwhole]
      exact ⟨rfl, rfl, rfl, hidle⟩
  · rw [feed_openLine_of_firstFault hidle hverb hnoun hnumbers hnumerals hshort hfault] at hopen
    rw [feed_wholeLine_of_firstFault hidle hverb hnoun hnumbers hnumerals hshort hfault description] at hwhole
    rw [hopen, hwhole]
    refine ⟨⟨fun h => ?_, fun h => ?_⟩, fun _ => ⟨fault.message, rfl, rfl⟩, fun h => ?_⟩
    · cases h
    · cases h.2
    · cases h

/-- The one goal is renamed in both ways, with quotes in the name and a line without text in between; the second
agreement of its first action is missing in both ways. -/
theorem inline_eq_interactive_oneGoal :
    let renamed := oneGoal.runInto HistoryFile.keeps [.feed "up goals 1", .feed " ''", .feed "'2 \"of\" 3' "]
    renamed.plan = (oneGoal.feedInto HistoryFile.keeps "up goals 1 \"2 \"of\" 3\"").state.plan ∧
      renamed.plan.goals.map Goal.description = ["2 \"of\" 3"] ∧
      ∃ message,
        oneGoal.feedInto HistoryFile.keeps "ad ag 1.#1" =
            ⟨oneGoal.record "ad ag 1.#1", .ok .continue, [.notice message]⟩ ∧
          oneGoal.feedInto HistoryFile.keeps "ad ag 1.#1 \"2 \"of\" 3\"" =
            ⟨oneGoal.record "ad ag 1.#1 \"2 \"of\" 3\"", .ok .continue, [.notice message]⟩ := by
  intro renamed
  have hone : Joined [['1']] "1".toList := .one ['1']
  have htwo : Joined [['1'], ['1']] "1.#1".toList :=
    .more (List.cons_ne_nil '.' ['#']) (by simp [Reference.isDelimiter]) (.one ['1'])
  have hnumeral : IsNumeral ['1'] := ⟨List.cons_ne_nil '1' [], List.forall_mem_singleton.mpr rfl⟩
  have hfirm : IsFirm "2 \"of\" 3".toList := by decide
  have hupdate := @inline_eq_interactive oneGoal .update .goal "up" "goals" "1" "2 \"of\" 3" [['1']]
    HistoryFile.keeps rfl (by decide) (by decide) hone (by simpa using hnumeral) (by decide) hfirm
    (not_refuses_of_notMem (by decide)) (not_refuses_of_notMem (by decide))
  have hadd := @inline_eq_interactive oneGoal .add .agreement "ad" "ag" "1.#1" "2 \"of\" 3" [['1'], ['1']]
    HistoryFile.keeps rfl (by decide) (by decide) htwo (by simpa using hnumeral) (by decide) hfirm
    (not_refuses_of_notMem (by decide)) (not_refuses_of_notMem (by decide))
  have hwaits (line : String) :=
    (tells_feedInto (ready_of_idle (s := oneGoal) rfl) HistoryFile.keeps line).awaiting
  have hrenamed := hupdate.2.2 ((hwaits _).mpr (by decide)) [" ''"] "'2 \"of\" 3' " (by decide) (by decide)
  exact ⟨hrenamed.1, by decide, hadd.2.1 (mt (hwaits _).mp (by decide))⟩

/-- **A description with a null character can only come in the next line** where the history is kept in a file: the
line that stops behind the numbers waits, the line that goes on with the description fails. -/
theorem inline_null :
    IsFirm "a\x00b".toList ∧
      (oneGoal.feedInto HistoryFile.keeps (openLine "update" "goal" "1")).outcome = .ok .awaitingDescription ∧
        oneGoal.feedInto HistoryFile.keeps (wholeLine "update" "goal" "1" "a\x00b") =
          ⟨oneGoal, .error (.misuse .nullInLine), []⟩ := by
  have hwaits := (tells_feedInto (ready_of_idle (s := oneGoal) rfl) HistoryFile.keeps
    (openLine "update" "goal" "1")).awaiting
  have hrefuses : oneGoal.Refuses HistoryFile.keeps (wholeLine "update" "goal" "1" "a\x00b") :=
    ⟨rfl, rfl, by decide, by decide, by decide⟩
  exact ⟨by decide, hwaits.mpr (by decide), feedInto_of_refuses hrefuses⟩

end Interpreter

end LifePlan
