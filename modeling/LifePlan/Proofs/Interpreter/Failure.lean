import LifePlan.Proofs.Interpreter.Pending
import LifePlan.Proofs.Numbers

/-!
# Lines that fail

Faults are told as notices, and two things are left that can end a line without an outcome. The history may
refuse the line that it gets, and then nothing is done at all; or the line changes records and one of its
numerals has more digits than are read, and then nothing but the history is changed. In every state that calls
can lead to, a line fails for one of these reasons or not at all (`feedInto_fails_iff`).
-/

namespace LifePlan

/-- Where nothing is misused, there is an outcome once a fault is told as a notice. -/
theorem Reply.outcome_report {r : Reply} (h : ∀ misuse, r.outcome ≠ .error (.misuse misuse)) :
    ∃ outcome, r.report.outcome = .ok outcome := by
  obtain ⟨state, outcome, shown⟩ := r
  rcases outcome with (fault | misuse) | outcome
  · exact ⟨.continue, rfl⟩
  · exact absurd rfl (h misuse)
  · exact ⟨outcome, rfl⟩

namespace Interpreter

open Reference (IsNumeral IsReadable digitCount plain)

variable {s : Interpreter} {keeps : String → Bool} {line : String}

/-! ## Numerals that are too long -/

/-- A line that changes records and has a numeral with more digits than are read. -/
structure HasLongNumber (line : String) : Prop where
  edits : (resolve line).command.edits
  item : (resolve line).item.isSome = true
  long : ∃ ds ∈ Reference.numerals (resolve line).remainder, digitLimit < digitCount ds

/-- A line that changes records and has an item is about the records of one kind. -/
theorem kind_of_edits (hedits : (resolve line).command.edits) (hitem : (resolve line).item.isSome = true) :
    ∃ kind, (resolve line).item = some (.one kind) :=
  item_resolve_of_ne_list (hedits.ne (by decide)) hitem

/-- A line that changes records is recorded. -/
theorem record_of_edits (hedits : (resolve line).command.edits) :
    s.record line =
      { s with history := s.history.map (· ++ [String.ofList (Text.strip line.toList)]) } := by
  have herase : (resolve line).command ≠ .erase := hedits.ne (by decide)
  have hrecorded : recorded? line = some (String.ofList (Text.strip line.toList)) := by
    rw [recorded?, if_neg (fun h => h.elim (not_isBlankText_of_edits hedits) herase)]
  rw [record, hrecorded, Option.toList_some]

/-- **There is a first numeral that is too long**, and the line fails with its digits once it has been recorded. -/
theorem feedInto_of_hasLongNumber (hkeeps : ¬ s.Refuses keeps line) (hidle : s.pending = none)
    (h : HasLongNumber line) :
    ∃ before ds after,
      Reference.numerals (resolve line).remainder = before ++ ds :: after ∧
        (∀ other ∈ before, digitCount other ≤ digitLimit) ∧ digitLimit < digitCount ds ∧
          s.feedInto keeps line =
            ⟨{ s with history := s.history.map (· ++ [String.ofList (Text.strip line.toList)]) },
              .error (.misuse (.tooManyDigits (digitCount ds))), []⟩ := by
  obtain ⟨hedits, hitem, long, hlong, hlimit⟩ := h
  have hnot : ¬ IsReadable (resolve line).remainder := fun hread => Nat.not_le.mpr hlimit (hread long hlong)
  obtain ⟨before, ds, after, hnumerals, hbefore, hds⟩ := Reference.exists_first_not hnot
  rw [Nat.not_le] at hds
  refine ⟨before, ds, after, hnumerals, hbefore, hds, ?_⟩
  obtain ⟨kind, hkind⟩ := kind_of_edits hedits hitem
  have hparse := Reference.parse_of_long hnumerals hbefore hds
  have hedited := edited_of_locate_error (s := s.record line) (q := (resolve line).toQuery) hedits
    (locate_of_parse_error hkind (remainder?_resolve line) hparse)
  rw [feedInto_of_not_refuses hkeeps, feed_of_edits hidle hedits hitem, hedited, record_of_edits hedits]
  rfl

/-- A numeral with one digit more than are read. -/
def longNumeral : List Char := List.replicate (digitLimit + 1) '1'

/-- It is a numeral. -/
theorem isNumeral_longNumeral : IsNumeral longNumeral :=
  ⟨List.cons_ne_nil '1' _, fun c hc => by rw [List.eq_of_mem_replicate hc]; rfl⟩

/-- It has that many digits. -/
theorem digitCount_longNumeral : digitCount longNumeral = digitLimit + 1 :=
  isNumeral_longNumeral.digitCount_eq.trans List.length_replicate

/-- A line that removes the goal with that number. -/
def longLine : String := "remove" ++ " " ++ "goal" ++ " " ++ String.ofList longNumeral

/-- What the line says. -/
theorem says_longLine : Says longLine .remove .goal (plain longNumeral) := by
  have h := @says_spelled .remove .goal "remove" "goal" rfl (by decide) (by decide) (String.ofList longNumeral)
  rwa [String.toList_ofList] at h

/-- The numeral is found in it. -/
theorem numerals_longLine : Reference.numerals (resolve longLine).remainder = [longNumeral] := by
  rw [says_longLine.remainder_eq]
  exact Reference.numerals_plain (.one longNumeral) (List.forall_mem_singleton.mpr isNumeral_longNumeral)

/-- So there are lines with a numeral that is too long. -/
theorem hasLongNumber_longLine : HasLongNumber longLine := by
  refine ⟨?_, ?_, longNumeral, ?_, ?_⟩
  · rw [says_longLine.command_eq]
    exact .inr (.inr rfl)
  · rw [says_longLine.item_eq]
    rfl
  · rw [numerals_longLine]
    exact List.mem_singleton_self longNumeral
  · rw [digitCount_longNumeral]
    exact Nat.lt_succ_self digitLimit

/-! ## Lines that succeed -/

/-- No command is misused that does not change records. -/
theorem dispatch_of_not_edits {r : Resolution} (h : ¬ (r.command.edits ∧ r.item.isSome = true)) (misuse : Misuse) :
    (s.dispatch r).outcome ≠ .error (.misuse misuse) := by
  have hdispatched := dispatched s r
  generalize s.dispatch r = reply at hdispatched ⊢
  cases hdispatched with
  | failed hedits hitem => exact absurd ⟨hedits, hitem⟩ h
  | edited | told | shown | erased | saved | abandoned => exact fun h => by cases h

/-- A line that changes records succeeds if its numerals are short enough: it is carried out, it waits for its
description, or a fault is told. -/
theorem feed_edits_succeeds (hidle : s.pending = none) (hedits : (resolve line).command.edits)
    (hitem : (resolve line).item.isSome = true) (hread : IsReadable (resolve line).remainder) :
    ∃ outcome, (s.feed line).outcome = .ok outcome := by
  obtain ⟨kind, hkind⟩ := kind_of_edits hedits hitem
  have hmeans : Says line (resolve line).command kind (resolve line).remainder := ⟨rfl, hkind, rfl⟩
  rcases Check.admits_or_firstFault s.plan (resolve line).command kind
    (Reference.typedNumbers (resolve line).remainder) with hadmits | ⟨fault, hfault⟩
  · by_cases hdescription : (resolve line).command = .remove ∨
      Reference.typedDescription (resolve line).remainder ≠ ""
    · obtain ⟨plan, clock, -, hfeed⟩ := feed_of_admits hidle hmeans hedits hread hadmits hdescription
      exact ⟨_, by rw [hfeed]⟩
    · rw [not_or, Decidable.not_not] at hdescription
      obtain ⟨change, hchange⟩ := hedits.cases.resolve_right hdescription.1
      rw [hchange] at hmeans hadmits
      obtain ⟨prefill, hfeed⟩ := feed_of_no_description hidle hmeans hread hadmits hdescription.2
      exact ⟨_, by rw [hfeed]⟩
  · exact ⟨_, by rw [feed_of_firstFault hidle hmeans hedits hread hfault]⟩

/-- **A line succeeds** unless it has a numeral that is too long while nothing waits. -/
theorem feed_succeeds (hready : s.Ready) (h : s.pending = none → ¬ HasLongNumber line) :
    ∃ outcome, (s.feed line).outcome = .ok outcome := by
  rcases hpending : s.pending with _ | pending
  · by_cases hedits : (resolve line).command.edits ∧ (resolve line).item.isSome = true
    · refine feed_edits_succeeds hpending hedits.1 hedits.2 fun ds hds => Nat.le_of_not_lt fun hlong => ?_
      exact h hpending ⟨hedits.1, hedits.2, ds, hds, hlong⟩
    · rw [feed_of_idle hpending]
      by_cases hblank : Text.isBlankText line.toList = true
      · exact ⟨.continue, by rw [execute_of_blank hblank]; rfl⟩
      · rw [execute_of_text hblank]
        exact Reply.outcome_report (dispatch_of_not_edits hedits)
  · by_cases hline : String.ofList (Text.unquote line.toList) = ""
    · exact ⟨_, by rw [feed_empty hpending hline]⟩
    · obtain ⟨plan, clock, -, hfeed⟩ := feed_description hpending (hready pending hpending) hline
      exact ⟨_, by rw [hfeed]⟩

/-! ## When a line fails -/

/-- **A line fails for one of two reasons**, in every state that calls lead to from a plan, whatever the history
refuses. If the history refuses the line that it gets, then nothing is changed. If nothing waits and a line that
changes records has a numeral with more digits than are read, then it fails with the first such numeral, and it
is recorded, while the plan, the clock and what is pending stay as they are. There is no other way to fail: no
command is without its item, no place has the wrong length, and every fault is told. -/
theorem feedInto_fails_iff (keeps : String → Bool) (plan : Plan) (clock : Clock)
    (history : Option (List String)) (calls : List Call) (line : String) :
    let s := runInto ⟨plan, clock, none, history⟩ keeps calls
    ((∃ failure, (s.feedInto keeps line).outcome = .error failure) ↔
      s.Refuses keeps line ∨ s.pending = none ∧ HasLongNumber line) ∧
    (s.Refuses keeps line → s.feedInto keeps line = ⟨s, .error (.misuse .nullInLine), []⟩) ∧
    (¬ s.Refuses keeps line → s.pending = none → HasLongNumber line →
      ∃ before ds after,
        Reference.numerals (resolve line).remainder = before ++ ds :: after ∧
          (∀ other ∈ before, digitCount other ≤ digitLimit) ∧ digitLimit < digitCount ds ∧
            s.feedInto keeps line =
              ⟨{ s with history := s.history.map (· ++ [String.ofList (Text.strip line.toList)]) },
                .error (.misuse (.tooManyDigits (digitCount ds))), []⟩) := by
  intro s
  have hready : s.Ready := ready_runInto (ready_of_idle rfl) keeps calls
  refine ⟨⟨?_, ?_⟩, feedInto_of_refuses, feedInto_of_hasLongNumber⟩
  -- a line that the history does not refuse and that has no long numeral succeeds
  · rintro ⟨failure, hfailed⟩
    by_cases hrefuses : s.Refuses keeps line
    · exact .inl hrefuses
    · refine .inr ?_
      rw [feedInto_of_not_refuses hrefuses] at hfailed
      by_cases h : s.pending = none ∧ HasLongNumber line
      · exact h
      · obtain ⟨outcome, hfeed⟩ := feed_succeeds hready fun hidle hhas => h ⟨hidle, hhas⟩
        cases hfailed.symm.trans hfeed
  · by_cases hrefuses : s.Refuses keeps line
    · exact fun _ => ⟨_, by rw [feedInto_of_refuses hrefuses]⟩
    · rintro (h | ⟨hidle, h⟩)
      · exact absurd h hrefuses
      · obtain ⟨before, ds, after, -, -, -, hfeed⟩ := feedInto_of_hasLongNumber hrefuses hidle h
        exact ⟨_, by rw [hfeed]⟩

/-- A history that is kept in a file refuses a null character, and a line with a numeral that is too long fails
although it is recorded. -/
theorem feedInto_fails_iff_oneGoal :
    oneGoal.feedInto HistoryFile.keeps "erase\x00" = ⟨oneGoal, .error (.misuse .nullInLine), []⟩ ∧
      (oneGoal.feedInto (fun _ => true) longLine).outcome =
        .error (.misuse (.tooManyDigits (digitLimit + 1))) := by
  have hrefuses : oneGoal.Refuses HistoryFile.keeps "erase\x00" :=
    ⟨rfl, rfl, by decide, by decide, by decide⟩
  have hnull := (feedInto_fails_iff HistoryFile.keeps oneGoal.plan oneGoal.clock oneGoal.history []
    "erase\x00").2.1 hrefuses
  obtain ⟨before, ds, after, hfound, -, -, hfeed⟩ := (feedInto_fails_iff (fun _ => true) oneGoal.plan
    oneGoal.clock oneGoal.history [] longLine).2.2 (fun h => by cases h.refused) rfl hasLongNumber_longLine
  have hds : ds ∈ before ++ ds :: after := List.mem_append_right before List.mem_cons_self
  rw [← hfound, numerals_longLine] at hds
  rw [List.eq_of_mem_singleton hds, digitCount_longNumeral] at hfeed
  exact ⟨hnull, congrArg Reply.outcome hfeed⟩

/-- **A history that is kept in a file refuses null characters**, so a line can fail that changes no records. -/
theorem feedInto_null :
    ¬ ((∃ failure, (oneGoal.feedInto HistoryFile.keeps "erase\x00").outcome = .error failure) ↔
      oneGoal.pending = none ∧ HasLongNumber "erase\x00") := by
  intro h
  have hrefuses : oneGoal.Refuses HistoryFile.keeps "erase\x00" :=
    ⟨rfl, rfl, by decide, by decide, by decide⟩
  obtain ⟨-, hlong⟩ := h.mp ⟨_, congrArg Reply.outcome (feedInto_of_refuses hrefuses)⟩
  exact absurd hlong.edits (by decide)

end Interpreter

end LifePlan
