import LifePlan.Proofs.Interpreter.Addressing
import LifePlan.Proofs.Interpreter.WordOrder
import LifePlan.Proofs.Notice
import LifePlan.Proofs.Remainder

/-!
# What the user wrote is printed as it was written

Texts of the user come back to the screen in listings and in notices. A description is listed behind the label and the
numbers of its record, and it is printed as it was written unless one of its backslashes is in the wrong place
(`feed_verbatim`): in front of a bracket that starts no group, or alone at the end. Notices quote words of the line. In
front of the program's own words only the backslashes in front of brackets matter, but in front of a closing tag two or
more at the end do too, and the tag itself may come to light (`feed_quotes`).
-/

namespace LifePlan

/-- What the program prints when it replies. -/
def Reply.printed (r : Reply) (screen : Screen) : List Char := r.shown.flatMap (Display.print screen)

/-- A reply that shows one thing prints it. -/
@[simp] theorem Reply.printed_singleton (state : Interpreter) (outcome : Except Failure Outcome) (display : Display)
    (screen : Screen) : Reply.printed ⟨state, outcome, [display]⟩ screen = display.print screen :=
  List.flatMap_singleton _ _

namespace Interpreter

open Display (IsVisible entryHead)
open Markup (EndsInOneSlash IsShielded lessened shownEscaped shownStyled)

variable {s : Interpreter} {line : String} {item : Item} {screen : Screen}

/-! ## Descriptions -/

/-- **Listed descriptions are verbatim.** A line that asks for the records of an item prints, if there are any, three
lines and then one for each record. Without colour, the line of a record whose description holds no control characters
is the label and the numbers of the record, and then the description as it is shown of an escaped text. That is the
description itself, whatever brackets, tags and backslashes it holds, if and only if each opening bracket behind a
backslash starts a group and the description does not end in exactly one backslash. -/
theorem feed_verbatim (hidle : s.pending = none) (hcommand : (resolve line).command = .list)
    (hitem : (resolve line).item = some item) (hcolour : screen.colour = false) :
    let entries := s.plan.select item
    (entries ≠ [] → (s.feed line).printed screen =
      (Display.listingHeader.flatMap fun header => header.toList ++ ['\n']) ++
        entries.flatMap fun e => screen.printLine (Display.entryMarkup item e)) ∧
    ∀ e ∈ entries, IsVisible e.node.description.toList →
      let text := e.node.description.toList
      screen.printLine (Display.entryMarkup item e) = entryHead item e ++ shownEscaped text ++ ['\n'] ∧
        (screen.printLine (Display.entryMarkup item e) = entryHead item e ++ text ++ ['\n'] ↔
          IsShielded text ∧ ¬ EndsInOneSlash text) := by
  intro entries
  refine ⟨fun hsome => ?_, fun e he hvisible => ?_⟩
  · rw [feed_of_list hidle hcommand hitem, listed, if_neg hsome, Reply.printed_singleton, Display.print_listing]
  · have hnode := Plan.node?_of_mem_walk (List.mem_filter.mp he).1
    have hline := Display.printLine_entryMarkup item hnode hvisible hcolour
    refine ⟨hline, ?_⟩
    rw [hline, List.append_cancel_right_eq, List.append_cancel_left_eq, Markup.shownEscaped_eq_self_iff]

/-- A goal whose description looks like markup. -/
def tagGoal : Goal := ⟨"2000", "\\[bold]x[/red] [1] a\\b", [], []⟩

/-- It is listed with its tags and its backslashes. -/
theorem feed_verbatim_tagGoal :
    let s : Interpreter := ⟨{ Plan.blank "" "" with goals := [tagGoal] }, ⟨⟨0, 0⟩⟩, none, none⟩
    let header := Display.listingHeader.flatMap fun line => line.toList ++ ['\n']
    (s.feed "show").printed ⟨false, false⟩ = header ++ "Goal(1): \\[bold]x[/red] [1] a\\b\n".toList := by
  intro s header
  have hlists : (resolve "show").command = .list ∧ (resolve "show").item = some .all := by decide
  have hentries : s.plan.select .all = [⟨[0], .goal tagGoal⟩] := by decide
  have hvisible : IsVisible tagGoal.description.toList := by decide
  have hshown : IsShielded tagGoal.description.toList ∧ ¬ EndsInOneSlash tagGoal.description.toList := by decide
  obtain ⟨hprinted, hlines⟩ := @feed_verbatim s "show" .all ⟨false, false⟩ rfl hlists.1 hlists.2 rfl
  rw [hentries] at hprinted hlines
  have hline := ((hlines _ List.mem_cons_self hvisible).2.mpr hshown)
  rw [hprinted (List.cons_ne_nil _ _), List.flatMap_singleton, hline]
  decide

/-! ## Words in notices -/

/-- The words of a line without control characters have none. -/
theorem isVisible_of_mem_wordsOf (hline : IsVisible line.toList) :
    ∀ word ∈ wordsOf line, IsVisible word.toList := by
  intro word hword c hc
  obtain ⟨cs, hcs, rfl⟩ := List.mem_map.mp hword
  rw [String.toList_ofList] at hc
  exact hline c (Text.mem_of_mem_words hcs hc)

/-- The words that are quoted for a line are words of the line. -/
theorem mem_wordsOf_of_offending {word : String} (h : word ∈ (resolve line).offendingWords) : word ∈ wordsOf line := by
  rw [Query.offendingWords, words_resolve] at h
  generalize wordsOf line = words at h
  rcases words with _ | ⟨first, rest⟩
  · exact h
  · simp only at h
    split at h
    · exact List.mem_cons.mpr (.inl (List.mem_singleton.mp h))
    · rcases List.mem_cons.mp h with heq | hrest
      · exact List.mem_cons.mpr (.inl heq)
      · exact List.mem_cons_of_mem first (List.mem_of_mem_take hrest)

/-- A line that is rejected gets a notice with its words. -/
theorem feed_of_rejects (hidle : s.pending = none) (htext : Text.isBlankText line.toList = false)
    (h : s.Rejects line) :
    s.feed line = ⟨s.record line, .ok .continue,
      [.notice (Fault.unknownCommand (resolve line).offendingWords).message]⟩ := by
  have hincomplete := (rejects_iff s line).mp h
  rw [feed_of_idle hidle, execute_of_text (Bool.eq_false_iff.mp htext)]
  simp only [dispatch, hincomplete, Bool.false_eq_true, if_false]
  rfl

/-- A line that asks for help where there is none gets a notice with two words. -/
theorem feed_of_no_help (hidle : s.pending = none) {target : Query} (htarget : (resolve line).target = some target)
    (hnone : Help.find? target.command target.item = none) :
    s.feed line = ⟨s.record line, .ok .continue, [.noHelp (target.words.take 2)]⟩ := by
  obtain ⟨hcommand, -⟩ := target_resolve htarget
  have htext : ¬ Text.isBlankText line.toList = true := fun hblank => by
    cases hcommand.symm.trans (command_resolve_of_isBlankText hblank)
  have hcomplete : (resolve line).isComplete = true := by
    rw [Query.isComplete, hcommand]
    rfl
  rw [feed_of_idle hidle, execute_of_text htext]
  simp only [dispatch, if_pos hcomplete, hcommand, htarget, help, hnone]
  rfl

/-- **Notices quote the words of the user.** Let nothing wait, and let the line hold no control characters. If it has
text and is rejected as an unknown command, the words in question are printed between the program's own, with one
backslash less in front of each bracket that starts no group: they are printed as they were typed if and only if each
opening bracket behind a backslash starts a group. If the line asks for help where there is none, its words are printed
as they were typed if and only if that is so and they do not end in two backslashes; such an end is printed at half its
length, and with the program's closing tag behind it if its length is odd. -/
theorem feed_quotes (hidle : s.pending = none) (hline : IsVisible line.toList) (hcolour : screen.colour = false) :
    (Text.isBlankText line.toList = false → s.Rejects line →
      let reply := s.feedInto HistoryFile.keeps line
      let words := (resolve line).offendingWords
      let text := (" ".intercalate words).toList
      let before := "error Unknown command ".toList
      let after := ". Use help for a list of commands".toList ++ ['\n']
      reply = ⟨s.record line, .ok .continue, [.notice (Fault.unknownCommand words).message]⟩ ∧
        reply.printed screen = before ++ lessened text ++ after ∧
          (reply.printed screen = before ++ text ++ after ↔ IsShielded text)) ∧
    ∀ target, (resolve line).target = some target → Help.find? target.command target.item = none →
      let reply := s.feedInto HistoryFile.keeps line
      let text := (" ".intercalate (target.words.take 2)).toList
      let before := "error No help for ".toList
      reply = ⟨s.record line, .ok .continue, [.noHelp (target.words.take 2)]⟩ ∧
        reply.printed screen = before ++ shownStyled "yellow".toList text ++ ['\n'] ∧
          (reply.printed screen = before ++ text ++ ['\n'] ↔ IsShielded text ∧ ¬ ['\\', '\\'] <:+ text) := by
  have hwords := isVisible_of_mem_wordsOf hline
  have hfeed := feedInto_of_not_refuses (not_refuses_of_notMem (s := s) hline.notMem_null)
  refine ⟨fun htext hrejects => ?_, fun target htarget hnone => ?_⟩
  · intro reply words text before after
    have hreply : reply = _ := hfeed.trans (feed_of_rejects hidle htext hrejects)
    have hquoted : ∀ word ∈ words, IsVisible word.toList := fun word hword =>
      hwords word (mem_wordsOf_of_offending hword)
    have hprinted : reply.printed screen = before ++ lessened text ++ after := by
      rw [hreply, Reply.printed_singleton, Display.print_unknownCommand hcolour hquoted, List.append_assoc _ _ ['\n']]
    refine ⟨hreply, hprinted, ?_⟩
    rw [hprinted, List.append_cancel_right_eq, List.append_cancel_left_eq, Markup.lessened_eq_self_iff]
  · intro reply text before
    have hreply : reply = _ := hfeed.trans (feed_of_no_help hidle htarget hnone)
    have hquoted : ∀ word ∈ target.words.take 2, IsVisible word.toList := fun word hword => by
      rw [(target_resolve htarget).2] at hword
      exact hwords word (List.mem_of_mem_drop (List.mem_of_mem_take hword))
    have hprinted : reply.printed screen = before ++ shownStyled "yellow".toList text ++ ['\n'] := by
      rw [hreply, Reply.printed_singleton, Display.print_noHelp hcolour hquoted]
    refine ⟨hreply, hprinted, ?_⟩
    rw [hprinted, List.append_cancel_right_eq, List.append_cancel_left_eq, Markup.shownStyled_eq_self_iff]

/-- Words with a tag, and with one backslash at the end, are quoted as they were typed. -/
theorem feed_quotes_oneGoal :
    (oneGoal.feedInto HistoryFile.keeps "add [red]x\\").printed ⟨false, false⟩ =
        "error Unknown command add [red]x\\. Use help for a list of commands\n".toList ∧
      (oneGoal.feedInto HistoryFile.keeps "help me [/yellow]\\").printed ⟨false, false⟩ =
        "error No help for me [/yellow]\\\n".toList := by
  have hvisible : IsVisible "add [red]x\\".toList ∧ IsVisible "help me [/yellow]\\".toList := by decide
  have hrejects : oneGoal.Rejects "add [red]x\\" := (rejects_iff oneGoal _).mpr (by decide +kernel)
  obtain ⟨-, -, hrejected⟩ := (@feed_quotes oneGoal _ ⟨false, false⟩ rfl hvisible.1 rfl).1 (by decide) hrejects
  have htarget : (resolve "help me [/yellow]\\").target = some (Query.ofLine "me [/yellow]\\") := by decide +kernel
  obtain ⟨-, -, hnone⟩ :=
    (@feed_quotes oneGoal _ ⟨false, false⟩ rfl hvisible.2 rfl).2 _ htarget (by decide +kernel)
  exact ⟨(hrejected.mpr (by decide +kernel)).trans (by decide +kernel),
    (hnone.mpr (by decide +kernel)).trans (by decide +kernel)⟩

/-- **A bracket takes a backslash away, and three backslashes bring the closing tag to light**: these words are not
quoted as they were typed. -/
theorem not_quoted :
    let printed (line : String) := (oneGoal.feedInto HistoryFile.keeps line).printed ⟨false, false⟩
    oneGoal.pending = none ∧
    (IsVisible "\\[".toList ∧ oneGoal.Rejects "\\[" ∧ (resolve "\\[").offendingWords = ["\\["] ∧
      printed "\\[" = "error Unknown command [. Use help for a list of commands\n".toList ∧
        printed "\\[" ≠ "error Unknown command \\[. Use help for a list of commands\n".toList) ∧
    IsVisible "help foo\\\\\\".toList ∧ (∃ target, (resolve "help foo\\\\\\").target = some target ∧
      Help.find? target.command target.item = none ∧ target.words.take 2 = ["foo\\\\\\"]) ∧
      printed "help foo\\\\\\" = "error No help for foo\\[/yellow]\n".toList ∧
        printed "help foo\\\\\\" ≠ "error No help for foo\\\\\\\n".toList := by
  intro printed
  have hrejects : oneGoal.Rejects "\\[" := (rejects_iff oneGoal _).mpr (by decide +kernel)
  refine ⟨rfl, ⟨by decide, hrejects, by decide +kernel, by decide +kernel, by decide +kernel⟩, by decide,
    ⟨Query.ofLine "foo\\\\\\", by decide +kernel, by decide +kernel, by decide +kernel⟩, by decide +kernel,
    by decide +kernel⟩

end Interpreter

end LifePlan
