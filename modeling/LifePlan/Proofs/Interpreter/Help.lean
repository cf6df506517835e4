import LifePlan.Proofs.Interpreter.Failure

/-!
# Help on a line

A line that asks for help on another line shows the help on the command that the other line would run
(`help_describes`): this one is read as it is read alone (`AsksFor.resolve_line`), and there is an entry for every
command and item that a complete line can name, and for no others (`isSome_find?_ofLine`). What is complete is what
would not be rejected as an unknown command (`rejects_iff`).
-/

namespace LifePlan

/-! ## What there is help on -/

/-- **There is help on every command with its item, and on nothing else.** -/
theorem Query.isSome_find? {q : Query} (hall : q.item = some .all → q.command = .list)
    (hnone : q.command.takesItem = false → q.item = none) :
    (Help.find? q.command q.item).isSome = q.isComplete := by
  obtain ⟨command, item, consumed, words, line⟩ := q
  simp only at hall hnone
  simp only [isComplete]
  cases command <;> rcases item with _ | _ | _ <;>
    first
      | rfl
      | exact absurd (hall rfl) (by decide)
      | exact absurd (hnone rfl) (Option.some_ne_none _)

/-- So there is help on what a line names if and only if the line is complete. -/
theorem Query.isSome_find?_ofLine (line : String) :
    (Help.find? (ofLine line).command (ofLine line).item).isSome = (ofLine line).isComplete :=
  isSome_find? command_of_ofLine_all item_of_ofLine

namespace Interpreter

open Reference (IsReadable typedNumbers typedDescription)

variable {s : Interpreter} {keeps : String → Bool} {line : String}

/-! ## Lines that are rejected -/

/-- The line is rejected as an unknown command. -/
def Rejects (s : Interpreter) (line : String) : Prop :=
  ∃ words, (s.dispatch (resolve line)).outcome = .error (.fault (.unknownCommand words))

/-- A change of records of one kind is not. -/
theorem edited_ne_unknownCommand (hedits : (resolve line).command.edits)
    (hitem : (resolve line).item.isSome = true) (words : List String) :
    s.edited (resolve line).toQuery ≠ .error (.fault (.unknownCommand words)) := by
  obtain ⟨kind, hkind⟩ := kind_of_edits hedits hitem
  have hrest := remainder?_resolve line
  by_cases hread : IsReadable (resolve line).remainder
  · rcases Check.admits_or_firstFault s.plan (resolve line).command kind
      (typedNumbers (resolve line).remainder) with hadmits | ⟨fault, hfault⟩
    · by_cases hdescription : (resolve line).command = .remove ∨
        typedDescription (resolve line).remainder ≠ ""
      · obtain ⟨plan, clock, -, hedited⟩ := edited_of_admits hedits hkind hrest hread hadmits hdescription
        rw [hedited]
        exact fun h => by cases h
      · rw [not_or, Decidable.not_not] at hdescription
        obtain ⟨change, hchange⟩ := hedits.cases.resolve_right hdescription.1
        rw [hchange] at hadmits
        obtain ⟨prefill, hedited⟩ :=
          edited_of_no_description hchange hkind hrest hread hadmits hdescription.2
        rw [hedited]
        exact fun h => by cases h
    · rw [edited_of_firstFault hedits hkind hrest hread hfault]
      rintro ⟨⟩
      cases hfault
  · obtain ⟨before, ds, after, hnumerals, hbefore, hds⟩ := Reference.exists_first_not hread
    rw [Nat.not_le] at hds
    have hparse := Reference.parse_of_long hnumerals hbefore hds
    rw [edited_of_locate_error hedits (locate_of_parse_error hkind hrest hparse)]
    exact fun h => by cases h

/-- **A line is rejected as an unknown command if and only if it is not complete**, whatever the plan is. -/
theorem rejects_iff (s : Interpreter) (line : String) :
    s.Rejects line ↔ (resolve line).isComplete = false := by
  constructor
  · rintro ⟨words, h⟩
    have hdispatched := dispatched s (resolve line)
    generalize s.dispatch (resolve line) = reply at hdispatched h
    cases hdispatched with
    | told fault hunknown => exact hunknown words (Failure.fault.inj (Except.error.inj h))
    | failed hedits hitem hedited =>
      refine absurd (hedited.trans ?_) (edited_ne_unknownCommand hedits hitem words)
      rw [Except.error.inj h]
    | edited | shown | erased | saved | abandoned => cases h
  · intro hincomplete
    refine ⟨(resolve line).offendingWords, ?_⟩
    rw [dispatch]
    simp only [hincomplete, Bool.false_eq_true, if_false]

/-! ## Lines that ask for help -/

/-- What is shown to a line that asks for help on another one: the entry of the command and the item that this one
names, if it is complete, and otherwise that there is none, with its first two words. -/
inductive ShowsHelp (q : Query) : Display → Prop
  | entry {entry : HelpEntry} (hcomplete : q.isComplete = true)
      (hfind : Help.find? q.command q.item = some entry) : ShowsHelp q (.help entry)
  | none (hincomplete : q.isComplete = false) : ShowsHelp q (.noHelp (q.words.take 2))

/-- The help on what is read like a line is the help on that line. -/
theorem showsHelp_of_alike {target : Query} (h : target.Alike (Query.ofLine line)) :
    ShowsHelp (Query.ofLine line) (help (some target)) := by
  have hcomplete := Query.isSome_find?_ofLine line
  simp only [help, h.command, h.item, h.words]
  rcases hfind : Help.find? (Query.ofLine line).command (Query.ofLine line).item with _ | entry
  · rw [hfind] at hcomplete
    exact .none hcomplete.symm
  · rw [hfind] at hcomplete
    exact .entry hcomplete.symm hfind

/-- A line that asks for help on another one shows it, and is recorded. -/
theorem feed_asksFor {word rest : String} {blanks : List Char} (h : AsksFor word blanks rest)
    (hidle : s.pending = none) :
    ∃ display,
      s.feed (word ++ String.ofList blanks ++ rest) =
          ⟨s.record (word ++ String.ofList blanks ++ rest), .ok .continue, [display]⟩ ∧
        ShowsHelp (resolve rest).toQuery display := by
  obtain ⟨target, hresolve, halike, -⟩ := h.resolve_line
  rw [h.resolve_rest] at halike ⊢
  have hcommand : (resolve (word ++ String.ofList blanks ++ rest)).command = .help := by rw [hresolve]
  have htext : ¬ Text.isBlankText (word ++ String.ofList blanks ++ rest).toList = true := fun hblank => by
    cases hcommand.symm.trans (command_resolve_of_isBlankText hblank)
  refine ⟨help (some target), ?_, showsHelp_of_alike halike⟩
  rw [feed_of_idle hidle, execute_of_text htext, hresolve]
  rfl

/-- **Help describes the command that the line would run.** A line that asks for help on another line, in any
spelling and with any white space in between, is read with the other one as its target: command, item, words and
rest are those that this one has alone, and one more word is used. If nothing waits, then the line shows the help
on the target, an entry if and only if the other line would not be rejected as an unknown command; unless the
history refuses the line. The plan and what waits stay as they are in either case. -/
theorem help_describes {word rest : String} {blanks : List Char} (h : AsksFor word blanks rest) :
    let line := word ++ String.ofList blanks ++ rest
    (∃ target, (resolve line).target = some target ∧ target.Alike (resolve rest).toQuery) ∧
    (resolve line).consumed = (resolve rest).consumed + 1 ∧
    (resolve line).remainder = (resolve rest).remainder ∧
    ∀ (s : Interpreter) (keeps : String → Bool), s.pending = none →
      (¬ s.Refuses keeps line →
        ∃ display, s.feedInto keeps line = ⟨s.record line, .ok .continue, [display]⟩ ∧
          ShowsHelp (resolve rest).toQuery display) ∧
      (s.Refuses keeps line → s.feedInto keeps line = ⟨s, .error (.misuse .nullInLine), []⟩) ∧
      (s.feedInto keeps line).state.plan = s.plan ∧ (s.feedInto keeps line).state.pending = none ∧
      (s.Rejects rest ↔ (resolve rest).isComplete = false) := by
  intro line
  obtain ⟨target, hresolve, halike, hrest⟩ := h.resolve_line
  refine ⟨⟨target, by rw [hresolve], halike⟩, by rw [hresolve], hrest, fun s keeps hidle => ?_⟩
  obtain ⟨display, hfeed, hshows⟩ := feed_asksFor h hidle
  refine ⟨fun hkeeps => ⟨display, (feedInto_of_not_refuses hkeeps).trans hfeed, hshows⟩, feedInto_of_refuses, ?_⟩
  by_cases hrefuses : s.Refuses keeps line
  · rw [feedInto_of_refuses hrefuses]
    exact ⟨rfl, hidle, rejects_iff s rest⟩
  · rw [feedInto_of_not_refuses hrefuses, hfeed]
    exact ⟨rfl, hidle, rejects_iff s rest⟩

/-- There is help on a line that adds a goal, and none on one that names nothing to be done with it. -/
theorem help_describes_oneGoal :
    (∃ display, (oneGoal.feedInto HistoryFile.keeps ("HELP" ++ String.ofList [' ', '\t'] ++ "add goal x")).shown =
        [display] ∧ ShowsHelp (resolve "add goal x").toQuery display) ∧
    ∃ display, (oneGoal.feedInto HistoryFile.keeps ("?" ++ String.ofList [' '] ++ "goal 1")).shown = [display] ∧
      ShowsHelp (resolve "goal 1").toQuery display := by
  have hadd : AsksFor "HELP" [' ', '\t'] "add goal x" := by decide +kernel
  have hgoal : AsksFor "?" [' '] "goal 1" := by decide +kernel
  obtain ⟨display, hfeed, hshows⟩ := ((help_describes hadd).2.2.2 oneGoal HistoryFile.keeps rfl).1
    fun hrefuses => absurd hrefuses.refused (by decide +kernel)
  obtain ⟨display', hfeed', hshows'⟩ := ((help_describes hgoal).2.2.2 oneGoal HistoryFile.keeps rfl).1
    fun hrefuses => absurd hrefuses.refused (by decide +kernel)
  exact ⟨⟨display, congrArg Reply.shown hfeed, hshows⟩, display', congrArg Reply.shown hfeed', hshows'⟩

/-- **A line that asks for help shows nothing if the history refuses it**, even if it asks about a command. -/
theorem help_null :
    AsksFor "help" [' '] "add goal \x00" ∧ (resolve "add goal \x00").isComplete = true ∧
      (oneGoal.feedInto HistoryFile.keeps ("help" ++ String.ofList [' '] ++ "add goal \x00")).shown = [] := by
  have hasks : AsksFor "help" [' '] "add goal \x00" := by decide +kernel
  have hrefuses : oneGoal.Refuses HistoryFile.keeps ("help" ++ String.ofList [' '] ++ "add goal \x00") :=
    ⟨rfl, rfl, by decide +kernel, by decide +kernel, by decide +kernel⟩
  exact ⟨hasks, by decide +kernel, congrArg Reply.shown (feedInto_of_refuses hrefuses)⟩

end Interpreter

end LifePlan
