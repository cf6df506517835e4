import LifePlan.Proofs.Interpreter.Alike
import LifePlan.Proofs.Interpreter.Help

/-!
# The order of the words

A line may start with the verb or with the noun: `remove goal 1` and `goal remove 1` are the same. The two orders are
read by different rules, and the shared words `r` and `re` are a verb beside a noun and a noun beside a verb. What two
words come to is nevertheless a symmetric relation (`Meets`), and words that are not so related come to nothing in
either order (`meets_or_incomplete`). This holds for all words but those for commands that take no item, which have to
come first (`IsMovable`).

What is done with a line depends on what it says and not on its words (`dispatch_of_said`). So the two orders are
rejected together, or they have the same effect (`feed_swapped`).
-/

namespace LifePlan

/-! ## Words in either order -/

/-- A word that is none for a command that takes no item; most words are unknown. -/
structure IsMovable (word : String) : Prop where
  isWord : Text.IsWord word.toList
  sense : (classify word).sense ∉
    [Sense.command .help, .command .clear, .command .erase, .command .exit, .command .abandon]

instance (word : String) : Decidable (IsMovable word) :=
  decidable_of_iff
    (Text.IsWord word.toList ∧ (classify word).sense ∉
      [Sense.command .help, .command .clear, .command .erase, .command .exit, .command .abandon])
    ⟨fun h => ⟨h.1, h.2⟩, fun h => ⟨h.isWord, h.sense⟩⟩

/-- No word stands for an unknown command. -/
theorem sense_classify_ne_unknown (word : String) : (classify word).sense ≠ .command .unknown := by
  have hlisted : ∀ token ∈ vocabulary, token.sense ≠ .command .unknown := by decide +kernel
  unfold classify
  simp only
  rcases hfound : vocabulary.find? fun t => t.word == String.ofList (Text.lower word.toList) with _ | token
  · rw [hfound]
    exact fun h => by cases h
  · rw [hfound]
    exact hlisted token (List.mem_of_find?_eq_some hfound)

/-- A command that such a word stands for takes an item. -/
theorem IsMovable.takesItem {word : String} {command : Command} (h : IsMovable word)
    (hsense : (classify word).sense = .command command) : command.takesItem = true := by
  have hknown := sense_classify_ne_unknown word
  have hother := h.sense
  rw [hsense] at hknown hother
  cases command with
  | add | list | update | remove => rfl
  | help | clear | erase | exit | abandon => exact absurd (by decide) hother
  | unknown => exact absurd rfl hknown

/-! ## Two words that come to nothing -/

/-- No command is named, or one that takes an item but has none. -/
def Match.Incomplete (found : Match) : Prop :=
  found.command = .unknown ∨ found.command.takesItem = true ∧ found.item = none

/-- A command with something behind it that is no kind of record has no item. -/
theorem incomplete_of_command {command : Command} {second : Sense} (hcommand : command.takesItem = true)
    (hsecond : second.kind? = none) : (resolveWindow [.command command, second]).Incomplete := by
  have hwindow : resolveWindow [.command command, second] = ⟨command, none, 1⟩ := by
    change Rule.commandThen command (some second) = _
    unfold Rule.commandThen
    rw [if_pos hcommand]
    cases second with
    | kind | shared => cases hsecond
    | command | unknown => rfl
  rw [hwindow]
  exact .inr ⟨hcommand, rfl⟩

/-- **Two words name a command and a kind of record, or they come to nothing in either order.** -/
theorem meets_or_incomplete {first second : Sense}
    (hfirst : ∀ command, first = .command command → command.takesItem = true)
    (hsecond : ∀ command, second = .command command → command.takesItem = true) :
    (∃ command kind, Meets first second command kind) ∨
      (resolveWindow [first, second]).Incomplete ∧ (resolveWindow [second, first]).Incomplete := by
  cases first with
  | command command =>
    have hcommand := hfirst command rfl
    cases second with
    | command other =>
      exact .inr ⟨incomplete_of_command hcommand rfl, incomplete_of_command (hsecond other rfl) rfl⟩
    | kind kind => exact .inl ⟨_, _, .named hcommand kind⟩
    | shared => exact .inl ⟨_, _, .result hcommand⟩
    | unknown => exact .inr ⟨incomplete_of_command hcommand rfl, .inl rfl⟩
  | kind kind =>
    cases second with
    | command command => exact .inl ⟨_, _, .swap (.named (hsecond command rfl) kind)⟩
    | kind other => exact .inr ⟨.inl rfl, .inl rfl⟩
    | shared => exact .inl ⟨_, _, .swap (.remove kind)⟩
    | unknown => exact .inr ⟨.inl rfl, .inl rfl⟩
  | shared =>
    cases second with
    | command command => exact .inl ⟨_, _, .swap (.result (hsecond command rfl))⟩
    | kind kind => exact .inl ⟨_, _, .remove kind⟩
    | shared => exact .inl ⟨_, _, .both⟩
    | unknown => exact .inr ⟨.inl rfl, .inl rfl⟩
  | unknown =>
    cases second with
    | command command => exact .inr ⟨.inl rfl, incomplete_of_command (hsecond command rfl) rfl⟩
    | kind | shared | unknown => exact .inr ⟨.inl rfl, .inl rfl⟩

namespace Interpreter

variable {s : Interpreter} {command : Command} {kind : Kind} {w₁ w₂ tail line line' rest : String}

/-- A line that starts with words that come to nothing is rejected. -/
theorem rejects_of_incomplete (h₁ : IsMovable w₁) (h₂ : Text.IsWord w₂.toList)
    (htail : ∀ c ∈ tail.toList.head?, Text.isBlank c = true)
    (h : (resolveWindow [(classify w₁).sense, (classify w₂).sense]).Incomplete) (s : Interpreter) :
    s.Rejects (w₁ ++ " " ++ w₂ ++ tail) := by
  have hhelp : (classify w₁).sense ≠ .command .help := by
    intro hsense
    cases h₁.takesItem hsense
  rw [rejects_iff, resolve_twoWords h₁.isWord h₂ htail hhelp]
  unfold Query.isComplete
  rcases h with hcommand | ⟨hcommand, hitem⟩
  · simp [hcommand]
  · simp [hcommand, hitem]

/-! ## What a line says is what is done -/

/-- The place is found by what is said. -/
theorem locate_of_said (h : Says line command kind rest) (h' : Says line' command kind rest) (s : Interpreter)
    (other : Command) : s.locate (resolve line).toQuery other = s.locate (resolve line').toQuery other := by
  have hkind {l : String} (hl : Says l command kind rest) : recordKind (resolve l).toQuery = .ok kind := by
    rw [recordKind, hl.item_eq]
  have hrest {l : String} (hl : Says l command kind rest) : restOf (resolve l).toQuery = .ok rest := by
    rw [restOf, remainder?_resolve, hl.remainder_eq]
  rw [locate, locate, hkind h, hkind h', hrest h, hrest h']

/-- **Lines that say the same are carried out in the same way.** -/
theorem dispatch_of_said (hcommand : command.takesItem = true) (h : Says line command kind rest)
    (h' : Says line' command kind rest) (s : Interpreter) : s.dispatch (resolve line) = s.dispatch (resolve line') := by
  have hcomplete {l : String} (hl : Says l command kind rest) : (resolve l).isComplete = true := by
    refine Query.isComplete_of_item ?_ ?_
    · rw [hl.command_eq]
      exact hcommand
    · rw [hl.item_eq]
      rfl
  unfold dispatch
  simp only [if_pos (hcomplete h), if_pos (hcomplete h'), h.command_eq, h'.command_eq, h.item_eq, h'.item_eq,
    change, remove, locate_of_said h h']
  cases command with
  | add | list | update | remove => rfl
  | help | clear | erase | exit | abandon | unknown => cases hcommand

/-- A line that says something has text. -/
theorem not_isBlankText_of_said (hcommand : command.takesItem = true) (h : Says line command kind rest) :
    ¬ Text.isBlankText line.toList = true := by
  intro hblank
  have hunknown := command_resolve_of_isBlankText hblank
  rw [h.command_eq] at hunknown
  rw [hunknown] at hcommand
  cases hcommand

/-- Lines that say the same have the same effect, if nothing waits. Only the history tells which of them it was. -/
theorem alike_feed_of_said (hcommand : command.takesItem = true) (h : Says line command kind rest)
    (h' : Says line' command kind rest) (hidle : s.pending = none) : (s.feed line).Alike (s.feed line') := by
  rw [feed_of_idle hidle, feed_of_idle hidle, execute_of_text (not_isBlankText_of_said hcommand h),
    execute_of_text (not_isBlankText_of_said hcommand h'), dispatch_of_said hcommand h h']
  exact alike_dispatch ((alike_record s line).symm.trans (alike_record s line')) (resolve line')

/-- A history file refuses both of two lines that say the same with the same characters, or neither. -/
theorem refuses_of_said (hcommand : command.takesItem = true) (h' : Says line' command kind rest)
    (hchars : ∀ c ∈ line.toList, c ∈ line'.toList) (h : s.Refuses HistoryFile.keeps line) :
    s.Refuses HistoryFile.keeps line' := by
  refine ⟨h.idle, h.kept, not_isBlankText_of_said hcommand h', ?_, ?_⟩
  · rw [h'.command_eq]
    rintro rfl
    cases hcommand
  · rw [keeps_strip_eq_false]
    exact hchars _ (keeps_strip_eq_false.mp h.refused)

/-- The two orders have the same characters. -/
theorem mem_swapped {c : Char} (h : c ∈ (w₁ ++ " " ++ w₂ ++ tail).toList) :
    c ∈ (w₂ ++ " " ++ w₁ ++ tail).toList := by
  simp only [String.toList_append, List.mem_append] at h ⊢
  rcases h with ((hfirst | hspace) | hsecond) | htail
  · exact .inl (.inr hfirst)
  · exact .inl (.inl (.inr hspace))
  · exact .inl (.inl (.inl hsecond))
  · exact .inr htail

/-- **The order of the words makes no difference.** Take two words of which none stands for a command that takes no
item, and any text behind them. In both orders the line is rejected as an unknown command, or in both it says the same
command on the same kind of record, with both words used and the same rest. Then, if nothing waits, both lines have the
same outcome, show the same and leave the same plan, the same clock and the same change that waits, also where the
history refuses them. -/
theorem feed_swapped (h₁ : IsMovable w₁) (h₂ : IsMovable w₂) (htail : ∀ c ∈ tail.toList.head?, Text.isBlank c = true) :
    let line := w₁ ++ " " ++ w₂ ++ tail
    let line' := w₂ ++ " " ++ w₁ ++ tail
    (∀ s : Interpreter, s.Rejects line ∧ s.Rejects line') ∨
      ∃ command kind rest,
        Says line command kind rest ∧ Says line' command kind rest ∧
          (resolve line).consumed = 2 ∧ (resolve line').consumed = 2 ∧
          ∀ s : Interpreter, ¬ s.Rejects line ∧ ¬ s.Rejects line' ∧
            (s.pending = none → (s.feed line).Alike (s.feed line') ∧
              (s.feedInto HistoryFile.keeps line).Alike (s.feedInto HistoryFile.keeps line')) := by
  intro line line'
  rcases meets_or_incomplete (fun _ => h₁.takesItem) (fun _ => h₂.takesItem) with
    ⟨command, kind, hmeets⟩ | ⟨hincomplete, hincomplete'⟩
  · obtain ⟨hsaid, hconsumed⟩ := says_of_meets h₁.isWord h₂.isWord htail hmeets
    obtain ⟨hsaid', hconsumed'⟩ := says_of_meets h₂.isWord h₁.isWord htail hmeets.swap
    have hcommand := hmeets.takesItem
    have hcomplete {l : String} {r : String} (hl : Says l command kind r) (s : Interpreter) : ¬ s.Rejects l := by
      rw [rejects_iff, Query.isComplete_of_item (by rw [hl.command_eq]; exact hcommand) (by rw [hl.item_eq]; rfl)]
      exact fun h => by cases h
    refine .inr ⟨command, kind, _, hsaid, hsaid', hconsumed, hconsumed', fun s => ?_⟩
    refine ⟨hcomplete hsaid s, hcomplete hsaid' s, fun hidle => ?_⟩
    have halike := alike_feed_of_said hcommand hsaid hsaid' hidle
    refine ⟨halike, ?_⟩
    -- the lines have the same characters, so the history refuses both or neither
    by_cases hrefuses : s.Refuses HistoryFile.keeps line
    · have hrefuses' := refuses_of_said hcommand hsaid' (fun _ => mem_swapped) hrefuses
      rw [feedInto_of_refuses hrefuses, feedInto_of_refuses hrefuses']
      exact ⟨rfl, rfl, .refl s⟩
    · have hrefuses' : ¬ s.Refuses HistoryFile.keeps line' :=
        fun h => hrefuses (refuses_of_said hcommand hsaid (fun _ => mem_swapped) h)
      rw [feedInto_of_not_refuses hrefuses, feedInto_of_not_refuses hrefuses']
      exact halike
  · refine .inl fun s => ⟨?_, ?_⟩
    · exact rejects_of_incomplete h₁ h₂.isWord htail hincomplete s
    · exact rejects_of_incomplete h₂ h₁.isWord htail hincomplete' s

/-- The shared word removes beside a noun, wherever it stands. -/
theorem feed_swapped_oneGoal :
    (oneGoal.feed "re goals 1").Alike (oneGoal.feed "goals re 1") ∧
      (oneGoal.feed "goals re 1").state.plan.goals = [] := by
  have htail : ∀ c ∈ " 1".toList.head?, Text.isBlank c = true := by
    intro c hc
    cases hc
    rfl
  have hswapped := @feed_swapped "re" "goals" " 1" (by decide +kernel) (by decide +kernel) htail
  refine ⟨?_, by decide +kernel⟩
  rcases hswapped with hrejects | ⟨command, kind, rest, -, -, -, -, hsame⟩
  · have hincomplete := (rejects_iff oneGoal _).mp (hrejects oneGoal).1
    exact absurd hincomplete (by decide +kernel)
  · exact ((hsame oneGoal).2.2 rfl).1

end Interpreter

end LifePlan
