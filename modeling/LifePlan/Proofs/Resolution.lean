import LifePlan.Proofs.Text.Blank
import LifePlan.Resolution

/-!
# What every line resolves to

Facts about the resolution of a line that hold for all lines: a blank line names no command
(`command_resolve_of_isBlankText`), the words that were used are counted from the start of the line
(`consumed_resolve_nonneg`), so there is always a rest (`remainder?_resolve`), and a line that names an
item for a command that takes one is complete (`isComplete_of_item`). A command that changes records is never
about everything (`item_resolve_of_ne_list`). A line that starts with two words that name a command and a kind of
record (`Meets`), in either order, says them and has the text behind them as its rest (`says_of_meets`).
-/

namespace LifePlan

/-! ## Blank lines -/

/-- **A blank line names no command.** -/
theorem command_resolve_of_isBlankText {line : String} (h : Text.isBlankText line.toList = true) :
    (resolve line).command = .unknown := by
  have hwords : wordsOf line = [] := by rw [wordsOf, Text.words_of_isBlankText h, List.map_nil]
  simp [resolve, Query.ofLine, hwords, Match.unresolved]

/-! ## The words that are used -/

/-- The words that were used are counted from the start of the line. -/
theorem consumed_resolve_nonneg (line : String) : 0 ≤ (resolve line).consumed := by
  have hline (l : String) : 0 ≤ (Query.ofLine l).consumed := Int.natCast_nonneg _
  unfold resolve
  rcases wordsOf line with _ | ⟨first, rest⟩
  · exact hline line
  · by_cases hhelp : (classify first).sense = .command .help
    · simp only [if_pos hhelp]
      by_cases hrest : rest.isEmpty = true
      · simp only [if_pos hrest]
        decide
      · simp only [if_neg hrest]
        exact Int.add_nonneg (by decide) (hline _)
    · simp only [if_neg hhelp]
      exact hline line

/-- **A line always has a rest** behind the words that were used. -/
theorem remainder?_resolve (line : String) : (resolve line).remainder? = some (resolve line).remainder := by
  rw [Query.remainder, Query.remainder?, if_pos (consumed_resolve_nonneg line), Option.getD_some]

/-! ## Completeness -/

/-- A line with an item for a command that takes one can be carried out. -/
theorem Query.isComplete_of_item {q : Query} (hcommand : q.command.takesItem = true)
    (hitem : q.item.isSome = true) : q.isComplete = true := by
  have hknown : q.command ≠ .unknown := by
    intro h
    rw [h] at hcommand
    cases hcommand
  simp [isComplete, hknown, hitem]

/-- A line that can be carried out has the item that its command takes. -/
theorem Query.item_of_isComplete {q : Query} (hcomplete : q.isComplete = true)
    (hcommand : q.command.takesItem = true) : q.item.isSome = true := by
  simpa [isComplete, hcommand] using (Bool.and_eq_true_iff.mp hcomplete).2

/-! ## Items -/

namespace Rule

/-- After a command word, everything is what a listing is about. -/
theorem command_of_commandThen_all {command : Command} {second : Option Sense}
    (h : (commandThen command second).item = some .all) : (commandThen command second).command = .list := by
  unfold commandThen at h ⊢
  split at h
  · split at h
    · by_cases hlist : command = .list
      · rw [if_pos ‹_›]
        exact hlist
      · rw [if_neg hlist] at h
        cases h
    all_goals cases h
  · cases h

/-- A word for a kind of record is not about everything. -/
theorem item_itemThen_ne_all {item : Option Item} (hitem : item ≠ some .all) (second : Option Sense) :
    (itemThen item second).item ≠ some .all := by
  unfold itemThen
  split
  · split
    · exact hitem
    · exact fun h => by cases h
  · exact hitem
  · exact fun h => by cases h

/-- Neither is a shared word. -/
theorem item_sharedThen_ne_all (second : Option Sense) : (sharedThen second).item ≠ some .all := by
  unfold sharedThen
  split
  · exact fun h => by cases h
  · exact fun h => by cases h
  · split
    · exact fun h => by cases h
    · exact fun h => by cases h
  · exact fun h => by cases h

/-- Only a listing is about everything, whatever rule is used. -/
theorem command_of_apply_all {rule : Rule} {first : Sense} {second : Option Sense}
    (h : (rule.apply first second).item = some .all) : (rule.apply first second).command = .list := by
  cases rule with
  | commandFirst =>
    rw [apply] at h ⊢
    rcases hcommand : first.command? with _ | command
    · rw [hcommand] at h
      cases h
    · rw [hcommand] at h
      exact command_of_commandThen_all h
  | itemFirst =>
    refine absurd h (item_itemThen_ne_all ?_ second)
    cases first.kind? <;> exact fun h => by cases h
  | sharedFirst => exact absurd h (item_sharedThen_ne_all second)
  | unresolved => cases h

/-- A command word that takes no item gets none. -/
theorem item_of_commandThen {command : Command} {second : Option Sense}
    (h : (commandThen command second).command.takesItem = false) : (commandThen command second).item = none := by
  unfold commandThen at h ⊢
  by_cases hitem : command.takesItem = true
  · -- each of these commands takes an item
    rw [if_pos hitem] at h
    split at h <;> exact absurd hitem (Bool.not_eq_true _ ▸ h)
  · rw [if_neg hitem]

/-- What takes no item after a word for a kind of record is no command. -/
theorem item_of_itemThen {item : Option Item} {second : Option Sense}
    (h : (itemThen item second).command.takesItem = false) : (itemThen item second).item = none := by
  unfold itemThen at h ⊢
  split at h
  · by_cases hitem : (‹Command› : Command).takesItem = true
    · rw [if_pos hitem] at h
      exact absurd hitem (Bool.not_eq_true _ ▸ h)
    · rw [if_neg hitem]
      rfl
  · cases h
  · rfl

/-- Neither is it after a shared word. -/
theorem item_of_sharedThen {second : Option Sense} (h : (sharedThen second).command.takesItem = false) :
    (sharedThen second).item = none := by
  unfold sharedThen at h ⊢
  split at h
  · cases h
  · cases h
  · by_cases hitem : (‹Command› : Command).takesItem = true
    · rw [if_pos hitem] at h
      exact absurd hitem (Bool.not_eq_true _ ▸ h)
    · rw [if_neg hitem]
      rfl
  · rfl

/-- Only a command that takes an item gets one, whatever rule is used. -/
theorem item_of_apply {rule : Rule} {first : Sense} {second : Option Sense}
    (h : (rule.apply first second).command.takesItem = false) : (rule.apply first second).item = none := by
  cases rule with
  | commandFirst =>
    rw [apply] at h ⊢
    rcases hcommand : first.command? with _ | command
    · rfl
    · rw [hcommand] at h
      exact item_of_commandThen h
  | itemFirst => exact item_of_itemThen h
  | sharedFirst => exact item_of_sharedThen h
  | unresolved => rfl

end Rule

/-- A query that is read from a line is about everything only if it is a listing. -/
theorem Query.command_of_ofLine_all {line : String} (h : (ofLine line).item = some .all) :
    (ofLine line).command = .list := by
  simp only [ofLine] at h ⊢
  generalize ((wordsOf line).take 2).map (fun w => (classify w).sense) = senses at h ⊢
  rcases senses with _ | ⟨first, rest⟩
  · cases h
  · exact Rule.command_of_apply_all h

/-- A query that is read from a line has an item only if its command takes one. -/
theorem Query.item_of_ofLine {line : String} (h : (ofLine line).command.takesItem = false) :
    (ofLine line).item = none := by
  simp only [ofLine] at h ⊢
  generalize ((wordsOf line).take 2).map (fun w => (classify w).sense) = senses at h ⊢
  rcases senses with _ | ⟨first, rest⟩
  · rfl
  · exact Rule.item_of_apply h

/-- A line asks for help, or it is what its words come to. -/
theorem resolve_cases (line : String) :
    ((resolve line).command = .help ∧ (resolve line).item = none) ∨ resolve line = ⟨Query.ofLine line, none⟩ := by
  unfold resolve
  rcases wordsOf line with _ | ⟨first, rest⟩
  · exact .inr rfl
  · by_cases hhelp : (classify first).sense = .command .help
    · simp only [if_pos hhelp]
      split
      · exact .inl ⟨rfl, rfl⟩
      · exact .inl ⟨rfl, rfl⟩
    · simp only [if_neg hhelp]
      exact .inr trivial

/-- **A command that is no listing is about the records of one kind**, if it is about any. -/
theorem item_resolve_of_ne_list {line : String} (hcommand : (resolve line).command ≠ .list)
    (hitem : (resolve line).item.isSome = true) : ∃ kind, (resolve line).item = some (.one kind) := by
  obtain ⟨item, hitem⟩ := Option.isSome_iff_exists.mp hitem
  cases item with
  | one kind => exact ⟨kind, hitem⟩
  | all =>
    rcases resolve_cases line with ⟨-, hnone⟩ | hline
    · rw [hnone] at hitem
      cases hitem
    · rw [hline] at hitem hcommand
      exact absurd (Query.command_of_ofLine_all hitem) hcommand

/-! ## Lines that are spelled out -/

/-- A word that stands for something at the start of a line. -/
structure Names (word : String) (sense : Sense) : Prop where
  isWord : Text.IsWord word.toList
  sense_eq : (classify word).sense = sense

instance (word : String) (sense : Sense) : Decidable (Names word sense) :=
  decidable_of_iff (Text.IsWord word.toList ∧ (classify word).sense = sense)
    ⟨fun h => ⟨h.1, h.2⟩, fun h => ⟨h.isWord, h.sense_eq⟩⟩

/-- A word of a command that is listed stands for it. -/
theorem names_of_mem_spellings {command : Command} :
    ∀ word ∈ command.spellings, Names word (.command command) := by
  cases command <;> decide +kernel

/-- A word of a kind of record that is listed stands for it. -/
theorem names_of_mem_kindSpellings {kind : Kind} : ∀ word ∈ kind.spellings, Names word (.kind kind) := by
  cases kind <;> decide +kernel

/-- So does the word at the start of a line of a listing. -/
theorem names_label (kind : Kind) : Names kind.label (.kind kind) := by
  cases kind <;> decide +kernel

/-- What a line says: a command on the records of one kind, and the rest of the line. -/
structure Says (line : String) (command : Command) (kind : Kind) (rest : String) : Prop where
  command_eq : (resolve line).command = command
  item_eq : (resolve line).item = some (.one kind)
  remainder_eq : (resolve line).remainder = rest

/-- What two words come to that name a command and a kind of record. A shared word is the result beside a verb, and to
remove beside a noun; two of them are both. -/
inductive Meets : Sense → Sense → Command → Kind → Prop
  | named {command : Command} (hcommand : command.takesItem = true) (kind : Kind) :
      Meets (.command command) (.kind kind) command kind
  | result {command : Command} (hcommand : command.takesItem = true) : Meets (.command command) .shared command .result
  | remove (kind : Kind) : Meets .shared (.kind kind) .remove kind
  | both : Meets .shared .shared .remove .result
  | swap {first second : Sense} {command : Command} {kind : Kind} (h : Meets first second command kind) :
      Meets second first command kind

namespace Meets

variable {first second : Sense} {command : Command} {kind : Kind}

/-- The command is one that takes an item. -/
theorem takesItem (h : Meets first second command kind) : command.takesItem = true := by
  induction h with
  | named hcommand => exact hcommand
  | result hcommand => exact hcommand
  | remove => rfl
  | both => rfl
  | swap h ih => exact ih

/-- **The order of the words makes no difference to the rules.** -/
theorem resolveWindow_eq (h : Meets first second command kind) :
    resolveWindow [first, second] = ⟨command, some (.one kind), 2⟩ ∧
      resolveWindow [second, first] = ⟨command, some (.one kind), 2⟩ := by
  induction h with
  | @named command hcommand kind =>
    change Rule.commandThen command (some (.kind kind)) = _ ∧ Rule.itemThen _ (some (.command command)) = _
    rw [Rule.commandThen, Rule.itemThen, if_pos hcommand, if_pos hcommand]
    exact ⟨rfl, rfl⟩
  | @result command hcommand =>
    change Rule.commandThen command (some .shared) = _ ∧ Rule.sharedThen (some (.command command)) = _
    rw [Rule.commandThen, Rule.sharedThen, if_pos hcommand, if_pos hcommand]
    exact ⟨rfl, rfl⟩
  | remove kind => exact ⟨rfl, rfl⟩
  | both => exact ⟨rfl, rfl⟩
  | swap h ih => exact ⟨ih.2, ih.1⟩

/-- Neither word asks for help. -/
theorem ne_help (h : Meets first second command kind) : first ≠ .command .help := by
  rintro rfl
  have hwindow := h.resolveWindow_eq.1
  cases hwindow

end Meets

section twoWords

variable {w₁ w₂ tail : String} (h₁ : Text.IsWord w₁.toList) (h₂ : Text.IsWord w₂.toList)
  (htail : ∀ c ∈ tail.toList.head?, Text.isBlank c = true)

include h₁ h₂ htail

/-- Two words and what follows them have these words first. -/
theorem wordsOf_twoWords : wordsOf (w₁ ++ " " ++ w₂ ++ tail) = w₁ :: w₂ :: wordsOf tail := by
  have hline : (w₁ ++ " " ++ w₂ ++ tail).toList = w₁.toList ++ ' ' :: (w₂.toList ++ tail.toList) := by simp
  rw [wordsOf, hline, Text.words_append h₁ rfl, Text.words_append_of_head h₂ htail]
  simp [wordsOf]

/-- Without these words, what follows is left. -/
theorem dropWords_twoWords :
    Text.dropWords 2 (w₁ ++ " " ++ w₂ ++ tail).toList = tail.toList.dropWhile Text.isBlank := by
  have hline : (w₁ ++ " " ++ w₂ ++ tail).toList = w₁.toList ++ ' ' :: (w₂.toList ++ tail.toList) := by simp
  rw [hline, Text.dropWords_append h₁ rfl, Text.dropWords_append_of_head h₂ htail, Text.dropWords_zero]

/-- **A line that starts with two words** is what these two come to, unless it asks for help. -/
theorem resolve_twoWords (hhelp : (classify w₁).sense ≠ .command .help) :
    let found := resolveWindow [(classify w₁).sense, (classify w₂).sense]
    let line := w₁ ++ " " ++ w₂ ++ tail
    resolve line = ⟨⟨found.command, found.item, found.consumed, w₁ :: w₂ :: wordsOf tail, line⟩, none⟩ := by
  intro found line
  have hwords : wordsOf line = w₁ :: w₂ :: wordsOf tail := wordsOf_twoWords h₁ h₂ htail
  simp only [resolve, Query.ofLine, hwords, if_neg hhelp, List.take_succ_cons, List.take_zero, List.map_cons,
    List.map_nil]
  rfl

/-- If they name a command and a kind of record, then the line says so, and what follows them is its rest. -/
theorem says_of_meets {command : Command} {kind : Kind}
    (hmeets : Meets (classify w₁).sense (classify w₂).sense command kind) :
    Says (w₁ ++ " " ++ w₂ ++ tail) command kind (String.ofList (Text.strip tail.toList)) ∧
      (resolve (w₁ ++ " " ++ w₂ ++ tail)).consumed = 2 := by
  have hresolve := resolve_twoWords h₁ h₂ htail hmeets.ne_help
  rw [hmeets.resolveWindow_eq.1] at hresolve
  refine ⟨⟨by rw [hresolve], by rw [hresolve], ?_⟩, by rw [hresolve]; rfl⟩
  rw [hresolve, Query.remainder, Query.remainder?_ofNat, Option.getD_some, dropWords_twoWords h₁ h₂ htail,
    Text.strip_dropWhile]

end twoWords

/-- **A line that starts with words for a command and an item** says them, and the text behind them is its rest. -/
theorem says_of_names {command : Command} {kind : Kind} {verb noun : String}
    (hcommand : command.takesItem = true) (hverb : Names verb (.command command)) (hnoun : Names noun (.kind kind))
    (rest : String) :
    Says (verb ++ " " ++ noun ++ " " ++ rest) command kind (String.ofList (Text.strip rest.toList)) := by
  have hmeets : Meets (classify verb).sense (classify noun).sense command kind := by
    rw [hverb.sense_eq, hnoun.sense_eq]
    exact .named hcommand kind
  have htail : (" " ++ rest).toList = ' ' :: rest.toList := by simp
  have hblank : ∀ c ∈ (" " ++ rest).toList.head?, Text.isBlank c = true := by
    rw [htail]
    intro c hc
    cases hc
    rfl
  have hsaid := (says_of_meets hverb.isWord hnoun.isWord hblank hmeets).1
  rw [htail, Text.strip_cons_of_blank rfl, ← String.append_assoc] at hsaid
  exact hsaid

/-- A line that starts with a command and an item, each in one of its listed spellings, says them. -/
theorem says_spelled {command : Command} {kind : Kind} {verb noun : String}
    (hcommand : command.takesItem = true) (hverb : verb ∈ command.spellings) (hnoun : noun ∈ kind.spellings)
    (rest : String) :
    Says (verb ++ " " ++ noun ++ " " ++ rest) command kind (String.ofList (Text.strip rest.toList)) :=
  says_of_names hcommand (names_of_mem_spellings verb hverb) (names_of_mem_kindSpellings noun hnoun) rest

/-! ## Lines that ask for help on another line -/

namespace Query

/-- Two lines are read alike: they name the same command and item with as many of the same words, and what is left
of them is the same. -/
structure Alike (q q' : Query) : Prop where
  command : q.command = q'.command
  item : q.item = q'.item
  consumed : q.consumed = q'.consumed
  words : q.words = q'.words
  remainder : q.remainder = q'.remainder

/-- What is left of a line when words have been used from its start. -/
theorem remainder_of_nonneg {q : Query} (h : 0 ≤ q.consumed) :
    q.remainder = String.ofList (Text.strip (Text.dropWords q.consumed.toNat q.line.toList)) := by
  rw [remainder, remainder?, if_pos h, Option.getD_some]

/-- Words are never used from the end of a line. -/
theorem consumed_ofLine_nonneg (line : String) : 0 ≤ (ofLine line).consumed := Int.natCast_nonneg _

/-- **White space in front of a line makes no difference.** -/
theorem alike_ofLine_dropWhile (line : String) :
    Alike (ofLine (String.ofList (line.toList.dropWhile Text.isBlank))) (ofLine line) := by
  generalize htrimmed : String.ofList (line.toList.dropWhile Text.isBlank) = trimmed
  have hlist : trimmed.toList = line.toList.dropWhile Text.isBlank := by
    rw [← htrimmed, String.toList_ofList]
  have hwords : wordsOf trimmed = wordsOf line := by
    rw [wordsOf, wordsOf, hlist, Text.words_dropWhile]
  have hconsumed : (ofLine trimmed).consumed = (ofLine line).consumed := by simp only [ofLine, hwords]
  refine ⟨by simp only [ofLine, hwords], by simp only [ofLine, hwords], hconsumed, hwords, ?_⟩
  rw [remainder_of_nonneg (consumed_ofLine_nonneg _), remainder_of_nonneg (consumed_ofLine_nonneg _), hconsumed]
  change String.ofList (Text.strip (Text.dropWords _ trimmed.toList)) =
    String.ofList (Text.strip (Text.dropWords _ line.toList))
  rw [hlist, Text.dropWords_dropWhile]

end Query

/-- A word for help, white space and another line, which has text and does not ask for help itself. -/
structure AsksFor (word : String) (blanks : List Char) (rest : String) : Prop where
  word : Names word (.command .help)
  ne_nil : blanks ≠ []
  blank : ∀ c ∈ blanks, Text.isBlank c = true
  text : Text.isBlankText rest.toList = false
  other : ∀ first ∈ (wordsOf rest).head?, (classify first).sense ≠ .command .help

instance (word : String) (blanks : List Char) (rest : String) : Decidable (AsksFor word blanks rest) :=
  decidable_of_iff
    (Names word (.command .help) ∧ blanks ≠ [] ∧ blanks.all Text.isBlank = true ∧
      Text.isBlankText rest.toList = false ∧
        ∀ first ∈ (wordsOf rest).head?, (classify first).sense ≠ .command .help)
    ⟨fun h => ⟨h.1, h.2.1, List.all_eq_true.mp h.2.2.1, h.2.2.2.1, h.2.2.2.2⟩,
      fun h => ⟨h.1, h.2, List.all_eq_true.mpr h.3, h.4, h.5⟩⟩

namespace AsksFor

variable {word rest : String} {blanks : List Char}

/-- The other line is read by the rules alone. -/
theorem resolve_rest (h : AsksFor word blanks rest) : resolve rest = ⟨Query.ofLine rest, none⟩ := by
  unfold resolve
  rcases hwords : wordsOf rest with _ | ⟨first, words⟩
  · rfl
  · have hother := h.other first (by rw [hwords]; rfl)
    simp only [if_neg hother]

/-- **A line that asks for help** is about the other line: this one is read as it is read alone, the one word for
help is used besides, and the rest is the same. -/
theorem resolve_line (h : AsksFor word blanks rest) :
    ∃ target, resolve (word ++ String.ofList blanks ++ rest) =
        ⟨⟨.help, none, (resolve rest).consumed + 1, word :: wordsOf rest, word ++ String.ofList blanks ++ rest⟩,
          some target⟩ ∧
      target.Alike (resolve rest).toQuery ∧
        (resolve (word ++ String.ofList blanks ++ rest)).remainder = (resolve rest).remainder := by
  generalize hspelled : word ++ String.ofList blanks ++ rest = line
  obtain ⟨c, cs, rfl⟩ := List.exists_cons_of_ne_nil h.ne_nil
  have hc : Text.isBlank c = true := h.blank c List.mem_cons_self
  have hcs : ∀ a ∈ cs, Text.isBlank a = true := fun a ha => h.blank a (List.mem_cons_of_mem c ha)
  have hline : line.toList = word.toList ++ c :: (cs ++ rest.toList) := by simp [← hspelled]
  have hwords : wordsOf line = word :: wordsOf rest := by
    rw [wordsOf, hline, Text.words_append h.word.isWord hc, Text.words_append_left hcs]
    simp [wordsOf]
  have hdrop (k : Nat) : Text.dropWords (k + 1) line.toList = Text.dropWords k rest.toList := by
    rw [hline, Text.dropWords_append h.word.isWord hc, Text.dropWords_append_left hcs]
  have hsome : ¬ (wordsOf rest).isEmpty = true := by
    rw [List.isEmpty_iff, wordsOf, List.map_eq_nil_iff]
    exact Text.words_ne_nil h.text
  have halike := Query.alike_ofLine_dropWhile rest
  have hresolve : resolve line =
      ⟨⟨.help, none, (Query.ofLine rest).consumed + 1, word :: wordsOf rest, line⟩,
        some (Query.ofLine (String.ofList (rest.toList.dropWhile Text.isBlank)))⟩ := by
    simp only [resolve, hwords, if_pos h.word.sense_eq, if_neg hsome, hdrop 0, Text.dropWords_zero]
    rw [halike.consumed, Int.add_comm]
  have hnonneg := Query.consumed_ofLine_nonneg rest
  rw [h.resolve_rest]
  refine ⟨_, hresolve, halike, ?_⟩
  rw [hresolve, Query.remainder_of_nonneg (Int.add_nonneg hnonneg (by decide)), Query.remainder_of_nonneg hnonneg]
  simp only
  rw [Int.toNat_add hnonneg (by decide)]
  change String.ofList (Text.strip (Text.dropWords ((Query.ofLine rest).consumed.toNat + 1) line.toList)) = _
  rw [hdrop]
  rfl

end AsksFor

end LifePlan
