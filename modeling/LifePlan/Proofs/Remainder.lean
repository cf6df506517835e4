import LifePlan.Proofs.Resolution

/-!
# The rest of a line

When words have been used from the start of a line, what is left is the end of the trimmed line with the words that
come after them (`remainder_suffix`, `wordsOf_remainder`). What a line is read as depends only on the senses of its
words (`resolve_eq_ofSenses`), and the words that are used are words of the vocabulary (`StartsKnown.ofSenses`). So these
words may be spelled in any other way, with any other white space around them: the line is read as before, and the same
rest is left of it (`remainder_exact`).
-/

namespace LifePlan

/-! ## What is left behind some words -/

section remainder

variable {q : Query} {k : Nat}

/-- What is left is trimmed text behind the words. -/
theorem toList_remainder (h : q.consumed = k) :
    q.remainder.toList = Text.strip (Text.dropWords k q.line.toList) := by
  rw [Query.remainder_of_nonneg (by rw [h]; exact Int.natCast_nonneg k), h, String.toList_ofList]
  rfl

/-- **What is left is an end of the trimmed line.** -/
theorem remainder_suffix (h : q.consumed = k) : q.remainder.toList <:+ Text.strip q.line.toList := by
  rw [toList_remainder h]
  exact Text.strip_suffix_strip (Text.dropWords_suffix k _)

/-- **It has the words that come after those that were used.** -/
theorem wordsOf_remainder (h : q.consumed = k) : wordsOf q.remainder = (wordsOf q.line).drop k := by
  rw [wordsOf, toList_remainder h, Text.words_strip, Text.words_dropWords, List.map_drop, wordsOf]

/-- Nothing is left if and only if there are no more words. -/
theorem remainder_eq_empty_iff (h : q.consumed = k) : q.remainder = "" ↔ (wordsOf q.line).length ≤ k := by
  rw [← String.toList_eq_nil_iff, toList_remainder h, Text.strip_eq_nil_iff, Text.words_dropWords,
    List.drop_eq_nil_iff, wordsOf, List.length_map]

end remainder

/-! ## Senses -/

/-- The senses of the words of a text. -/
def sensesOf (cs : List Char) : List Sense := (Text.words cs).map fun w => (classify (String.ofList w)).sense

/-- The senses of the words of a line. -/
theorem sensesOf_toList (line : String) : sensesOf line.toList = (wordsOf line).map fun w => (classify w).sense := by
  rw [sensesOf, wordsOf, List.map_map]
  rfl

/-- What the senses of the words of a line come to; a word for help takes what is made of the words behind it. -/
def Match.ofSenses : List Sense → Match
  | .command .help :: senses => ⟨.help, none, 1 + (resolveWindow (senses.take 2)).consumed⟩
  | senses => resolveWindow (senses.take 2)

/-- Unless the first word asks for help, the first two words are read by the rules. -/
theorem Match.ofSenses_of_ne {senses : List Sense} (h : senses.head? ≠ some (.command .help)) :
    ofSenses senses = resolveWindow (senses.take 2) := by
  unfold ofSenses
  split
  · exact absurd rfl h
  · rfl

/-- What the rules make of a line, by the senses of its words. -/
theorem Query.ofLine_eq (line : String) :
    ofLine line =
      let found := resolveWindow ((sensesOf line.toList).take 2)
      ⟨found.command, found.item, found.consumed, wordsOf line, line⟩ := by
  simp only [ofLine, sensesOf_toList, List.map_take]

/-- A line that does not ask for help is read by the rules alone. -/
theorem resolve_of_ne_help {line : String} (h : (sensesOf line.toList).head? ≠ some (.command .help)) :
    resolve line = ⟨Query.ofLine line, none⟩ := by
  unfold resolve
  rcases hwords : wordsOf line with _ | ⟨first, rest⟩
  · rfl
  · have hother : (classify first).sense ≠ .command .help := by
      rw [sensesOf_toList, hwords] at h
      exact fun hhelp => h (congrArg some hhelp)
    simp only [if_neg hother]

/-- The line is kept as typed. -/
@[simp] theorem line_resolve (line : String) : (resolve line).line = line := by
  unfold resolve
  rcases wordsOf line with _ | ⟨first, rest⟩
  · rfl
  · by_cases hhelp : (classify first).sense = .command .help
    · simp only [if_pos hhelp]
      split <;> rfl
    · simp only [if_neg hhelp]
      rfl

/-- So are its words. -/
@[simp] theorem words_resolve (line : String) : (resolve line).words = wordsOf line := by
  unfold resolve
  rcases hwords : wordsOf line with _ | ⟨first, rest⟩
  · exact hwords
  · by_cases hhelp : (classify first).sense = .command .help
    · simp only [if_pos hhelp]
      split <;> rfl
    · simp only [if_neg hhelp]
      exact hwords

/-- A line that has a target asks for help, and the target has the words behind the first one. -/
theorem target_resolve {line : String} {target : Query} (h : (resolve line).target = some target) :
    (resolve line).command = .help ∧ target.words = (wordsOf line).drop 1 := by
  have hwords : (Query.ofLine (String.ofList (Text.dropWords 1 line.toList))).words = (wordsOf line).drop 1 := by
    simp only [Query.ofLine, wordsOf, String.toList_ofList, Text.words_dropWords, List.map_drop]
  revert h
  unfold resolve
  rcases hline : wordsOf line with _ | ⟨first, rest⟩
  · exact fun h => by cases h
  · rw [hline] at hwords
    by_cases hhelp : (classify first).sense = .command .help
    · simp only [if_pos hhelp]
      split
      · exact fun h => by cases h
      · intro h
        rw [← Option.some.inj h]
        exact ⟨rfl, hwords⟩
    · simp only [if_neg hhelp]
      exact fun h => by cases h

/-- A line that asks for help uses the word for help and what the rules use of the words behind it. -/
theorem resolve_of_help {line : String} {senses : List Sense}
    (h : sensesOf line.toList = .command .help :: senses) :
    (resolve line).command = .help ∧ (resolve line).item = none ∧
      (resolve line).consumed = 1 + (resolveWindow (senses.take 2)).consumed := by
  have htarget : sensesOf (Text.dropWords 1 line.toList) = senses := by
    rw [sensesOf, Text.words_dropWords, List.map_drop]
    exact congrArg (List.drop 1) h
  have hused := Query.ofLine_eq (String.ofList (Text.dropWords 1 line.toList))
  rw [String.toList_ofList, htarget] at hused
  rw [sensesOf_toList] at h
  unfold resolve
  rcases hwords : wordsOf line with _ | ⟨first, rest⟩
  · rw [hwords] at h
    cases h
  · rw [hwords, List.map_cons] at h
    obtain ⟨hhelp, hrest⟩ := List.cons.inj h
    simp only [if_pos hhelp]
    by_cases hnone : rest.isEmpty = true
    · rw [List.isEmpty_iff.mp hnone] at hrest
      simp only [if_pos hnone, ← hrest]
      exact ⟨trivial, trivial, rfl⟩
    · simp only [if_neg hnone, hused]
      exact ⟨trivial, trivial, trivial⟩

/-- **What a line is read as depends only on the senses of its words.** -/
theorem resolve_eq_ofSenses (line : String) :
    let found := Match.ofSenses (sensesOf line.toList)
    (resolve line).command = found.command ∧ (resolve line).item = found.item ∧
      (resolve line).consumed = found.consumed := by
  intro found
  by_cases hhelp : (sensesOf line.toList).head? = some (.command .help)
  · obtain ⟨senses, hsenses⟩ := List.head?_eq_some_iff.mp hhelp
    obtain ⟨hcommand, hitem, hconsumed⟩ := resolve_of_help hsenses
    have hfound : found = ⟨.help, none, 1 + (resolveWindow (senses.take 2)).consumed⟩ := by
      change Match.ofSenses _ = _
      rw [hsenses, Match.ofSenses]
    rw [hfound, hcommand, hitem, hconsumed]
    exact ⟨rfl, rfl, (Int.natCast_add _ _).symm⟩
  · have hfound : found = resolveWindow ((sensesOf line.toList).take 2) := Match.ofSenses_of_ne hhelp
    rw [resolve_of_ne_help hhelp, Query.ofLine_eq, hfound]
    exact ⟨rfl, rfl, rfl⟩

/-! ## The words that are used -/

/-- Some number of senses come first, and they are all known. -/
inductive StartsKnown : Nat → List Sense → Prop
  | zero (senses : List Sense) : StartsKnown 0 senses
  | succ {k : Nat} {sense : Sense} {senses : List Sense} (hknown : sense ≠ .unknown) (h : StartsKnown k senses) :
      StartsKnown (k + 1) (sense :: senses)

namespace StartsKnown

variable {k : Nat} {first second : Sense} {senses rest : List Sense}

/-- More senses may follow. -/
theorem append (h : StartsKnown k senses) (rest : List Sense) : StartsKnown k (senses ++ rest) := by
  induction h with
  | zero => exact .zero _
  | succ hknown _ ih => exact .succ hknown ih

/-- One known sense. -/
theorem one (h : first ≠ .unknown) : StartsKnown 1 (first :: rest) := .succ h (.zero rest)

/-- Two known senses. -/
theorem two (h : first ≠ .unknown) (h' : second ≠ .unknown) : StartsKnown 2 (first :: second :: rest) :=
  .succ h (one h')

/-- The rules use known words. -/
theorem resolveWindow (senses : List Sense) : StartsKnown (resolveWindow senses).consumed senses := by
  rcases senses with _ | ⟨first, rest⟩
  · exact .zero []
  · have hnone : StartsKnown Match.unresolved.consumed (first :: rest) := .zero _
    cases first with
    | command command =>
      change StartsKnown (Rule.commandThen command rest.head?).consumed _
      have hone : StartsKnown 1 (.command command :: rest) := one (by simp)
      unfold Rule.commandThen
      by_cases hitem : command.takesItem = true
      · rw [if_pos hitem]
        rcases rest with _ | ⟨_ | _ | _ | _, rest⟩
        · exact hone
        · exact hone
        · exact two (by simp) (by simp)
        · exact two (by simp) (by simp)
        · exact hone
      · rw [if_neg hitem]
        exact hone
    | kind kind =>
      rcases rest with _ | ⟨command | _ | _ | _, rest⟩
      · exact hnone
      · change StartsKnown (Rule.itemThen _ (some (.command command))).consumed _
        unfold Rule.itemThen
        by_cases hitem : command.takesItem = true
        · simp only [if_pos hitem]
          exact two (by simp) (by simp)
        · simp only [if_neg hitem]
          exact hnone
      · exact hnone
      · exact two (by simp) (by simp)
      · exact hnone
    | shared =>
      rcases rest with _ | ⟨command | _ | _ | _, rest⟩
      · exact hnone
      · change StartsKnown (Rule.sharedThen (some (.command command))).consumed _
        unfold Rule.sharedThen
        by_cases hitem : command.takesItem = true
        · simp only [if_pos hitem]
          exact two (by simp) (by simp)
        · simp only [if_neg hitem]
          exact hnone
      · exact two (by simp) (by simp)
      · exact two (by simp) (by simp)
      · exact hnone
    | unknown => exact hnone

/-- **The words that a line uses are known.** -/
theorem ofSenses (senses : List Sense) : StartsKnown (Match.ofSenses senses).consumed senses := by
  have hrules (senses : List Sense) : StartsKnown (LifePlan.resolveWindow (senses.take 2)).consumed senses := by
    have htaken := (resolveWindow (senses.take 2)).append (senses.drop 2)
    rwa [List.take_append_drop] at htaken
  unfold Match.ofSenses
  split
  · rw [Nat.add_comm]
    exact .succ (by simp) (hrules _)
  · exact hrules senses

end StartsKnown

/-! ## Other spellings -/

/-- In lower case the word stands in the vocabulary, with the sense. -/
structure Spells (word : List Char) (sense : Sense) : Prop where
  isWord : Text.IsWord word
  listed : (⟨String.ofList (Text.lower word), sense⟩ : Token) ∈ vocabulary

instance (word : List Char) (sense : Sense) : Decidable (Spells word sense) :=
  decidable_of_iff (Text.IsWord word ∧ (⟨String.ofList (Text.lower word), sense⟩ : Token) ∈ vocabulary)
    ⟨fun h => ⟨h.1, h.2⟩, fun h => ⟨h.isWord, h.listed⟩⟩

/-- Such a word is read with that sense. -/
theorem Spells.sense_eq {word : List Char} {sense : Sense} (h : Spells word sense) :
    (classify (String.ofList word)).sense = sense := by
  have hfound : ∀ token ∈ vocabulary, (vocabulary.find? fun t => t.word == token.word) = some token := by
    decide +kernel
  simp only [classify, String.toList_ofList, hfound _ h.listed]
  rfl

/-- A word with a known sense stands in the vocabulary. -/
theorem spells_of_ne_unknown {word : List Char} (hword : Text.IsWord word)
    (h : (classify (String.ofList word)).sense ≠ .unknown) : Spells word (classify (String.ofList word)).sense := by
  refine ⟨hword, ?_⟩
  simp only [classify, String.toList_ofList] at h ⊢
  rcases hfound : vocabulary.find? fun t => t.word == String.ofList (Text.lower word) with _ | token
  · rw [hfound] at h
    exact absurd rfl h
  · have hsame : token.word = String.ofList (Text.lower word) := by
      simpa using List.find?_some hfound
    rw [hfound, ← hsame]
    exact List.mem_of_find?_eq_some hfound

/-- Two texts are the same but for the spelling of so many words at their start and the white space around these. The
white space may be missing in front of the first word, and where the text ends behind a word. -/
inductive Respelled : Nat → List Char → List Char → Prop
  | rest {cs cs' : List Char} (h : cs.dropWhile Text.isBlank = cs'.dropWhile Text.isBlank) : Respelled 0 cs cs'
  | word {k : Nat} {sense : Sense} {blanks blanks' w w' cs cs' : List Char}
      (hblanks : ∀ c ∈ blanks, Text.isBlank c = true) (hblanks' : ∀ c ∈ blanks', Text.isBlank c = true)
      (hw : Spells w sense) (hw' : Spells w' sense)
      (hcs : ∀ c ∈ cs.head?, Text.isBlank c = true) (hcs' : ∀ c ∈ cs'.head?, Text.isBlank c = true)
      (h : Respelled k cs cs') : Respelled (k + 1) (blanks ++ (w ++ cs)) (blanks' ++ (w' ++ cs'))

namespace Respelled

variable {k : Nat} {cs cs' : List Char}

/-- The words have the same senses. -/
theorem sensesOf_eq (h : Respelled k cs cs') : sensesOf cs = sensesOf cs' := by
  induction h with
  | rest h =>
    rw [sensesOf, sensesOf, ← Text.words_dropWhile, h, Text.words_dropWhile]
  | word hblanks hblanks' hw hw' hcs hcs' _ ih =>
    rw [sensesOf, sensesOf] at ih ⊢
    rw [Text.words_append_left hblanks, Text.words_append_left hblanks', Text.words_append_of_head hw.isWord hcs,
      Text.words_append_of_head hw'.isWord hcs', List.map_cons, List.map_cons, hw.sense_eq, hw'.sense_eq, ih]

/-- Behind these words the texts are the same. -/
theorem dropWords_eq (h : Respelled k cs cs') : Text.dropWords k cs = Text.dropWords k cs' := by
  induction h with
  | rest h => exact h
  | word hblanks hblanks' hw hw' hcs hcs' _ ih =>
    rw [Text.dropWords_append_left hblanks, Text.dropWords_append_left hblanks',
      Text.dropWords_append_of_head hw.isWord hcs, Text.dropWords_append_of_head hw'.isWord hcs', ih]

/-- Known words are spelled as they are. -/
theorem refl (h : StartsKnown k (sensesOf cs)) : Respelled k cs cs := by
  induction cs using Text.wordwise_induction generalizing k with
  | blank cs hcs =>
    rw [sensesOf, Text.words_of_isBlankText hcs] at h
    cases h
    exact .rest rfl
  | word blanks w cs hblanks hw hcs ih =>
    rw [sensesOf, Text.words_append_left hblanks, Text.words_append_of_head hw hcs, List.map_cons] at h
    cases h with
    | zero => exact .rest rfl
    | succ hknown h =>
      have hspells := spells_of_ne_unknown hw hknown
      exact .word hblanks hblanks hspells hspells hcs hcs (ih h)

end Respelled

/-- **The rest of a line** is what is left of it behind some words: it is an end of the trimmed line, it has just the
words that come after these, and it is empty if and only if there are none. The words that a line uses for its command
and its item are words of the vocabulary. If they are spelled in any other way, with any other white space around
them, then the line is read as the same command on the same item with as many words, and its rest is the same. -/
theorem remainder_exact (line : String) :
    (∀ (q : Query) (k : Nat), q.line = line → q.consumed = k →
      q.remainder.toList <:+ Text.strip line.toList ∧ wordsOf q.remainder = (wordsOf line).drop k ∧
        (q.remainder = "" ↔ (wordsOf line).length ≤ k)) ∧
    ∃ k : Nat, (resolve line).consumed = k ∧ Respelled k line.toList line.toList ∧
      ∀ line' : String, Respelled k line.toList line'.toList →
        (resolve line').command = (resolve line).command ∧ (resolve line').item = (resolve line).item ∧
          (resolve line').consumed = k ∧ (resolve line').remainder = (resolve line).remainder := by
  refine ⟨fun q k hline hconsumed => ?_, ?_⟩
  · subst hline
    exact ⟨remainder_suffix hconsumed, wordsOf_remainder hconsumed, remainder_eq_empty_iff hconsumed⟩
  · obtain ⟨hcommand, hitem, hconsumed⟩ := resolve_eq_ofSenses line
    refine ⟨_, hconsumed, .refl (.ofSenses _), fun line' hrespelled => ?_⟩
    obtain ⟨hcommand', hitem', hconsumed'⟩ := resolve_eq_ofSenses line'
    rw [← hrespelled.sensesOf_eq] at hcommand' hitem' hconsumed'
    refine ⟨hcommand'.trans hcommand.symm, hitem'.trans hitem.symm, hconsumed', ?_⟩
    rw [← String.toList_inj, toList_remainder hconsumed', toList_remainder hconsumed, line_resolve, line_resolve,
      hrespelled.dropWords_eq]

/-- A removal in two spellings and with all kinds of white space: the rest keeps its own white space. -/
theorem remainder_exact_removal :
    let line := "  re\tGoals 2.1  so  it goes "
    let line' := "R\u2003 go\u2029\n2.1  so  it goes "
    Respelled 2 line.toList line'.toList ∧ (resolve line').command = .remove ∧
      (resolve line').item = some (.one .goal) ∧ (resolve line').remainder = "2.1  so  it goes" := by
  intro line line'
  have hresolve : (resolve line).command = .remove ∧ (resolve line).item = some (.one .goal) ∧
      (resolve line).consumed = 2 ∧ (resolve line).remainder = "2.1  so  it goes" := by decide +kernel
  have hline : line.toList =
      [' ', ' '] ++ ("re".toList ++ (['\t'] ++ ("Goals".toList ++ " 2.1  so  it goes ".toList))) := by decide
  have hline' : line'.toList =
      [] ++ ("R".toList ++ (['\u2003', ' '] ++ ("go".toList ++ "\u2029\n2.1  so  it goes ".toList))) := by decide
  have hrespelled : Respelled 2 line.toList line'.toList := by
    have hverb : Spells "re".toList .shared ∧ Spells "R".toList .shared := by decide +kernel
    have hnoun : Spells "Goals".toList (.kind .goal) ∧ Spells "go".toList (.kind .goal) := by decide +kernel
    rw [hline, hline']
    have hblank (cs : List Char) (h : cs.all Text.isBlank = true) : ∀ c ∈ cs, Text.isBlank c = true :=
      List.all_eq_true.mp h
    have hgap (cs : List Char) (h : cs.head?.all Text.isBlank = true) : ∀ c ∈ cs.head?, Text.isBlank c = true :=
      (Option.all_eq_true _ _).mp h
    refine .word (hblank _ rfl) (hblank _ rfl) hverb.1 hverb.2 (hgap _ (by decide)) (hgap _ (by decide)) ?_
    refine .word (hblank _ rfl) (hblank _ rfl) hnoun.1 hnoun.2 (hgap _ (by decide)) (hgap _ (by decide)) ?_
    exact .rest (by decide)
  obtain ⟨k, hconsumed, -, hsame⟩ := (remainder_exact line).2
  obtain rfl : k = 2 := Int.ofNat.inj (hconsumed.symm.trans hresolve.2.2.1)
  obtain ⟨hcommand, hitem, -, hremainder⟩ := hsame line' hrespelled
  exact ⟨hrespelled, hcommand.trans hresolve.1, hitem.trans hresolve.2.1, hremainder.trans hresolve.2.2.2⟩

end LifePlan
