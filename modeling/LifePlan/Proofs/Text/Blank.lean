import LifePlan.Text.Blank

/-!
# Trimming and words, for texts that are put together

What trimming and cutting into words do to a text whose parts are known: a text with neither white space at its
start nor at its end is trimmed (`strip_eq_self`), what was trimmed stays as it is (`strip_strip`), and a text
that starts with a word and white space has that word first (`words_append`, `dropWords_append`). Every text is
white space, or a word in front of another text (`wordwise_induction`). So to trim a text leaves its words
(`words_strip`), and to drop words leaves the words that come after them (`words_dropWords`).
-/

namespace LifePlan.Text

variable {p : Char → Bool} {c : Char} {cs ds w : List Char}

/-! ## Dropping at both ends -/

/-- Nothing is dropped in front of a first character that stays. -/
theorem dropWhile_of_head (h : ∀ c ∈ cs.head?, p c = false) : cs.dropWhile p = cs := by
  rcases cs with _ | ⟨c, cs⟩
  · rfl
  · exact List.dropWhile_cons_of_neg (Bool.not_eq_true _ ▸ h c rfl)

/-- Nothing is dropped behind a last character that stays. -/
theorem dropRight_of_getLast (h : ∀ c ∈ cs.getLast?, p c = false) : dropRight p cs = cs := by
  rw [dropRight, dropWhile_of_head, List.reverse_reverse]
  rwa [List.head?_reverse]

/-- After dropping, the first character is one that stays. -/
theorem head_dropWhile (p : Char → Bool) (cs : List Char) : ∀ c ∈ (cs.dropWhile p).head?, p c = false := by
  intro c hc
  have h := List.head?_dropWhile_not p cs
  rw [Option.mem_def.mp hc] at h
  exact h

/-- After dropping from the right, the last character is one that stays. -/
theorem getLast_dropRight (p : Char → Bool) (cs : List Char) :
    ∀ c ∈ (dropRight p cs).getLast?, p c = false := by
  rw [dropRight, List.getLast?_reverse]
  exact head_dropWhile p cs.reverse

/-- To drop from the right leaves the first character, if it leaves any. -/
theorem head_dropRight (p : Char → Bool) (cs : List Char) : ∀ c ∈ (dropRight p cs).head?, c ∈ cs.head? := by
  intro c hc
  have hparts : cs = dropRight p cs ++ (cs.reverse.takeWhile p).reverse := by
    rw [dropRight, ← List.reverse_append, List.takeWhile_append_dropWhile, List.reverse_reverse]
  rw [hparts, List.head?_append, Option.mem_def.mp hc]
  rfl

/-- To drop from the right goes on into what is in front if nothing is left of the rest. -/
theorem dropRight_append (p : Char → Bool) (cs ds : List Char) :
    dropRight p (cs ++ ds) = if dropRight p ds = [] then dropRight p cs else cs ++ dropRight p ds := by
  rw [dropRight, dropRight, List.reverse_append, List.dropWhile_append]
  simp only [List.isEmpty_iff, List.reverse_eq_nil_iff]
  split
  · rfl
  · rw [List.reverse_append, List.reverse_reverse]

/-- **What is dropped at one end does not depend on what is dropped at the other**, not even where the two meet. -/
theorem dropRight_dropWhile (p q : Char → Bool) (cs : List Char) :
    dropRight p (cs.dropWhile q) = (dropRight p cs).dropWhile q := by
  have hfront : ∀ c ∈ cs.takeWhile q, q c = true := List.all_eq_true.mp List.all_takeWhile
  have hparts := dropRight_append p (cs.takeWhile q) (cs.dropWhile q)
  rw [List.takeWhile_append_dropWhile] at hparts
  rw [hparts]
  split
  · next hnone =>
    -- nothing is left behind the front, and of the front `q` drops all that `p` leaves
    have hrest : ∀ c ∈ dropRight p (cs.takeWhile q), q c = true :=
      fun c hc => hfront c (List.mem_reverse.mp ((List.dropWhile_sublist p).subset (List.mem_reverse.mp hc)))
    have hall : (dropRight p (cs.takeWhile q) ++ []).dropWhile q = [] := List.dropWhile_append_of_pos hrest
    rw [List.append_nil] at hall
    rw [hnone, hall]
  · have hback := dropWhile_of_head fun c hc => head_dropWhile q cs c (head_dropRight p _ c hc)
    rw [List.dropWhile_append_of_pos hfront, hback]

/-! ## Trimming -/

/-- **A text without white space at its ends is trimmed.** -/
theorem strip_eq_self (hhead : ∀ c ∈ cs.head?, isBlank c = false)
    (hlast : ∀ c ∈ cs.getLast?, isBlank c = false) : strip cs = cs := by
  rw [strip, dropWhile_of_head hhead, dropRight_of_getLast hlast]

/-- White space in front makes no difference. -/
theorem strip_cons_of_blank (h : isBlank c = true) (cs : List Char) : strip (c :: cs) = strip cs := by
  rw [strip, List.dropWhile_cons_of_pos h, strip]

/-- Neither does it when it has been dropped. -/
theorem strip_dropWhile (cs : List Char) : strip (cs.dropWhile isBlank) = strip cs := by
  rw [strip, dropWhile_of_head (head_dropWhile isBlank cs), strip]

/-- **What was trimmed is trimmed.** -/
@[simp] theorem strip_strip (cs : List Char) : strip (strip cs) = strip cs := by
  refine strip_eq_self (fun c hc => ?_) (getLast_dropRight isBlank _)
  exact head_dropWhile isBlank cs c (head_dropRight isBlank _ c hc)

/-- A character that is not white space is not trimmed. -/
theorem mem_strip (h : isBlank c = false) : c ∈ strip cs ↔ c ∈ cs := by
  have hdrop (ds : List Char) : c ∈ ds.dropWhile isBlank ↔ c ∈ ds := by
    constructor
    · exact fun hc => (List.dropWhile_sublist isBlank).subset hc
    · intro hc
      rw [← List.takeWhile_append_dropWhile (p := isBlank) (l := ds), List.mem_append] at hc
      rcases hc with hc | hc
      · rw [List.all_eq_true.mp List.all_takeWhile c hc] at h
        cases h
      · exact hc
  rw [strip, dropRight, List.mem_reverse, hdrop, List.mem_reverse, hdrop]

/-! ## Words -/

/-- A word: there is something in it, and no white space. -/
def IsWord (w : List Char) : Prop := w ≠ [] ∧ ∀ c ∈ w, isBlank c = false

/-- The characters of a word can be looked at one after the other. -/
theorem isWord_iff : IsWord w ↔ w ≠ [] ∧ w.all (fun c => !isBlank c) = true := by
  simp only [IsWord, List.all_eq_true, Bool.not_eq_true']

instance (w : List Char) : Decidable (IsWord w) := decidable_of_iff' _ isWord_iff

/-- **A word at the start of a text is its first word**, if white space follows or nothing does. -/
theorem words_append_of_head (hw : IsWord w) (hcs : ∀ c ∈ cs.head?, isBlank c = true) :
    words (w ++ cs) = w :: words cs := by
  obtain ⟨hne, hblank⟩ := hw
  induction w with
  | nil => exact absurd rfl hne
  | cons a w ih =>
    rw [List.forall_mem_cons] at hblank
    rcases w with _ | ⟨b, w⟩
    · rcases cs with _ | ⟨c, cs⟩
      · simp [words, hblank.1]
      · rw [List.cons_append, List.nil_append, words]
        simp only [hblank.1, hcs c rfl, if_pos, Bool.false_eq_true, if_false]
    · have hrest := ih (List.cons_ne_nil b w) hblank.2
      rw [List.forall_mem_cons] at hblank
      rw [List.cons_append, List.cons_append, words]
      simp only [hblank.1, hblank.2.1, Bool.false_eq_true, if_false]
      rw [List.cons_append] at hrest
      rw [hrest]

/-- The white space behind it does not count. -/
theorem words_append (hw : IsWord w) (hc : isBlank c = true) (cs : List Char) :
    words (w ++ c :: cs) = w :: words cs := by
  rw [words_append_of_head hw (fun d hd => by cases hd; exact hc), words_cons_of_blank hc]

/-- White space in front of a text makes no difference to its words. -/
theorem words_dropWhile (cs : List Char) : words (cs.dropWhile isBlank) = words cs := by
  induction cs with
  | nil => rfl
  | cons c cs ih =>
    by_cases hc : isBlank c = true
    · rw [List.dropWhile_cons_of_pos hc, ih, words_cons_of_blank hc]
    · rw [List.dropWhile_cons_of_neg hc]

/-- Only white space has no words. -/
theorem words_ne_nil (h : isBlankText cs = false) : words cs ≠ [] := by
  induction cs with
  | nil => cases h
  | cons c cs ih =>
    by_cases hc : isBlank c = true
    · rw [words_cons_of_blank hc]
      refine ih ?_
      rwa [isBlankText, List.all_cons, hc, Bool.true_and] at h
    · rcases cs with _ | ⟨d, cs⟩
      · simp [words, hc]
      · rw [words]
        simp only [hc, Bool.false_eq_true, if_false]
        split
        · exact List.cons_ne_nil _ _
        · split <;> exact List.cons_ne_nil _ _

/-- White space in front of the words that are dropped makes no difference. -/
theorem dropWords_cons_of_blank (hc : isBlank c = true) (k : Nat) (cs : List Char) :
    dropWords k (c :: cs) = dropWords k cs := by
  rcases k with _ | k
  · rw [dropWords_zero, dropWords_zero, List.dropWhile_cons_of_pos hc]
  · rw [dropWords_succ, dropWords_succ, List.dropWhile_cons_of_pos hc]

/-- Neither does any amount of it. -/
theorem dropWords_dropWhile (k : Nat) (cs : List Char) :
    dropWords k (cs.dropWhile isBlank) = dropWords k cs := by
  have htwice := dropWhile_of_head (head_dropWhile isBlank cs)
  rcases k with _ | k
  · rw [dropWords_zero, dropWords_zero, htwice]
  · rw [dropWords_succ, dropWords_succ, htwice]

/-- **A word at the start of a text is the first to be dropped**, if white space follows or nothing does. -/
theorem dropWords_append_of_head (hw : IsWord w) (hcs : ∀ c ∈ cs.head?, isBlank c = true) (k : Nat) :
    dropWords (k + 1) (w ++ cs) = dropWords k cs := by
  have hhead : ∀ a ∈ (w ++ cs).head?, isBlank a = false := by
    rcases w with _ | ⟨b, w⟩
    · exact absurd rfl hw.1
    · intro a ha
      cases ha
      exact hw.2 b List.mem_cons_self
  have hword : (w ++ cs).dropWhile (fun a => !isBlank a) = cs := by
    rw [List.dropWhile_append_of_pos fun a ha => by rw [hw.2 a ha]; rfl]
    exact dropWhile_of_head fun c hc => by rw [hcs c hc]; rfl
  rw [dropWords_succ, dropWhile_of_head hhead, hword]

/-- The white space behind it is dropped as well. -/
theorem dropWords_append (hw : IsWord w) (hc : isBlank c = true) (k : Nat) (cs : List Char) :
    dropWords (k + 1) (w ++ c :: cs) = dropWords k cs := by
  rw [dropWords_append_of_head hw (fun d hd => by cases hd; exact hc), dropWords_cons_of_blank hc]

/-! ## Texts, one word after the other -/

/-- Any white space in front of a text makes no difference to its words. -/
theorem words_append_left (h : ∀ c ∈ ds, isBlank c = true) (cs : List Char) : words (ds ++ cs) = words cs := by
  rw [← words_dropWhile, List.dropWhile_append_of_pos h, words_dropWhile]

/-- Nor does it to what is left when words are dropped. -/
theorem dropWords_append_left (h : ∀ c ∈ ds, isBlank c = true) (k : Nat) (cs : List Char) :
    dropWords k (ds ++ cs) = dropWords k cs := by
  rw [← dropWords_dropWhile, List.dropWhile_append_of_pos h, dropWords_dropWhile]

/-- White space has no words. -/
theorem words_of_isBlankText (h : isBlankText cs = true) : words cs = [] := by
  have hleft := words_append_left (List.all_eq_true.mp h) []
  rwa [List.append_nil] at hleft

/-- Nothing is left of white space. -/
theorem dropWords_of_isBlankText (h : isBlankText cs = true) (k : Nat) : dropWords k cs = [] := by
  have hleft := dropWords_append_left (List.all_eq_true.mp h) k []
  rw [List.append_nil] at hleft
  rw [hleft]
  clear hleft
  induction k with
  | zero => rfl
  | succ k ih => exact ih

/-- A text is white space, or it starts with a word, perhaps behind white space, and goes on with white space if it
goes on. -/
theorem isBlankText_or_exists_word (cs : List Char) :
    isBlankText cs = true ∨
      ∃ blanks w rest, cs = blanks ++ (w ++ rest) ∧ (∀ c ∈ blanks, isBlank c = true) ∧ IsWord w ∧
        ∀ c ∈ rest.head?, isBlank c = true := by
  have hcs : cs = cs.takeWhile isBlank ++ cs.dropWhile isBlank := List.takeWhile_append_dropWhile.symm
  have hblank : ∀ c ∈ cs.takeWhile isBlank, isBlank c = true := List.all_eq_true.mp List.all_takeWhile
  rcases hrest : cs.dropWhile isBlank with _ | ⟨a, ds⟩
  · rw [hrest, List.append_nil] at hcs
    rw [isBlankText, hcs]
    exact .inl List.all_takeWhile
  · have ha : isBlank a = false := head_dropWhile isBlank cs a (by rw [hrest]; rfl)
    refine .inr ⟨cs.takeWhile isBlank, (a :: ds).takeWhile fun c => !isBlank c,
      (a :: ds).dropWhile fun c => !isBlank c, ?_, hblank, ⟨?_, fun c hc => ?_⟩, fun c hc => ?_⟩
    · rw [List.takeWhile_append_dropWhile, ← hrest]
      exact hcs
    · rw [List.takeWhile_cons_of_pos (by rw [ha]; rfl)]
      exact List.cons_ne_nil _ _
    · have hword := List.all_eq_true.mp List.all_takeWhile c hc
      rwa [Bool.not_eq_true'] at hword
    · have hbreak := head_dropWhile (fun c => !isBlank c) (a :: ds) c hc
      rwa [Bool.not_eq_false'] at hbreak

/-- **What holds of white space and goes on to hold when a word is put in front holds of every text.** -/
theorem wordwise_induction {motive : List Char → Prop} (blank : ∀ cs, isBlankText cs = true → motive cs)
    (word : ∀ blanks w rest, (∀ c ∈ blanks, isBlank c = true) → IsWord w →
      (∀ c ∈ rest.head?, isBlank c = true) → motive rest → motive (blanks ++ (w ++ rest)))
    (cs : List Char) : motive cs := by
  rcases isBlankText_or_exists_word cs with hblank | ⟨blanks, w, rest, rfl, hblanks, hw, hrest⟩
  · exact blank cs hblank
  · have hshorter : rest.length < (blanks ++ (w ++ rest)).length := by
      have := List.length_pos_iff.mpr hw.1
      rw [List.length_append, List.length_append]
      omega
    exact word blanks w rest hblanks hw hrest (wordwise_induction blank word rest)
termination_by cs.length

/-- White space behind a text makes no difference to its words either. -/
theorem words_append_right (h : ∀ c ∈ ds, isBlank c = true) (cs : List Char) : words (cs ++ ds) = words cs := by
  have hds : words ds = [] := words_of_isBlankText (List.all_eq_true.mpr h)
  induction cs using wordwise_induction with
  | blank cs hcs => rw [words_append_left (List.all_eq_true.mp hcs), hds, words_of_isBlankText hcs]
  | word blanks w rest hblanks hw hrest ih =>
    have hhead : ∀ c ∈ (rest ++ ds).head?, isBlank c = true := by
      intro c hc
      rcases rest with _ | ⟨d, rest⟩
      · exact h c (List.mem_of_mem_head? hc)
      · exact hrest c hc
    rw [List.append_assoc, List.append_assoc, words_append_left hblanks, words_append_of_head hw hhead, ih,
      words_append_left hblanks, words_append_of_head hw hrest]

/-- **To trim a text leaves its words.** -/
theorem words_strip (cs : List Char) : words (strip cs) = words cs := by
  have hparts : cs.dropWhile isBlank =
      strip cs ++ ((cs.dropWhile isBlank).reverse.takeWhile isBlank).reverse := by
    rw [strip, dropRight, ← List.reverse_append, List.takeWhile_append_dropWhile, List.reverse_reverse]
  have hblank : ∀ c ∈ ((cs.dropWhile isBlank).reverse.takeWhile isBlank).reverse, isBlank c = true := by
    intro c hc
    exact List.all_eq_true.mp List.all_takeWhile c (List.mem_reverse.mp hc)
  rw [← words_dropWhile cs, hparts, words_append_right hblank]

/-- **What is left when words are dropped has the words that come after them.** -/
theorem words_dropWords (k : Nat) (cs : List Char) : words (dropWords k cs) = (words cs).drop k := by
  induction cs using wordwise_induction generalizing k with
  | blank cs hcs => rw [dropWords_of_isBlankText hcs, words_of_isBlankText hcs, words_nil, List.drop_nil]
  | word blanks w rest hblanks hw hrest ih =>
    rcases k with _ | k
    · rw [dropWords_zero, words_dropWhile, List.drop_zero]
    · rw [dropWords_append_left hblanks, dropWords_append_of_head hw hrest, ih, words_append_left hblanks,
        words_append_of_head hw hrest, List.drop_succ_cons]

/-- The characters of its words are those of the text. -/
theorem mem_of_mem_words {w : List Char} {c : Char} (hw : w ∈ words cs) (hc : c ∈ w) : c ∈ cs := by
  induction cs using wordwise_induction with
  | blank cs hcs =>
    rw [words_of_isBlankText hcs] at hw
    cases hw
  | word blanks first rest hblanks hfirst hrest ih =>
    rw [words_append_left hblanks, words_append_of_head hfirst hrest] at hw
    rcases List.mem_cons.mp hw with rfl | hw
    · exact List.mem_append_right _ (List.mem_append_left _ hc)
    · exact List.mem_append_right _ (List.mem_append_right _ (ih hw))

/-- A trimmed text is empty if and only if the text has no words. -/
theorem strip_eq_nil_iff (cs : List Char) : strip cs = [] ↔ words cs = [] := by
  constructor
  · intro h
    rw [← words_strip, h, words_nil]
  · intro h
    rcases isBlankText_or_exists_word cs with hblank | ⟨blanks, w, rest, rfl, hblanks, hw, hrest⟩
    · have hnone : (cs ++ []).dropWhile isBlank = [] := List.dropWhile_append_of_pos (List.all_eq_true.mp hblank)
      rw [List.append_nil] at hnone
      rw [strip, hnone]
      rfl
    · rw [words_append_left hblanks, words_append_of_head hw hrest] at h
      cases h

/-! ## Ends of a text -/

/-- What is left when words are dropped is an end of the text. -/
theorem dropWords_suffix (k : Nat) (cs : List Char) : dropWords k cs <:+ cs := by
  induction k generalizing cs with
  | zero => exact List.dropWhile_suffix isBlank
  | succ k ih => exact ((ih _).trans (List.dropWhile_suffix _)).trans (List.dropWhile_suffix isBlank)

/-- To drop from the front of an end of a text leaves an end of what is left of the text. -/
theorem dropWhile_suffix_dropWhile (p : Char → Bool) (h : ds <:+ cs) : ds.dropWhile p <:+ cs.dropWhile p := by
  obtain ⟨before, rfl⟩ := h
  rw [List.dropWhile_append]
  split
  · exact List.suffix_refl _
  · exact (List.dropWhile_suffix p).trans (List.suffix_append _ ds)

/-- So does to drop from the right. -/
theorem dropRight_suffix_dropRight (p : Char → Bool) (h : ds <:+ cs) : dropRight p ds <:+ dropRight p cs := by
  obtain ⟨before, rfl⟩ := h
  rw [dropRight_append]
  split
  · next hnone =>
    rw [hnone]
    exact List.nil_suffix
  · exact List.suffix_append before _

/-- **An end of a text, trimmed, is an end of the trimmed text.** -/
theorem strip_suffix_strip (h : ds <:+ cs) : strip ds <:+ strip cs :=
  dropRight_suffix_dropRight isBlank (dropWhile_suffix_dropWhile isBlank h)

end LifePlan.Text
