import LifePlan.Proofs.Text.Blank
import LifePlan.Text.Quoted

/-!
# Texts between quotes

What is dropped at either end of a text is white space, then quotes, then white space (`IsWrapping`), and the two
ends do not depend on each other (`unquote_eq`). A text that neither starts nor ends with white space or a quote
(`IsFirm`) is what is left of it in such a wrapping, whatever else it holds (`unquote_wrapped`), and these are the
texts that quotes are not taken from (`isFirm_iff_unquote`). What is left of any text has no white space at its
ends (`isTidy_unquote`), but it may have quotes there: those are dropped only once. `unquote_drops` says all that
can be dropped.
-/

namespace LifePlan.Text

variable {cs left right : List Char}

/-- A text with something in it whose first and whose last character are neither white space nor quotes. -/
structure IsFirm (cs : List Char) : Prop where
  ne_nil : cs ≠ []
  head : ∀ c ∈ cs.head?, isBlank c = false ∧ isQuote c = false
  last : ∀ c ∈ cs.getLast?, isBlank c = false ∧ isQuote c = false

/-- The two characters can be looked at. -/
theorem isFirm_iff : IsFirm cs ↔ cs ≠ [] ∧ cs.head?.all (fun c => !isBlank c && !isQuote c) = true ∧
    cs.getLast?.all (fun c => !isBlank c && !isQuote c) = true := by
  simp only [Option.all_eq_true, Bool.and_eq_true, Bool.not_eq_true']
  constructor
  · rintro ⟨hne, hhead, hlast⟩
    exact ⟨hne, hhead, hlast⟩
  · rintro ⟨hne, hhead, hlast⟩
    exact ⟨hne, hhead, hlast⟩

instance (cs : List Char) : Decidable (IsFirm cs) := decidable_of_iff' _ isFirm_iff

/-- A firm text is not empty. -/
theorem IsFirm.ne_empty {text : String} (h : IsFirm text.toList) : text ≠ "" := by
  rintro rfl
  exact h.ne_nil rfl

/-- A quote is no white space. -/
theorem isBlank_of_isQuote {c : Char} (h : isQuote c = true) : isBlank c = false := by
  rw [isQuote, Bool.or_eq_true, beq_iff_eq, beq_iff_eq] at h
  rcases h with rfl | rfl
  · rfl
  · rfl

/-- White space is no quote. -/
theorem isQuote_of_isBlank {c : Char} (h : isBlank c = true) : isQuote c = false := by
  rw [← Bool.not_eq_true]
  intro hquote
  rw [isBlank_of_isQuote hquote] at h
  cases h

/-! ## White space and quotes at an end -/

/-- White space, then quotes, then white space; any of the three may be empty. -/
inductive IsWrapping : List Char → Prop
  | parts {outer quotes inner : List Char} (houter : isBlankText outer = true)
      (hquotes : quotes.all isQuote = true) (hinner : isBlankText inner = true) :
      IsWrapping (outer ++ quotes ++ inner)

namespace IsWrapping

/-- Backwards it is one as well. -/
theorem reverse (h : IsWrapping cs) : IsWrapping cs.reverse := by
  obtain ⟨houter, hquotes, hinner⟩ := h
  rw [List.reverse_append, List.reverse_append, ← List.append_assoc]
  refine ⟨?_, ?_, ?_⟩
  · rwa [isBlankText, List.all_reverse]
  · rwa [List.all_reverse]
  · rwa [isBlankText, List.all_reverse]

/-- It consists of white space and quotes. -/
theorem mem (h : IsWrapping cs) {c : Char} (hc : c ∈ cs) : isBlank c = true ∨ isQuote c = true := by
  obtain ⟨houter, hquotes, hinner⟩ := h
  simp only [List.mem_append] at hc
  rcases hc with (hc | hc) | hc
  · exact .inl (List.all_eq_true.mp houter c hc)
  · exact .inr (List.all_eq_true.mp hquotes c hc)
  · exact .inl (List.all_eq_true.mp hinner c hc)

/-- Quotes by themselves are one. -/
theorem of_quotes (h : ∀ c ∈ cs, isQuote c = true) : IsWrapping cs := by
  have hparts : IsWrapping ([] ++ cs ++ []) := ⟨rfl, List.all_eq_true.mpr h, rfl⟩
  rwa [List.append_nil] at hparts

end IsWrapping

/-- The text without what is wrapped around its start. -/
def dropWrapping (cs : List Char) : List Char := ((cs.dropWhile isBlank).dropWhile isQuote).dropWhile isBlank

/-- What is dropped is a wrapping. -/
theorem exists_wrapping (cs : List Char) : ∃ left, IsWrapping left ∧ cs = left ++ dropWrapping cs := by
  have hwrapping := @IsWrapping.parts (cs.takeWhile isBlank) ((cs.dropWhile isBlank).takeWhile isQuote)
    (((cs.dropWhile isBlank).dropWhile isQuote).takeWhile isBlank) List.all_takeWhile List.all_takeWhile
    List.all_takeWhile
  refine ⟨_, hwrapping, ?_⟩
  rw [dropWrapping, List.append_assoc, List.takeWhile_append_dropWhile, List.append_assoc,
    List.takeWhile_append_dropWhile, List.takeWhile_append_dropWhile]

/-- In front of a character that is neither white space nor a quote, a wrapping is dropped whole. -/
theorem dropWrapping_append (h : IsWrapping left)
    (hhead : ∀ c ∈ cs.head?, isBlank c = false ∧ isQuote c = false) : dropWrapping (left ++ cs) = cs := by
  have hblank : cs.dropWhile isBlank = cs := dropWhile_of_head fun c hc => (hhead c hc).1
  have hquote : cs.dropWhile isQuote = cs := dropWhile_of_head fun c hc => (hhead c hc).2
  obtain @⟨outer, quotes, inner, houter, hquotes, hinner⟩ := h
  have hinside : (inner ++ cs).dropWhile isBlank = cs := by
    rw [List.dropWhile_append_of_pos (List.all_eq_true.mp hinner), hblank]
  rw [dropWrapping, List.append_assoc, List.append_assoc,
    List.dropWhile_append_of_pos (List.all_eq_true.mp houter)]
  -- without quotes, the first pass goes on through all the white space
  rcases quotes with _ | ⟨q, quotes⟩
  · rw [List.nil_append, hinside, hquote, hblank]
  · have hfirst : isQuote q = true := List.all_eq_true.mp hquotes q List.mem_cons_self
    have hstop : (q :: quotes ++ (inner ++ cs)).dropWhile isBlank = q :: quotes ++ (inner ++ cs) :=
      dropWhile_of_head fun c hc => by
        cases hc
        exact isBlank_of_isQuote hfirst
    have hrest : (inner ++ cs).dropWhile isQuote = inner ++ cs := by
      rcases inner with _ | ⟨c, inner⟩
      · exact hquote
      · refine dropWhile_of_head fun d hd => ?_
        cases hd
        exact isQuote_of_isBlank (List.all_eq_true.mp hinner c List.mem_cons_self)
    rw [hstop, List.dropWhile_append_of_pos (List.all_eq_true.mp hquotes), hrest, hinside]

/-- **The passes over the two ends of a text are independent**: a text is unwrapped at its start, and then in the
same way at its end. -/
theorem unquote_eq (cs : List Char) : unquote cs = (dropWrapping (dropWrapping cs).reverse).reverse := by
  have hend (ds : List Char) : (dropWrapping ds.reverse).reverse =
      dropRight isBlank (dropRight isQuote (dropRight isBlank ds)) := by
    simp only [dropWrapping, dropRight, List.reverse_reverse]
  rw [hend, dropWrapping, unquote, strip, strip]
  simp only [dropRight_dropWhile]

/-- **What is dropped is wrapped around what is left**, also when nothing is left. -/
theorem exists_unwrapped (cs : List Char) :
    ∃ left right, IsWrapping left ∧ IsWrapping right ∧ cs = left ++ unquote cs ++ right := by
  obtain ⟨left, hleft, hfront⟩ := exists_wrapping cs
  obtain ⟨behind, hbehind, hback⟩ := exists_wrapping (dropWrapping cs).reverse
  refine ⟨left, behind.reverse, hleft, hbehind.reverse, ?_⟩
  calc cs = left ++ dropWrapping cs := hfront
    _ = left ++ (unquote cs ++ behind.reverse) := by
      rw [unquote_eq, ← List.reverse_append, ← hback, List.reverse_reverse]
    _ = left ++ unquote cs ++ behind.reverse := (List.append_assoc _ _ _).symm

/-- **What is wrapped around a firm text is what is dropped.** -/
theorem unquote_wrapped (hleft : IsWrapping left) (h : IsFirm cs) (hright : IsWrapping right) :
    unquote (left ++ cs ++ right) = cs := by
  have hfront : dropWrapping (left ++ (cs ++ right)) = cs ++ right := by
    refine dropWrapping_append hleft fun c hc => ?_
    rcases cs with _ | ⟨a, cs⟩
    · exact absurd rfl h.ne_nil
    · exact h.head c hc
  have hback : dropWrapping (right.reverse ++ cs.reverse) = cs.reverse := by
    refine dropWrapping_append hright.reverse fun c hc => ?_
    rw [List.head?_reverse] at hc
    exact h.last c hc
  rw [unquote_eq, List.append_assoc, hfront, List.reverse_append, hback, List.reverse_reverse]

/-- **Quotes around a firm text are what is dropped.** They need not be the same on both sides. -/
theorem unquote_append (hleft : ∀ c ∈ left, isQuote c = true) (h : IsFirm cs)
    (hright : ∀ c ∈ right, isQuote c = true) : unquote (left ++ cs ++ right) = cs :=
  unquote_wrapped (.of_quotes hleft) h (.of_quotes hright)

/-! ## What is left of a text -/

/-- A text with something in it whose first and whose last character are no white space. -/
structure IsTidy (cs : List Char) : Prop where
  ne_nil : cs ≠ []
  head : ∀ c ∈ cs.head?, isBlank c = false
  last : ∀ c ∈ cs.getLast?, isBlank c = false

/-- A text is tidy if its two ends are no white space. -/
theorem isTidy_iff : IsTidy cs ↔ cs ≠ [] ∧ cs.head?.all (fun c => !isBlank c) = true ∧
    cs.getLast?.all (fun c => !isBlank c) = true := by
  simp only [Option.all_eq_true, Bool.not_eq_true']
  exact ⟨fun h => ⟨h.ne_nil, h.head, h.last⟩, fun h => ⟨h.1, h.2.1, h.2.2⟩⟩

instance (cs : List Char) : Decidable (IsTidy cs) := decidable_of_iff' _ isTidy_iff

/-- A tidy text is firm if it has no quotes at its ends. -/
theorem IsTidy.isFirm_iff (h : IsTidy cs) :
    IsFirm cs ↔ (∀ c ∈ cs.head?, isQuote c = false) ∧ ∀ c ∈ cs.getLast?, isQuote c = false := by
  constructor
  · exact fun hfirm => ⟨fun c hc => (hfirm.head c hc).2, fun c hc => (hfirm.last c hc).2⟩
  · rintro ⟨hhead, hlast⟩
    exact ⟨h.ne_nil, fun c hc => ⟨h.head c hc, hhead c hc⟩, fun c hc => ⟨h.last c hc, hlast c hc⟩⟩

/-- What is left of a text does not start with white space. -/
theorem head_unquote (cs : List Char) : ∀ c ∈ (unquote cs).head?, isBlank c = false := by
  intro c hc
  exact head_dropWhile isBlank _ c (head_dropRight isBlank _ c hc)

/-- Neither does it end with white space. -/
theorem getLast_unquote (cs : List Char) : ∀ c ∈ (unquote cs).getLast?, isBlank c = false :=
  getLast_dropRight isBlank _

/-- **What is left of a text is tidy**, if anything is. -/
theorem isTidy_unquote (h : unquote cs ≠ []) : IsTidy (unquote cs) :=
  ⟨h, head_unquote cs, getLast_unquote cs⟩

/-- What is left of a text is tidy as a description, if it is one. -/
theorem isTidy_ofList_unquote (h : String.ofList (unquote cs) ≠ "") :
    IsTidy (String.ofList (unquote cs)).toList := by
  rw [String.toList_ofList]
  exact isTidy_unquote fun hnil => h (by rw [hnil])

/-- To drop from the right leaves a part. -/
theorem dropRight_sublist (p : Char → Bool) (cs : List Char) : (dropRight p cs).Sublist cs := by
  have h := (List.dropWhile_sublist (l := cs.reverse) p).reverse
  rwa [List.reverse_reverse] at h

/-- To trim leaves a part. -/
theorem strip_sublist (cs : List Char) : (strip cs).Sublist cs :=
  (dropRight_sublist isBlank _).trans (List.dropWhile_sublist isBlank)

/-- **A text is firm if and only if it is what is left of it**, and there is something in it. -/
theorem isFirm_iff_unquote : IsFirm cs ↔ cs ≠ [] ∧ unquote cs = cs := by
  constructor
  · intro h
    have hnone : ∀ c ∈ ([] : List Char), isQuote c = true := fun _ hc => absurd hc List.not_mem_nil
    have hleft := unquote_append hnone h hnone
    rw [List.nil_append, List.append_nil] at hleft
    exact ⟨h.ne_nil, hleft⟩
  · rintro ⟨hne, hleft⟩
    -- each step leaves a part of the text before it, so that nothing is dropped by any of them
    have hstrip := strip_sublist cs
    have hfront := List.dropWhile_sublist (l := strip cs) isQuote
    have hback := dropRight_sublist isQuote ((strip cs).dropWhile isQuote)
    have hwhole : cs.Sublist (dropRight isQuote ((strip cs).dropWhile isQuote)) := by
      have h := strip_sublist (dropRight isQuote ((strip cs).dropWhile isQuote))
      rwa [← unquote, hleft] at h
    have hback' : dropRight isQuote ((strip cs).dropWhile isQuote) = cs :=
      ((hback.trans hfront).trans hstrip).eq_of_length_le hwhole.length_le
    have hfront' : (strip cs).dropWhile isQuote = cs :=
      (hfront.trans hstrip).eq_of_length_le (hwhole.trans hback).length_le
    have htidy := isTidy_unquote (by rwa [hleft])
    rw [hleft] at htidy
    refine ⟨hne, fun c hc => ⟨htidy.head c hc, ?_⟩, fun c hc => ⟨htidy.last c hc, ?_⟩⟩
    · rw [← hfront'] at hc
      exact head_dropWhile isQuote _ c hc
    · rw [← hback'] at hc
      exact getLast_dropRight isQuote _ c hc

/-- Quotes at both ends are dropped only once. -/
example : unquote (unquote "\" 'x' \"".toList) ≠ unquote "\" 'x' \"".toList := by decide

/-! ## All that is dropped -/

/-- **All that is dropped from a text is white space and quotes at its ends.** On either side it is white space,
then quotes, then white space, what is left has no white space at its ends, and whatever is wrapped in this way
around a firm text is dropped, so that the firm text is what is left. -/
theorem unquote_drops :
    (∀ cs, ∃ left right, cs = left ++ unquote cs ++ right ∧
      (∀ c ∈ left ++ right, isBlank c = true ∨ isQuote c = true) ∧ IsWrapping left ∧ IsWrapping right) ∧
    (∀ cs, (∀ c ∈ (unquote cs).head?, isBlank c = false) ∧ ∀ c ∈ (unquote cs).getLast?, isBlank c = false) ∧
    ∀ left cs right, IsWrapping left → IsFirm cs → IsWrapping right → unquote (left ++ cs ++ right) = cs := by
  refine ⟨fun cs => ?_, fun cs => ⟨head_unquote cs, getLast_unquote cs⟩, ?_⟩
  · obtain ⟨left, right, hleft, hright, hcs⟩ := exists_unwrapped cs
    refine ⟨left, right, hcs, fun c hc => ?_, hleft, hright⟩
    rcases List.mem_append.mp hc with hc | hc
    · exact hleft.mem hc
    · exact hright.mem hc
  · intro left cs right hleft hcs hright
    exact unquote_wrapped hleft hcs hright

/-- Quotes that do not balance, around a text with quotes in it. -/
theorem unquote_drops_unbalanced :
    IsWrapping " '\" ".toList ∧ IsFirm "it's \"so\" far".toList ∧ IsWrapping "\t''\u00a0".toList ∧
      unquote (" '\" ".toList ++ "it's \"so\" far".toList ++ "\t''\u00a0".toList) = "it's \"so\" far".toList := by
  have hleft : IsWrapping " '\" ".toList := @IsWrapping.parts [' '] ['\'', '"'] [' '] rfl rfl rfl
  have hright : IsWrapping "\t''\u00a0".toList := @IsWrapping.parts ['\t'] ['\'', '\''] ['\u00a0'] rfl rfl rfl
  have hfirm : IsFirm "it's \"so\" far".toList := by decide
  exact ⟨hleft, hfirm, hright, unquote_drops.2.2 _ _ _ hleft hfirm hright⟩

end LifePlan.Text
