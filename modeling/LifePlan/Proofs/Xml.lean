import LifePlan.Xml

/-!
# A document comes from one tree only

What is printed can be told apart again: a text ends at the next mark, since no mark is left in it
(`escape_append_inj`), a comment ends with the first `-->` (`comment_append_inj`), a name with the first character
that is no letter (`name_append_inj`). So the characters of an element are those of no other element, whatever
follows them (`print_append_inj`), provided that its names are names and its comments do not hold their own end
(`IsSound`).

Indentation takes the place of blank texts only. Where no text next to an element is blank without being empty
(`IsDense`), it can be told which ones those were (`indent_inj`), and two elements with one document are the same
element (`document_inj`).
-/

namespace LifePlan.Xml

variable {cs ds r s : List Char} {c d : Char}

/-! ## Texts -/

/-- What can come behind a text: a mark, or nothing. -/
def AtMark (cs : List Char) : Prop := ∀ c ∈ cs.head?, c = '<'

/-- The end of the document. -/
theorem atMark_nil : AtMark [] := fun _ hc => by cases hc

/-- A mark. -/
theorem atMark_cons (cs : List Char) : AtMark ('<' :: cs) := fun _ hc => (Option.some.inj hc).symm

/-- What is written for a character does not start like a mark. -/
theorem exists_escapeChar (c : Char) : ∃ a rest, escapeChar c = a :: rest ∧ a ≠ '<' := by
  unfold escapeChar
  split
  · exact ⟨'&', _, rfl, by decide⟩
  · split
    · exact ⟨'&', _, rfl, by decide⟩
    · split
      · exact ⟨'&', _, rfl, by decide⟩
      · next hmark _ => exact ⟨c, [], rfl, hmark⟩

/-- What is written for a character is not the start of what is written for another one. -/
theorem escapeChar_append_inj (h : escapeChar c ++ r = escapeChar d ++ s) : c = d ∧ r = s := by
  -- a mark differs from every other character, and the three marks differ in the character behind the ampersand
  unfold escapeChar at h
  grind

/-- **A text is told from every other one**, if a mark comes behind it. -/
theorem escape_append_inj (hr : AtMark r) (hs : AtMark s) (h : escape cs ++ r = escape ds ++ s) :
    cs = ds ∧ r = s := by
  induction cs generalizing ds with
  | nil =>
    rcases ds with _ | ⟨d, ds⟩
    · exact ⟨rfl, h⟩
    · obtain ⟨a, rest, hd, ha⟩ := exists_escapeChar d
      rw [escape_cons, hd] at h
      exact absurd (hr a (by rw [← List.nil_append r, ← escape_nil, h]; rfl)) ha
  | cons c cs ih =>
    rcases ds with _ | ⟨d, ds⟩
    · obtain ⟨a, rest, hc, ha⟩ := exists_escapeChar c
      rw [escape_cons, hc] at h
      exact absurd (hs a (by rw [← List.nil_append s, ← escape_nil, ← h]; rfl)) ha
    · rw [escape_cons, escape_cons, List.append_assoc, List.append_assoc] at h
      obtain ⟨rfl, hbehind⟩ := escapeChar_append_inj h
      obtain ⟨rfl, hrs⟩ := ih hbehind
      exact ⟨rfl, hrs⟩

/-! ## Comments and names -/

/-- The end of a comment. -/
def commentEnd : List Char := ['-', '-', '>']

/-- What stands between the end of one comment and the end of a longer one holds an end itself. -/
theorem eq_nil_of_commentEnd {ms : List Char} (hm : ¬ commentEnd <:+: ms)
    (h : commentEnd ++ r = ms ++ (commentEnd ++ s)) : ms = [] := by
  rcases ms with _ | ⟨a, _ | ⟨b, _ | ⟨c, ms⟩⟩⟩
  · rfl
  all_goals
    simp only [commentEnd, List.cons_append, List.nil_append, List.cons.injEq] at h
    obtain ⟨rfl, hsecond, hthird, -⟩ := h
  · exact absurd hthird (by decide)
  · exact absurd hthird (by decide)
  · obtain rfl := hsecond
    obtain rfl := hthird
    exact absurd (List.prefix_append commentEnd ms).isInfix hm

/-- **A comment ends with the first `-->`.** -/
theorem comment_append_inj (hcs : ¬ commentEnd <:+: cs) (hds : ¬ commentEnd <:+: ds)
    (h : cs ++ (commentEnd ++ r) = ds ++ (commentEnd ++ s)) : cs = ds ∧ r = s := by
  rcases List.append_eq_append_iff.mp h with ⟨ms, rfl, hms⟩ | ⟨ms, rfl, hms⟩
  · obtain rfl := eq_nil_of_commentEnd (fun hm => hds (hm.trans (List.suffix_append cs ms).isInfix)) hms
    exact ⟨(List.append_nil cs).symm, List.append_cancel_left hms⟩
  · obtain rfl := eq_nil_of_commentEnd (fun hm => hcs (hm.trans (List.suffix_append ds ms).isInfix)) hms
    exact ⟨List.append_nil ds, (List.append_cancel_left hms).symm⟩

/-- The name of an element: there is nothing but letters in it. -/
def IsName (name : String) : Prop := ∀ c ∈ name.toList, c.isAlpha = true

instance (name : String) : Decidable (IsName name) := decidable_of_iff _ List.all_eq_true

/-- **A name ends with the first character that is no letter.** -/
theorem name_append_inj {name name' : String} (hname : IsName name) (hname' : IsName name')
    (hc : c.isAlpha = false) (hd : d.isAlpha = false)
    (h : name.toList ++ c :: r = name'.toList ++ d :: s) : name = name' ∧ c = d ∧ r = s := by
  have hend {name : String} (hname : IsName name) {c : Char} (hc : c.isAlpha = false) (r : List Char) :
      (name.toList ++ c :: r).takeWhile Char.isAlpha = name.toList := by
    rw [List.takeWhile_append_of_pos hname, List.takeWhile_cons_of_neg (by simp [hc]), List.append_nil]
  have hlist : name.toList = name'.toList := by rw [← hend hname hc r, h, hend hname' hd s]
  rw [hlist] at h
  exact ⟨String.toList_inj.mp hlist, List.cons.inj (List.append_cancel_left h)⟩

/-! ## Elements -/

mutual

/-- Whether its parts can be told apart: its names are names, and no comment holds the end of one. -/
def IsSound : Xml → Prop
  | .comment text _ => ¬ commentEnd <:+: text
  | .element name _ children _ => IsName name ∧ AllSound children

/-- Whether this holds of all of them. -/
def AllSound : List Xml → Prop
  | [] => True
  | x :: xs => x.IsSound ∧ AllSound xs

end

section print

variable {name : String} {text behind : List Char} {children : List Xml}

/-- The characters of a comment, one part after the other. -/
theorem print_comment : (comment text behind).print =
    '<' :: '!' :: '-' :: '-' :: (text ++ (commentEnd ++ escape behind)) := by
  simp [print, commentEnd]

/-- The characters of an element with nothing in it. -/
theorem print_empty : (element name [] [] behind).print =
    '<' :: (name.toList ++ ' ' :: '/' :: '>' :: escape behind) := by
  simp [print]

/-- The characters of an element with something in it. -/
theorem print_filled (h : ¬ (text = [] ∧ children = [])) : (element name text children behind).print =
    '<' :: (name.toList ++ '>' ::
      (escape text ++ (printAll children ++ '<' :: '/' :: (name.toList ++ '>' :: escape behind)))) := by
  rw [print, if_neg (by simpa using h)]
  simp

/-- An element starts with neither the mark of a comment nor that of an end. -/
theorem exists_print_element (hname : IsName name) :
    ∃ c rest, (element name text children behind).print = '<' :: c :: rest ∧ c ≠ '!' ∧ c ≠ '/' := by
  have hstart {c : Char} (hne : c ≠ '!' ∧ c ≠ '/') (rest : List Char) :
      ∃ d rest', '<' :: (name.toList ++ c :: rest) = '<' :: d :: rest' ∧ d ≠ '!' ∧ d ≠ '/' := by
    rcases hletters : name.toList with _ | ⟨d, ds⟩
    · exact ⟨c, rest, rfl, hne⟩
    · have hd : d.isAlpha = true := hname d (by rw [hletters]; exact List.mem_cons_self)
      refine ⟨d, _, rfl, ?_, ?_⟩ <;> rintro rfl <;> exact absurd hd (by decide)
  by_cases h : text = [] ∧ children = []
  · rw [h.1, h.2, print_empty]
    exact hstart (by decide) _
  · rw [print_filled h]
    exact hstart (by decide) _

end print

/-- Whatever is printed starts with a mark that is not that of an end. -/
theorem exists_print {x : Xml} (hx : x.IsSound) : ∃ c rest, x.print = '<' :: c :: rest ∧ c ≠ '/' := by
  rcases x with ⟨text, behind⟩ | ⟨name, text, children, behind⟩
  · exact ⟨'!', _, print_comment, by decide⟩
  · obtain ⟨c, rest, hprint, -, hc⟩ := exists_print_element hx.1
    exact ⟨c, rest, hprint, hc⟩

/-- Behind a text come the children, if there are any. -/
theorem atMark_printAll {xs : List Xml} (hxs : AllSound xs) (hr : AtMark r) : AtMark (printAll xs ++ r) := by
  rcases xs with _ | ⟨x, xs⟩
  · exact hr
  · obtain ⟨c, rest, hprint, -⟩ := exists_print hxs.1
    rw [printAll, hprint]
    exact atMark_cons _

mutual

/-- **An element is told from every other one**, if a mark comes behind it. -/
theorem print_append_inj {r s : List Char} (hr : AtMark r) (hs : AtMark s) :
    ∀ {x y : Xml}, x.IsSound → y.IsSound → x.print ++ r = y.print ++ s → x = y ∧ r = s
  | .comment text behind, .comment text' behind', hx, hy, h => by
    rw [print_comment, print_comment] at h
    simp only [List.cons_append, List.append_assoc, List.cons.injEq, true_and] at h
    obtain ⟨rfl, hbehind⟩ := comment_append_inj hx hy h
    obtain ⟨rfl, hrs⟩ := escape_append_inj hr hs hbehind
    exact ⟨rfl, hrs⟩
  | .comment text behind, .element name text' children' behind', hx, hy, h => by
    obtain ⟨c, rest, hprint, hc, -⟩ := exists_print_element hy.1
    rw [print_comment, hprint] at h
    exact absurd (List.cons.inj (List.cons.inj h).2).1.symm hc
  | .element name text children behind, .comment text' behind', hx, hy, h => by
    obtain ⟨c, rest, hprint, hc, -⟩ := exists_print_element hx.1
    rw [print_comment, hprint] at h
    exact absurd (List.cons.inj (List.cons.inj h).2).1 hc
  | .element name text children behind, .element name' text' children' behind', hx, hy, h => by
    obtain ⟨hname, hchildren⟩ := hx
    obtain ⟨hname', hchildren'⟩ := hy
    -- what comes behind the name tells whether there is something in the element
    by_cases hnone : text = [] ∧ children = [] <;> by_cases hnone' : text' = [] ∧ children' = []
    · obtain ⟨rfl, rfl⟩ := hnone
      obtain ⟨rfl, rfl⟩ := hnone'
      rw [print_empty, print_empty] at h
      simp only [List.cons_append, List.append_assoc, List.cons.injEq, true_and] at h
      obtain ⟨rfl, -, hend⟩ := name_append_inj hname hname' (by decide) (by decide) h
      simp only [List.cons.injEq, true_and] at hend
      obtain ⟨rfl, hrs⟩ := escape_append_inj hr hs hend
      exact ⟨rfl, hrs⟩
    · obtain ⟨rfl, rfl⟩ := hnone
      rw [print_empty, print_filled hnone'] at h
      simp only [List.cons_append, List.append_assoc, List.cons.injEq, true_and] at h
      obtain ⟨-, hmark, -⟩ := name_append_inj hname hname' (by decide) (by decide) h
      exact absurd hmark (by decide)
    · obtain ⟨rfl, rfl⟩ := hnone'
      rw [print_filled hnone, print_empty] at h
      simp only [List.cons_append, List.append_assoc, List.cons.injEq, true_and] at h
      obtain ⟨-, hmark, -⟩ := name_append_inj hname hname' (by decide) (by decide) h
      exact absurd hmark (by decide)
    · rw [print_filled hnone, print_filled hnone'] at h
      simp only [List.cons_append, List.append_assoc, List.cons.injEq, true_and] at h
      obtain ⟨rfl, -, htext⟩ := name_append_inj hname hname' (by decide) (by decide) h
      obtain ⟨rfl, hinner⟩ := escape_append_inj (atMark_printAll hchildren (atMark_cons _))
        (atMark_printAll hchildren' (atMark_cons _)) htext
      obtain ⟨rfl, hend⟩ := printAll_append_inj hchildren hchildren' hinner
      have hend := (List.cons.inj (List.append_cancel_left hend)).2
      obtain ⟨rfl, hrs⟩ := escape_append_inj hr hs hend
      exact ⟨rfl, hrs⟩

/-- **The children of an element are told from all others**, if its end comes behind them. -/
theorem printAll_append_inj {r s : List Char} :
    ∀ {xs ys : List Xml}, AllSound xs → AllSound ys →
      printAll xs ++ '<' :: '/' :: r = printAll ys ++ '<' :: '/' :: s → xs = ys ∧ r = s
  | [], [], _, _, h => ⟨rfl, by simpa [printAll] using h⟩
  | [], y :: ys, _, hys, h => by
    obtain ⟨c, rest, hprint, hc⟩ := exists_print hys.1
    rw [printAll, printAll, hprint] at h
    exact absurd (List.cons.inj (List.cons.inj h).2).1.symm hc
  | x :: xs, [], hxs, _, h => by
    obtain ⟨c, rest, hprint, hc⟩ := exists_print hxs.1
    rw [printAll, printAll, hprint] at h
    exact absurd (List.cons.inj (List.cons.inj h).2).1 hc
  | x :: xs, y :: ys, hxs, hys, h => by
    rw [printAll, printAll, List.append_assoc, List.append_assoc] at h
    obtain ⟨rfl, hrest⟩ := print_append_inj (atMark_printAll hxs.2 (atMark_cons _))
      (atMark_printAll hys.2 (atMark_cons _)) hxs.1 hys.1 h
    obtain ⟨rfl, hrs⟩ := printAll_append_inj hxs.2 hys.2 hrest
    exact ⟨rfl, hrs⟩

end

/-! ## Indentation -/

/-- Whether a text is not lost among line breaks: it is empty or not blank. -/
def IsFull (text : List Char) : Prop := Text.isBlankText text = true → text = []

/-- The text behind an element or a comment. -/
def behind : Xml → List Char
  | .comment _ behind => behind
  | .element _ _ _ behind => behind

mutual

/-- Whether no text next to an element is lost among line breaks. -/
def IsDense : Xml → Prop
  | .comment _ _ => True
  | .element _ text children _ => (children ≠ [] → IsFull text) ∧ AllDense children

/-- Whether this holds of all children, and of what is behind them. -/
def AllDense : List Xml → Prop
  | [] => True
  | x :: xs => IsFull x.behind ∧ x.IsDense ∧ AllDense xs

end

/-- Whether an element or a comment can be told again, with what is behind it, among its siblings. -/
structure IsClear (x : Xml) : Prop where
  sound : x.IsSound
  dense : x.IsDense
  full : IsFull x.behind

/-- Clear children are sound. -/
theorem allSound_of_isClear {xs : List Xml} (h : ∀ x ∈ xs, x.IsClear) : AllSound xs := by
  induction xs with
  | nil => trivial
  | cons x xs ih => exact ⟨(h x List.mem_cons_self).sound, ih fun y hy => h y (List.mem_cons_of_mem x hy)⟩

/-- Clear children are dense. -/
theorem allDense_of_isClear {xs : List Xml} (h : ∀ x ∈ xs, x.IsClear) : AllDense xs := by
  induction xs with
  | nil => trivial
  | cons x xs ih =>
    have hx := h x List.mem_cons_self
    exact ⟨hx.full, hx.dense, ih fun y hy => h y (List.mem_cons_of_mem x hy)⟩

/-- The empty text is no line break. -/
theorem isFull_nil : IsFull [] := fun _ => rfl

/-- An element with clear children is clear, if no text is lost in front of them or behind it. -/
theorem isClear_element {name : String} {text behind : List Char} {children : List Xml} (hname : IsName name)
    (htext : children ≠ [] → IsFull text) (hchildren : ∀ x ∈ children, x.IsClear) (hbehind : IsFull behind) :
    (element name text children behind).IsClear :=
  ⟨⟨hname, allSound_of_isClear hchildren⟩, ⟨htext, allDense_of_isClear hchildren⟩, hbehind⟩

/-- A line break is blank. -/
theorem isBlankText_lineBreak (depth : Nat) : Text.isBlankText (lineBreak depth) = true := by
  have hspace : Text.isBlank ' ' = true := by decide
  have hbreak : Text.isBlank '\n' = true := by decide
  simp [Text.isBlankText, lineBreak, hspace, hbreak]

/-- Where no text is lost, a line break stands for the empty one only. -/
theorem orBreak_inj {depth : Nat} (hcs : IsFull cs) (hds : IsFull ds)
    (h : orBreak depth cs = orBreak depth ds) : cs = ds := by
  have hbreak := isBlankText_lineBreak depth
  unfold orBreak at h
  by_cases hblank : Text.isBlankText cs = true <;> by_cases hblank' : Text.isBlankText ds = true
  · rw [hcs hblank, hds hblank']
  · rw [if_pos hblank, if_neg hblank'] at h
    exact absurd (h ▸ hbreak) hblank'
  · rw [if_neg hblank, if_pos hblank'] at h
    exact absurd (h ▸ hbreak) hblank
  · rwa [if_neg hblank, if_neg hblank'] at h

/-- To put a line break behind it changes nothing else. -/
theorem breakBehind_inj {depth : Nat} {x y : Xml} (hx : IsFull x.behind) (hy : IsFull y.behind)
    (h : x.breakBehind depth = y.breakBehind depth) : x = y := by
  rcases x with ⟨text, behind⟩ | ⟨name, text, children, behind⟩ <;>
    rcases y with ⟨text', behind'⟩ | ⟨name', text', children', behind'⟩
  · obtain ⟨rfl, hbreak⟩ := comment.inj h
    obtain rfl : behind = behind' := orBreak_inj hx hy hbreak
    rfl
  · cases h
  · cases h
  · obtain ⟨rfl, rfl, rfl, hbreak⟩ := element.inj h
    obtain rfl : behind = behind' := orBreak_inj hx hy hbreak
    rfl

/-- An indented element: only where there are children, there is a line in front of them. -/
theorem indent_element (depth : Nat) (name : String) (text : List Char) (children : List Xml)
    (behind : List Char) :
    (element name text children behind).indent depth =
      .element name (if children = [] then text else orBreak (depth + 1) text) (indentAll depth children)
        behind := by
  rcases children with _ | ⟨x, xs⟩
  · rw [indent, if_pos rfl, indentAll]
  · rw [indent, if_neg (List.cons_ne_nil x xs)]

/-- What is inside of an element has nothing to do with what is behind it. -/
theorem behind_indent (depth : Nat) (x : Xml) : (x.indent depth).behind = x.behind := by
  cases x with
  | comment => rw [indent]
  | element => rw [indent_element, behind, behind]

mutual

/-- **An element can be told from its indented form.** -/
theorem indent_inj {depth : Nat} :
    ∀ {x y : Xml}, x.IsDense → y.IsDense → x.indent depth = y.indent depth → x = y
  | .comment text behind, .comment text' behind', _, _, h => by rwa [indent, indent] at h
  | .comment text behind, .element name text' children behind', _, _, h => by
    rw [indent, indent_element] at h
    cases h
  | .element name text children behind, .comment text' behind', _, _, h => by
    rw [indent, indent_element] at h
    cases h
  | .element name text children behind, .element name' text' children' behind', hx, hy, h => by
    rw [indent_element, indent_element] at h
    obtain ⟨rfl, htext, hchildren, rfl⟩ := element.inj h
    obtain rfl := indentAll_inj hx.2 hy.2 hchildren
    by_cases hnone : children = []
    · rw [if_pos hnone, if_pos hnone] at htext
      rw [htext]
    · rw [if_neg hnone, if_neg hnone] at htext
      rw [orBreak_inj (hx.1 hnone) (hy.1 hnone) htext]

/-- **So can its children.** -/
theorem indentAll_inj {depth : Nat} :
    ∀ {xs ys : List Xml}, AllDense xs → AllDense ys → indentAll depth xs = indentAll depth ys → xs = ys
  | [], [], _, _, _ => rfl
  | [], y :: ys, _, _, h => by rw [indentAll, indentAll] at h; cases h
  | x :: xs, [], _, _, h => by rw [indentAll, indentAll] at h; cases h
  | x :: xs, y :: ys, hxs, hys, h => by
    obtain ⟨hbehind, hx, hxs⟩ := hxs
    obtain ⟨hbehind', hy, hys⟩ := hys
    rw [indentAll, indentAll] at h
    obtain ⟨hhead, htail⟩ := List.cons.inj h
    obtain rfl := indentAll_inj hxs hys htail
    rw [← behind_indent (depth + 1)] at hbehind hbehind'
    rw [indent_inj hx hy (breakBehind_inj hbehind hbehind' hhead)]

end

/-- A line break behind it leaves names and comments alone. -/
theorem isSound_breakBehind {x : Xml} (depth : Nat) (h : x.IsSound) : (x.breakBehind depth).IsSound := by
  cases x <;> exact h

mutual

/-- Indentation leaves names and comments alone. -/
theorem isSound_indent {depth : Nat} : ∀ {x : Xml}, x.IsSound → (x.indent depth).IsSound
  | .comment text behind, h => by rwa [indent]
  | .element name text children behind, h => by
    rw [indent_element]
    exact ⟨h.1, allSound_indentAll h.2⟩

/-- It does so with all children. -/
theorem allSound_indentAll {depth : Nat} : ∀ {xs : List Xml}, AllSound xs → AllSound (indentAll depth xs)
  | [], _ => by rw [indentAll]; trivial
  | x :: xs, h => by
    rw [indentAll]
    exact ⟨isSound_breakBehind _ (isSound_indent h.1), allSound_indentAll h.2⟩

end

/-! ## Documents -/

/-- **An element can be told from its document**, if no text is lost in it. -/
theorem document_inj {x y : Xml} (hx : x.IsClear) (hy : y.IsClear) (h : x.document = y.document) : x = y := by
  have hprint : (x.indent 0).print ++ [] = (y.indent 0).print ++ [] := by
    rw [List.append_nil, List.append_nil]
    exact List.append_cancel_left h
  obtain ⟨hindent, -⟩ :=
    print_append_inj atMark_nil atMark_nil (isSound_indent hx.sound) (isSound_indent hy.sound) hprint
  exact indent_inj hx.dense hy.dense hindent

end LifePlan.Xml
