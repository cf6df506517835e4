import LifePlan.Display
import LifePlan.Proofs.Escaped
import LifePlan.Proofs.Interpreter.Numerals
import LifePlan.Proofs.Plan.Edit
import LifePlan.Proofs.Screen

/-!
# What a listing prints

A listing prints its three header lines and then one line for each of its records (`print_listing`). On such a
line the label and the numbers of the record come first, as they would be typed, and its description comes last,
as it is shown of an escaped text (`shown_entryMarkup`). Without control characters that is what is printed
(`printLine_entryMarkup`), and in any case all line breaks on the line but the one at its end are those of the
description (`prints_of_node?`).
-/

namespace LifePlan

namespace Display

open Interpreter (numeralOf numbersOf)
open Markup (IsPlain IsTag shown shownEscaped read)

variable {cs text : List Char} {e : Entry}

/-! ## Plain texts and styles -/

/-- Plain characters are shown. -/
theorem shown_append (h : IsPlain cs) (rest : List Char) :
    shown (read (cs ++ rest)) = cs ++ shown (read rest) := by
  rw [Markup.read_append h, Markup.shown_atoms_append, Markup.shown_glyphs]

/-- The names of styles can be tags. -/
theorem isTag_name (style : Style) : IsTag style.name.toList := by
  cases style with
  | red | yellow | green | blue | cyan | choices | preset => exact ⟨by decide, by decide⟩

/-- Plain characters in a style are shown without it. -/
theorem shown_on (style : Style) (h : IsPlain text) (rest : List Char) :
    shown (read (style.on text ++ rest)) = text ++ shown (read rest) := by
  rw [Style.on, Markup.read_styled (isTag_name style) h, shown, List.filterMap_cons, List.filterMap_append]
  exact congrArg (· ++ _) (Markup.shown_glyphs text)

/-! ## Labels and numbers -/

/-- Labels are plain. -/
theorem isPlain_label (kind : Kind) : IsPlain kind.label.toList := by
  cases kind with
  | goal | action | agreement | alert | result => decide

/-- So are numbers. -/
theorem isPlain_numeralOf {i : Int} (h : 0 ≤ i) : IsPlain (numeralOf i).toList := by
  intro c hc
  have hdigit := (Interpreter.isNumeral_numeralOf h).digits c hc
  constructor
  · rintro rfl
    cases hdigit
  · rintro rfl
    cases hdigit

/-- Texts are shown with the points between them. -/
theorem shown_intercalate {α : Type} {f g : α → List Char} {xs : List α}
    (h : ∀ x ∈ xs, ∀ rest, shown (read (f x ++ rest)) = g x ++ shown (read rest)) (rest : List Char) :
    shown (read (['.'].intercalate (xs.map f) ++ rest)) =
      ['.'].intercalate (xs.map g) ++ shown (read rest) := by
  have hpoint : IsPlain ['.'] := by decide
  induction xs with
  | nil => rfl
  | cons x xs ih =>
    obtain ⟨hx, hxs⟩ := List.forall_mem_cons.mp h
    rcases xs with _ | ⟨y, xs⟩
    · rw [List.map_singleton, List.map_singleton, List.intercalate_singleton, List.intercalate_singleton, hx]
    · have hrest := ih hxs
      simp only [List.map_cons, List.intercalate_cons_cons, List.append_assoc] at hrest ⊢
      rw [hx, shown_append hpoint, hrest]

/-- The characters of texts that are put together with one between them are theirs, or that one. -/
theorem mem_intercalate {c between : Char} {xs : List (List Char)} (h : c ∈ [between].intercalate xs) :
    c = between ∨ ∃ x ∈ xs, c ∈ x := by
  induction xs with
  | nil => cases h
  | cons x xs ih =>
    rcases xs with _ | ⟨y, xs⟩
    · rw [List.intercalate_singleton] at h
      exact .inr ⟨x, List.mem_cons_self, h⟩
    · rw [List.intercalate_cons_cons, List.mem_append, List.mem_append, List.mem_singleton] at h
      rcases h with (h | h) | h
      · exact .inr ⟨x, List.mem_cons_self, h⟩
      · exact .inl h
      · exact (ih h).imp_right fun ⟨z, hz, hc⟩ => ⟨z, List.mem_cons_of_mem x hz, hc⟩

/-- **The numbers of a record are shown as they would be typed.** -/
theorem shown_numbersMarkup {kind : Kind} {path : Path} (hlength : path.length = kind.depth)
    (hnonneg : ∀ i ∈ path, 0 ≤ i) (rest : List Char) :
    shown (read (numbersMarkup kind path ++ rest)) = (numbersOf path).toList ++ shown (read rest) := by
  have hpath : (kind.lineage.zip path).map Prod.snd = path := List.map_snd_zip (Nat.le_of_eq hlength)
  have hnumbers : (numbersOf path).toList =
      ['.'].intercalate ((kind.lineage.zip path).map fun level => (numeralOf level.2).toList) := by
    rw [numbersOf, String.toList_intercalate, List.map_map, ← hpath, List.map_map, hpath]
    rfl
  rw [hnumbers, numbersMarkup]
  refine shown_intercalate (fun level hlevel => ?_) rest
  exact shown_on _ (isPlain_numeralOf (hnonneg level.2 (List.of_mem_zip hlevel).2))

/-! ## The line of a record -/

/-- In a listing of everything deeper records are indented. -/
def indent (item : Item) (kind : Kind) : List Char :=
  if item = .all then List.replicate (kind.depth - 1) ' ' else []

/-- What stands in front of the description on the line of a record. -/
def entryHead (item : Item) (e : Entry) : List Char :=
  indent item e.kind ++ e.kind.label.toList ++ '(' :: (numbersOf e.path).toList ++ "): ".toList

/-- The line of a record: the label and the numbers come first, and what comes behind them is the description as it
is laid out, perhaps with another number of backslashes. That is what is printed without colour, and with colour or
without there are no more line breaks than in the description, apart from the one at the end. As everywhere, lines
are not wrapped, and a console that knows emoji by name would put them in the place of their names in the
description. -/
structure Prints (item : Item) (e : Entry) : Prop where
  bare : ∃ text rest : List Char,
    text.filter (· ≠ '\\') = e.node.description.toList.filter (· ≠ '\\') ∧
      laidOut (entryHead item e ++ text) = entryHead item e ++ rest ∧
        Run.plain (layOut (Run.ofMarkup (entryMarkup item e))) = entryHead item e ++ rest ∧
          ∀ screen : Screen, screen.colour = false →
            screen.printLine (entryMarkup item e) = entryHead item e ++ rest ++ ['\n']
  breaks : ∀ screen : Screen,
    (screen.printLine (entryMarkup item e)).count '\n' = e.node.description.toList.count '\n' + 1

/-- It is nothing but spaces. -/
theorem eq_of_mem_indent {item : Item} {kind : Kind} {c : Char} (h : c ∈ indent item kind) : c = ' ' := by
  rw [indent] at h
  split at h
  · exact List.eq_of_mem_replicate h
  · cases h

/-- Characters that are not control characters. -/
def IsVisible (cs : List Char) : Prop := ∀ c ∈ cs, 32 ≤ c.toNat

instance (cs : List Char) : Decidable (IsVisible cs) :=
  List.decidableBAll (fun c : Char => 32 ≤ c.toNat) cs

/-- Another visible character may come first. -/
theorem IsVisible.cons {c : Char} (h : IsVisible cs) (hc : 32 ≤ c.toNat) : IsVisible (c :: cs) :=
  List.forall_mem_cons.mpr ⟨hc, h⟩

/-- Visible texts are visible one after the other. -/
theorem IsVisible.append (h : IsVisible cs) (h' : IsVisible text) : IsVisible (cs ++ text) :=
  List.forall_mem_append.mpr ⟨h, h'⟩

/-- They are shown as they are. -/
theorem IsVisible.isSolid (h : IsVisible cs) : ∀ c ∈ cs, isSolid c = true := by
  intro c hc
  have hge := h c hc
  have htab : c ≠ '\t' := by
    rintro rfl
    exact absurd hge (by decide)
  have hdropped : isDropped c = false := by
    rw [isDropped]
    simp only [Bool.or_eq_false_iff, beq_eq_false_iff_ne]
    omega
  rw [LifePlan.isSolid, hdropped, decide_eq_true htab]
  rfl

/-- They hold no null character. -/
theorem IsVisible.notMem_null (h : IsVisible cs) : '\x00' ∉ cs :=
  fun hmem => absurd (h _ hmem) (by decide)

/-- They hold no line break. -/
theorem IsVisible.count_eq_zero (h : IsVisible cs) : cs.count '\n' = 0 := by
  refine List.count_eq_zero_of_not_mem fun hmem => ?_
  exact absurd (h '\n' hmem) (by decide)

/-- Nor do backslashes. -/
theorem isVisible_slashes (n : Nat) : IsVisible (List.replicate n '\\') := fun c hc => by
  rw [List.eq_of_mem_replicate hc]
  decide

/-- What is shown of a text without control characters has none either, up to the backslashes at its end. -/
theorem IsVisible.shownHead (h : IsVisible cs) (n : Nat) : IsVisible (Markup.shownHead n cs) := fun c hc => by
  rcases Markup.mem_shownHead hc with rfl | hc
  · decide
  · exact h c hc

/-- What an escaped text shows has no control characters that the text has not. -/
theorem IsVisible.shownEscaped (h : IsVisible cs) : IsVisible (Markup.shownEscaped cs) :=
  (h.shownHead 0).append (isVisible_slashes _)

/-- Labels hold no control characters. -/
theorem isVisible_label (kind : Kind) : IsVisible kind.label.toList := by
  cases kind with
  | goal | action | agreement | alert | result => decide

section entry

variable {p : Plan} (item : Item) (he : p.node? e.kind e.path = some e.node)

include he

/-- The numbers of a record hold no control characters. -/
theorem isVisible_numbersOf : IsVisible (numbersOf e.path).toList := fun c hc => by
  rw [numbersOf, String.toList_intercalate, List.map_map] at hc
  rcases mem_intercalate hc with rfl | ⟨ds, hds, hc⟩
  · decide
  · obtain ⟨i, hi, rfl⟩ := List.mem_map.mp hds
    have hdigit := (Interpreter.isNumeral_numeralOf (Plan.nonneg_of_node? he i hi)).digits c hc
    exact Nat.le_trans (by decide) (Reference.toNat_of_isDigit hdigit).1

/-- In front of the description there are no control characters. -/
theorem isVisible_entryHead : IsVisible (entryHead item e) := by
  have hindent : IsVisible (indent item e.kind) := fun c hc => by
    rw [eq_of_mem_indent hc]
    decide
  exact ((hindent.append (isVisible_label e.kind)).append ((isVisible_numbersOf he).cons (by decide))).append
    (by decide)

/-- **The label and the numbers of a record are shown as they would be typed**, and its description behind them. -/
theorem shown_entryMarkup :
    shown (read (entryMarkup item e)) = entryHead item e ++ shownEscaped e.node.description.toList := by
  have hindent : IsPlain (indent item e.kind) := fun c hc => by
    rw [eq_of_mem_indent hc]
    decide
  have hopening : IsPlain ['('] := by decide
  have hclosing : IsPlain "): ".toList := by decide
  have hmarkup : entryMarkup item e =
      indent item e.kind ++ ((styleOf e.kind).on e.kind.label.toList ++ (['('] ++ (numbersMarkup e.kind e.path ++
        ("): ".toList ++ Markup.escape e.node.description.toList)))) := by
    simp [entryMarkup, indent]
  rw [hmarkup, shown_append hindent, shown_on _ (isPlain_label e.kind), shown_append hopening,
    shown_numbersMarkup (Plan.length_of_node? he) (Plan.nonneg_of_node? he), shown_append hclosing,
    Markup.read_escape, Markup.shown_glyphs, entryHead]
  simp only [List.append_assoc, List.cons_append, List.nil_append]

/-- **Without colour the line of a record** is its label and its numbers, and then its description as it is shown of an
escaped text, if this one holds no control characters. -/
theorem printLine_entryMarkup (hdescription : IsVisible e.node.description.toList) {screen : Screen}
    (hcolour : screen.colour = false) :
    screen.printLine (entryMarkup item e) =
      entryHead item e ++ shownEscaped e.node.description.toList ++ ['\n'] := by
  have hvisible := (isVisible_entryHead item he).append hdescription.shownEscaped
  rw [Screen.printLine_eq hcolour, shown_entryMarkup item he, laidOut_of_solid hvisible.isSolid]

/-- **The line of a record** is printed with its label and its numbers, and has no line breaks but those of the
description and the one at its end. -/
theorem prints_of_node? : Prints item e := by
  have hshown := shown_entryMarkup item he
  have htext := Markup.filter_shownEscaped e.node.description.toList
  have hvisible := isVisible_entryHead item he
  generalize shownEscaped e.node.description.toList = text at hshown htext
  have hcount : text.count '\n' = e.node.description.toList.count '\n' := by
    have hkept (cs : List Char) : (cs.filter (· ≠ '\\')).count '\n' = cs.count '\n' := List.count_filter rfl
    rw [← hkept text, htext, hkept]
  constructor
  · obtain ⟨rest, hlaid⟩ := laidOut_append hvisible.isSolid text
    refine ⟨text, rest, htext, hlaid, ?_, fun screen hcolour => ?_⟩
    · rw [plain_layOut, Run.plain_ofMarkup, hshown, hlaid]
    · rw [Screen.printLine_eq hcolour, hshown, hlaid]
  · intro screen
    rw [Screen.count_printLine, hshown, List.count_append, hvisible.count_eq_zero, Nat.zero_add, hcount]

end entry

/-! ## Listings -/

/-- The lines above a listing are printed as they are. -/
theorem print_listingHeader (screen : Screen) :
    (listingHeader.map String.toList).flatMap screen.printLine =
      listingHeader.flatMap fun line => line.toList ++ ['\n'] := by
  have hheader : ∀ line ∈ listingHeader, IsPlain line.toList ∧ IsVisible line.toList := by decide
  rw [List.flatMap_map, List.flatMap_def, List.flatMap_def]
  refine congrArg List.flatten (List.map_congr_left fun line hline => ?_)
  obtain ⟨hplain, hvisible⟩ := hheader line hline
  exact screen.printLine_plain hplain hvisible.isSolid

/-- **A listing is its three lines and then one line for each record**, in their order. -/
theorem print_listing (screen : Screen) (item : Item) (entries : List Entry) :
    (Display.listing item entries).print screen =
      (listingHeader.flatMap fun line => line.toList ++ ['\n']) ++
        entries.flatMap fun e => screen.printLine (entryMarkup item e) := by
  change (listingHeader.map String.toList ++ entries.map (entryMarkup item)).flatMap screen.printLine = _
  rw [List.flatMap_append, print_listingHeader, List.flatMap_map]

end Display

end LifePlan
