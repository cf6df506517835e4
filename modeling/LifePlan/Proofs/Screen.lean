import LifePlan.Proofs.Markup
import LifePlan.Screen

/-!
# What the console shows of markup

Without colour a line of markup is printed as the characters that it shows (`printLine_eq`): a few control
characters are dropped, and tabs become spaces (`laidOut`). Line breaks are never dropped and never added, with
colour or without (`count_printLine`).
-/

namespace LifePlan

open Markup (Atom shown)

variable {rs : List Run} {cs : List Char}

/-! ## Runs -/

namespace Run

/-- **Runs have the characters that their atoms show**, whatever tags are among them. -/
theorem plain_ofAtoms (names : List (List Char)) (as : List Atom) : plain (ofAtoms names as) = shown as := by
  induction as generalizing names with
  | nil => rfl
  | cons a as ih =>
    cases a with
    | glyph c =>
      have hrest := ih names
      rw [ofAtoms]
      generalize ofAtoms names as = rs at hrest
      rcases rs with _ | ⟨r, rs⟩
      · simp only [shown, plain] at hrest ⊢
        simp [Atom.char?, ← hrest]
      · simp only [shown, plain] at hrest ⊢
        simp [Atom.char?, ← hrest]
    | tag body => exact ih (toggle names body)

/-- So do the runs of a line of markup. -/
theorem plain_ofMarkup (markup : List Char) : plain (ofMarkup markup) = shown (Markup.read markup) :=
  plain_ofAtoms [] _

end Run

/-! ## Laying out -/

/-- The text as it is laid out: some control characters are dropped, and tabs are widened. -/
def laidOut (cs : List Char) : List Char := (widen 0 (cs.filter fun c => !isDropped c)).1

/-- A text is widened from where the one before it ends. -/
theorem widen_append (column : Nat) (cs ds : List Char) :
    (widen column (cs ++ ds)).1 = (widen column cs).1 ++ (widen (widen column cs).2 ds).1 ∧
      (widen column (cs ++ ds)).2 = (widen (widen column cs).2 ds).2 := by
  induction cs generalizing column with
  | nil => exact ⟨rfl, rfl⟩
  | cons c cs ih =>
    rw [List.cons_append, widen, widen]
    by_cases htab : c = '\t'
    · simp only [if_pos htab, ih, List.append_assoc]
      exact ⟨trivial, trivial⟩
    · simp only [if_neg htab, ih, List.cons_append]
      exact ⟨trivial, trivial⟩

/-- Runs are widened like the text that they make up. -/
theorem plain_widenRuns (column : Nat) (rs : List Run) :
    Run.plain (widenRuns column rs) = (widen column (Run.plain rs)).1 := by
  induction rs generalizing column with
  | nil => rfl
  | cons r rs ih =>
    have happend := (widen_append column r.text (Run.plain rs)).1
    rw [widenRuns, Run.plain, List.flatMap_cons]
    exact (congrArg _ (ih _)).trans happend.symm

/-- To cut a run loses only what is dropped. -/
theorem plain_pieces (r : Run) : Run.plain (pieces r) = r.text.filter fun c => !isDropped c := by
  rw [Run.plain, pieces, List.flatMap_map]
  exact List.flatMap_id'.trans (flatten_tabPieces _)

/-- **Runs are laid out like the text that they make up.** -/
theorem plain_layOut (rs : List Run) : Run.plain (layOut rs) = laidOut (Run.plain rs) := by
  have hpieces : Run.plain (rs.flatMap pieces) = (Run.plain rs).filter fun c => !isDropped c := by
    induction rs with
    | nil => rfl
    | cons r rs ih =>
      rw [List.flatMap_cons, Run.plain, List.flatMap_append, Run.plain, List.flatMap_cons, List.filter_append]
      exact congr (congrArg HAppend.hAppend (plain_pieces r)) ih
  rw [layOut, plain_widenRuns, hpieces, laidOut]

/-- Whether a character is shown as it is: it is no tab and is not dropped. -/
def isSolid (c : Char) : Bool := c ≠ '\t' && !isDropped c

/-- A text that is shown as it is, is not widened. -/
theorem widen_of_solid (h : ∀ c ∈ cs, isSolid c = true) (column : Nat) : (widen column cs).1 = cs := by
  induction cs generalizing column with
  | nil => rfl
  | cons c cs ih =>
    obtain ⟨hc, hcs⟩ := List.forall_mem_cons.mp h
    have htab : c ≠ '\t' := of_decide_eq_true (Bool.and_eq_true_iff.mp hc).1
    rw [widen, if_neg htab]
    exact congrArg (c :: ·) (ih hcs _)

/-- Line breaks are not widened. -/
theorem count_widen (column : Nat) (cs : List Char) : (widen column cs).1.count '\n' = cs.count '\n' := by
  induction cs generalizing column with
  | nil => rfl
  | cons c cs ih =>
    rw [widen]
    by_cases htab : c = '\t'
    · simp only [if_pos htab, List.count_append, List.count_replicate, ih]
      simp [htab]
    · simp only [if_neg htab, List.count_cons, ih]

/-- **No line break is dropped, and none is added**, when a text is laid out. -/
theorem count_laidOut (cs : List Char) : (laidOut cs).count '\n' = cs.count '\n' := by
  rw [laidOut, count_widen]
  exact List.count_filter rfl

/-- What is shown as it is loses nothing. -/
theorem filter_of_solid (h : ∀ c ∈ cs, isSolid c = true) : cs.filter (fun c => !isDropped c) = cs :=
  List.filter_eq_self.mpr fun c hc => (Bool.and_eq_true_iff.mp (h c hc)).2

/-- **What is shown as it is, is laid out as it is.** -/
theorem laidOut_of_solid (h : ∀ c ∈ cs, isSolid c = true) : laidOut cs = cs := by
  rw [laidOut, filter_of_solid h, widen_of_solid h]

/-- It is also laid out as it is in front of something else. -/
theorem laidOut_append (h : ∀ c ∈ cs, isSolid c = true) (ds : List Char) :
    ∃ rest, laidOut (cs ++ ds) = cs ++ rest := by
  refine ⟨(widen (widen 0 cs).2 (ds.filter fun c => !isDropped c)).1, ?_⟩
  rw [laidOut, List.filter_append, filter_of_solid h, (widen_append 0 cs _).1, widen_of_solid h]

/-! ## Printing -/

namespace Screen

variable {screen : Screen}

/-- Runs that are not painted are printed as what they make up. -/
theorem print_eq {rs : List Run} (h : ∀ r ∈ layOut rs, screen.runText r = r.text) :
    screen.print rs = laidOut (Run.plain rs) := by
  rw [print, ← plain_layOut, Run.plain, List.flatMap_def, List.flatMap_def, List.map_congr_left h]

/-- **Without colour a line is printed as what it shows.** -/
theorem printLine_eq (hcolour : screen.colour = false) (markup : List Char) :
    screen.printLine markup = laidOut (shown (Markup.read markup)) ++ ['\n'] := by
  have htext (r : Run) : screen.runText r = r.text := by
    rw [runText]
    rcases r.style with _ | style
    · rfl
    · simp only [hcolour]
      rfl
  rw [printLine, print_eq fun r _ => htext r, Run.plain_ofMarkup]

/-- The pieces of a run that are laid out are in its style. -/
theorem style_of_mem_layOut (style : Option Style) (cs : List Char) :
    ∀ r ∈ layOut [⟨style, cs⟩], r.style = style := by
  have hwiden (column : Nat) (rs : List Run) (hrs : ∀ r ∈ rs, r.style = style) :
      ∀ r ∈ widenRuns column rs, r.style = style := by
    induction rs generalizing column with
    | nil => exact fun r hr => absurd hr List.not_mem_nil
    | cons r rs ih =>
      rw [List.forall_mem_cons] at hrs
      rw [widenRuns]
      exact List.forall_mem_cons.mpr ⟨hrs.1, ih _ hrs.2⟩
  refine hwiden 0 _ fun r hr => ?_
  rw [List.flatMap_singleton, pieces] at hr
  obtain ⟨piece, -, rfl⟩ := List.mem_map.mp hr
  rfl

/-- **A line that is shown as it is and has no tags is printed as it is**, with colour or without. -/
theorem printLine_plain (screen : Screen) (hplain : Markup.IsPlain cs) (hsolid : ∀ c ∈ cs, isSolid c = true) :
    screen.printLine cs = cs ++ ['\n'] := by
  have hread : Markup.read cs = cs.map .glyph := by
    have happend := Markup.read_append hplain []
    rw [List.append_nil] at happend
    exact happend.trans (List.append_nil _)
  have hruns : Run.ofMarkup cs = [⟨none, cs⟩] := by
    rw [Run.ofMarkup, hread]
    clear hplain hsolid hread
    induction cs with
    | nil => rfl
    | cons c cs ih => rw [List.map_cons, Run.ofAtoms, ih]
  rw [printLine, hruns, print_eq fun r hr => by rw [runText, style_of_mem_layOut none cs r hr], Run.plain,
    List.flatMap_singleton, laidOut_of_solid hsolid]

/-- The codes around a piece of a line hold no line break. -/
theorem count_paint (style : Style) {piece : List Char} (h : '\n' ∉ piece) :
    (paint style piece).count '\n' = 0 := by
  have hcode : (control style.code).count '\n' = 0 := by
    cases style with
    | red | yellow | green | blue | cyan | choices | preset => decide
  rw [paint]
  split
  · rfl
  · rw [List.count_append, List.count_append, List.count_cons, hcode, List.count_eq_zero_of_not_mem h]
    decide

/-- A text that is painted keeps its line breaks. -/
theorem count_paintLines (style : Style) {line : List Char} (h : '\n' ∉ line) (cs : List Char) :
    (paintLines style line cs).count '\n' = cs.count '\n' := by
  induction cs generalizing line with
  | nil => exact count_paint style (by rwa [List.mem_reverse])
  | cons c cs ih =>
    rw [paintLines]
    by_cases hbreak : c = '\n'
    · rw [if_pos hbreak, List.count_append, count_paint style (by rwa [List.mem_reverse]), Nat.zero_add,
        List.count_cons, List.count_cons, ih List.not_mem_nil, hbreak]
    · have hline : '\n' ∉ c :: line := fun hmem => by
        rcases List.mem_cons.mp hmem with heq | hmem
        · exact hbreak heq.symm
        · exact h hmem
      rw [if_neg hbreak, ih hline, List.count_cons_of_ne hbreak]

/-- A run that is printed keeps its line breaks. -/
theorem count_runText (screen : Screen) (r : Run) : (screen.runText r).count '\n' = r.text.count '\n' := by
  rw [runText]
  rcases r.style with _ | style
  · rfl
  · by_cases hcolour : screen.colour = true
    · simp only [if_pos hcolour]
      exact count_paintLines style List.not_mem_nil r.text
    · simp only [if_neg hcolour]

/-- **A line is printed with the line breaks of what it shows and one more**, with colour or without. -/
theorem count_printLine (screen : Screen) (markup : List Char) :
    (screen.printLine markup).count '\n' = (shown (Markup.read markup)).count '\n' + 1 := by
  have hruns (rs : List Run) : (rs.flatMap screen.runText).count '\n' = (Run.plain rs).count '\n' := by
    rw [Run.plain, List.count_flatMap, List.count_flatMap]
    congr 2
    funext r
    exact count_runText screen r
  rw [printLine, print, List.count_append, hruns, plain_layOut, count_laidOut, Run.plain_ofMarkup]
  rfl

end Screen

end LifePlan
