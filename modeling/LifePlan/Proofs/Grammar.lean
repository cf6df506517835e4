import LifePlan.Proofs.Numbers
import Mathlib.Logic.ExistsUnique
import Mathlib.Tactic.ByContra
import Mathlib.Tactic.Push

/-!
# The grammar of a remainder

A remainder without the white space at its ends divides into delimiters, numerals with delimiters between them, and a
tail that no further numeral can be taken from (`Cut`). Every text divides in this way (`exists_divides`) and in no
other (`Cut.Divides.unique`), since each part goes as far as it can: what follows a numeral is no digit, and what
follows delimiters is no delimiter (`IsRun`).

The scanner takes one character after the other and never looks ahead. Nevertheless it finds these numerals and leaves
this tail (`scan_spell`), so that what is read is what the division says (`parse_grammar`).
-/

namespace LifePlan

namespace Reference

variable {P : Char → Bool} {run run' rest rest' text tail tail' sep : List Char}

/-! ## Runs -/

/-- A run of characters of one sort. The text behind it ends or goes on with another sort. -/
structure IsRun (P : Char → Bool) (run rest : List Char) : Prop where
  all : ∀ c ∈ run, P c = true
  ends : ∀ c ∈ rest.head?, P c = false

/-- Every text starts with a run, if only with an empty one. -/
theorem exists_run (P : Char → Bool) (text : List Char) : ∃ run rest, IsRun P run rest ∧ run ++ rest = text := by
  refine ⟨text.takeWhile P, text.dropWhile P, ⟨?_, Text.head_dropWhile P text⟩, List.takeWhile_append_dropWhile⟩
  intro c hc
  exact List.all_eq_true.mp List.all_takeWhile c hc

/-- A text starts with only one run. -/
theorem IsRun.unique (h : IsRun P run rest) (h' : IsRun P run' rest') (htext : run ++ rest = run' ++ rest') :
    run = run' ∧ rest = rest' := by
  have hrest : rest = rest' := by
    have hdrop : (run ++ rest).dropWhile P = (run' ++ rest').dropWhile P := by rw [htext]
    rw [List.dropWhile_append_of_pos h.all, List.dropWhile_append_of_pos h'.all, Text.dropWhile_of_head h.ends,
      Text.dropWhile_of_head h'.ends] at hdrop
    exact hdrop
  rw [hrest] at htext
  exact ⟨List.append_cancel_right htext, hrest⟩

/-! ## Numerals -/

/-- A numeral: a minus sign, or none, and digits. -/
structure Numeral where
  negative : Bool
  digits : List Char
  deriving DecidableEq, Repr

namespace Numeral

variable {n n' : Numeral}

/-- How the numeral is written. -/
def written (n : Numeral) : List Char := if n.negative then '-' :: n.digits else n.digits

/-- The number that it stands for. -/
def value (n : Numeral) : Int :=
  if n.negative then -(Nat.ofDigitChars 10 n.digits 0 : Int) else Nat.ofDigitChars 10 n.digits 0

/-- The text starts with the numeral: there are digits, and as many as there can be. -/
structure Starts (n : Numeral) (rest : List Char) : Prop where
  ne_nil : n.digits ≠ []
  isRun : IsRun Char.isDigit n.digits rest

/-- A numeral is a minus sign or a digit, and something more. -/
theorem Starts.head (h : n.Starts rest) (text : List Char) :
    ∃ c cs, n.written ++ text = c :: cs ∧
      (n.negative = true ∧ c = '-' ∨ n.negative = false ∧ c.isDigit = true) := by
  unfold written
  rcases hnegative : n.negative with _ | _
  · rcases hdigits : n.digits with _ | ⟨d, ds⟩
    · exact absurd hdigits h.ne_nil
    · have hd : d.isDigit = true := h.isRun.all d (hdigits ▸ List.mem_cons_self)
      exact ⟨d, ds ++ text, rfl, .inr ⟨rfl, hd⟩⟩
  · exact ⟨'-', n.digits ++ text, rfl, .inl ⟨rfl, rfl⟩⟩

/-- So it does not start with a delimiter. -/
theorem Starts.isDelimiter_head (h : n.Starts rest) (text : List Char) :
    ∀ c ∈ (n.written ++ text).head?, isDelimiter c = false := by
  obtain ⟨first, cs, htext, hfirst⟩ := h.head text
  rw [htext]
  intro c hc
  cases hc
  rw [Bool.eq_false_iff]
  intro hdelimiter
  obtain ⟨hdigit, hminus⟩ := of_isDelimiter hdelimiter
  rcases hfirst with ⟨-, rfl⟩ | ⟨-, hfirst⟩
  · exact hminus rfl
  · rw [hdigit] at hfirst
    cases hfirst

/-- A text starts with only one numeral. -/
theorem Starts.unique (h : n.Starts rest) (h' : n'.Starts rest')
    (htext : n.written ++ rest = n'.written ++ rest') : n = n' ∧ rest = rest' := by
  -- the first character tells whether there is a sign
  have hsign : n.negative = n'.negative := by
    obtain ⟨c, cs, hc, hfirst⟩ := h.head rest
    obtain ⟨c', cs', hc', hfirst'⟩ := h'.head rest'
    rw [hc, hc'] at htext
    cases htext
    rcases hfirst with ⟨hn, rfl⟩ | ⟨hn, hdigit⟩
    · rcases hfirst' with ⟨hn', -⟩ | ⟨-, hdigit'⟩
      · rw [hn, hn']
      · cases hdigit'
    · rcases hfirst' with ⟨-, rfl⟩ | ⟨hn', -⟩
      · cases hdigit
      · rw [hn, hn']
  have hdigits : n.digits ++ rest = n'.digits ++ rest' := by
    unfold written at htext
    rw [hsign] at htext
    split at htext
    · exact List.tail_eq_of_cons_eq htext
    · exact htext
  obtain ⟨hrun, hrest⟩ := h.isRun.unique h'.isRun hdigits
  cases n
  cases n'
  cases hsign
  cases hrun
  exact ⟨rfl, hrest⟩

/-- It is read with as many digits as it has. -/
theorem digitCount_written (h : n.Starts rest) : digitCount n.written = n.digits.length := by
  unfold written
  split
  · rfl
  · exact IsNumeral.digitCount_eq ⟨h.ne_nil, h.isRun.all⟩

/-- It is read as the number that it stands for. -/
theorem numberOf_written (h : n.Starts rest) : numberOf n.written = n.value := by
  unfold written value
  split
  · rfl
  · unfold numberOf
    split
    · next ds hds =>
      have hminus := h.isRun.all '-' (hds ▸ List.mem_cons_self)
      cases hminus
    · rfl

end Numeral

/-! ## Divisions -/

/-- A text cut into pieces: the delimiters in front, the numerals, each with the delimiters behind it, and the
tail. -/
structure Cut where
  lead : List Char
  terms : List (Numeral × List Char)
  tail : List Char
  deriving DecidableEq, Repr

/-- The text that numerals with their delimiters and a tail make. -/
def spell : List (Numeral × List Char) → List Char → List Char
  | [], tail => tail
  | (n, sep) :: terms, tail => n.written ++ (sep ++ spell terms tail)

/-- Nothing more can be taken from a tail: it does not start with a delimiter, and if it starts with a numeral, then
something else than a delimiter follows. -/
structure IsTail (tail : List Char) : Prop where
  head : ∀ c ∈ tail.head?, isDelimiter c = false
  glued : ∀ (n : Numeral) (rest : List Char), n.Starts rest → tail = n.written ++ rest →
    ∃ c ∈ rest.head?, isDelimiter c = false

/-- Numerals with delimiters behind them, and a tail. Behind each numeral there is a delimiter or the end of the
text. -/
inductive IsChain : List (Numeral × List Char) → List Char → Prop
  | nil {tail : List Char} (h : IsTail tail) : IsChain [] tail
  | cons {n : Numeral} {sep : List Char} {terms : List (Numeral × List Char)} {tail : List Char}
      (hnumeral : n.Starts (sep ++ spell terms tail)) (hsep : IsRun isDelimiter sep (spell terms tail))
      (hend : sep = [] → spell terms tail = []) (h : IsChain terms tail) : IsChain ((n, sep) :: terms) tail

namespace Cut

/-- The numerals of a division. -/
def numerals (cut : Cut) : List Numeral := cut.terms.map Prod.fst

/-- The text is what the pieces make, and they are what they should be. -/
structure Divides (cut : Cut) (text : List Char) : Prop where
  text_eq : cut.lead ++ spell cut.terms cut.tail = text
  lead : ∀ c ∈ cut.lead, isDelimiter c = true
  chain : IsChain cut.terms cut.tail

/-- What a division says: the first numeral with too many digits is what is wrong, or else the first number below 1
is; if there is none, the numbers stand for places and the tail is the description. -/
def reading (cut : Cut) : Except Failure Reference :=
  match cut.numerals.find? fun n => digitLimit < n.digits.length with
  | some n => .error (.misuse (.tooManyDigits n.digits.length))
  | none =>
    match cut.numerals.find? fun n => n.value < 1 with
    | some n => .error (.fault (.number n.value (if n.value = 0 then .zero else .negative)))
    | none => .ok ⟨cut.numerals.map fun n => n.value - 1, String.ofList (Text.unquote cut.tail)⟩

end Cut

section chain

variable {terms terms' : List (Numeral × List Char)} {n : Numeral}

/-- What numerals and a tail make does not start with a delimiter. -/
theorem IsChain.isDelimiter_head (h : IsChain terms tail) : ∀ c ∈ (spell terms tail).head?, isDelimiter c = false := by
  cases h with
  | nil h => exact h.head
  | cons hnumeral hsep hend h => exact hnumeral.isDelimiter_head _

/-- A delimiter follows a numeral, or nothing does. -/
theorem isDelimiter_head_append (hsep : IsRun isDelimiter sep rest) (hend : sep = [] → rest = []) :
    ∀ c ∈ (sep ++ rest).head?, isDelimiter c = true := by
  intro c hc
  rcases sep with _ | ⟨s, sep⟩
  · rw [hend rfl] at hc
    cases hc
  · cases hc
    exact hsep.all _ List.mem_cons_self

/-- A tail is not a numeral with a delimiter or nothing behind it. -/
theorem IsTail.ne_append (h : IsTail tail) (hnumeral : n.Starts rest)
    (hrest : ∀ c ∈ rest.head?, isDelimiter c = true) : tail ≠ n.written ++ rest := by
  intro htail
  obtain ⟨c, hc, hdelimiter⟩ := h.glued n rest hnumeral htail
  rw [hrest c hc] at hdelimiter
  cases hdelimiter

/-- **The numerals, their delimiters and the tail are told from the text.** -/
theorem IsChain.unique (h : IsChain terms tail) (h' : IsChain terms' tail')
    (htext : spell terms tail = spell terms' tail') : terms = terms' ∧ tail = tail' := by
  induction h generalizing terms' with
  | nil htail =>
    cases h' with
    | nil => exact ⟨rfl, htext⟩
    | cons hnumeral hsep hend => exact absurd htext (htail.ne_append hnumeral (isDelimiter_head_append hsep hend))
  | cons hnumeral hsep hend h ih =>
    cases h' with
    | nil htail =>
      exact absurd htext.symm (htail.ne_append hnumeral (isDelimiter_head_append hsep hend))
    | cons hnumeral' hsep' hend' h' =>
      obtain ⟨rfl, hrest⟩ := hnumeral.unique hnumeral' htext
      obtain ⟨rfl, hspell⟩ := hsep.unique hsep' hrest
      obtain ⟨rfl, htail⟩ := ih h' hspell
      exact ⟨rfl, htail⟩

/-- A text is a tail, or a numeral can be taken from it, if it does not start with a delimiter. -/
theorem isTail_or_exists_numeral (h : ∀ c ∈ text.head?, isDelimiter c = false) :
    IsTail text ∨ ∃ (n : Numeral) (rest : List Char), n.Starts rest ∧ text = n.written ++ rest ∧
      ∀ c ∈ rest.head?, isDelimiter c = true := by
  by_cases htail : IsTail text
  · exact .inl htail
  · refine .inr (by_contra fun hnone => htail ⟨h, fun n rest hstarts htext => ?_⟩)
    by_contra hglued
    push Not at hglued
    refine hnone ⟨n, rest, hstarts, htext, fun c hc => ?_⟩
    exact eq_true_of_ne_false (hglued c hc)

/-- **Every text that does not start with a delimiter is numerals with delimiters behind them, and a tail.** Taking a
numeral and its delimiters from the text leaves a shorter one, which again does not start with a delimiter. -/
theorem exists_chain (text : List Char) (h : ∀ c ∈ text.head?, isDelimiter c = false) :
    ∃ terms tail, IsChain terms tail ∧ spell terms tail = text := by
  rcases isTail_or_exists_numeral h with htail | ⟨n, rest, hnumeral, rfl, hrest⟩
  · exact ⟨[], text, .nil htail, rfl⟩
  · obtain ⟨sep, text, hsep, rfl⟩ := exists_run isDelimiter rest
    have hshorter : text.length < (n.written ++ (sep ++ text)).length := by
      obtain ⟨c, cs, hwritten, -⟩ := hnumeral.head []
      have hpos : 0 < n.written.length := by
        rw [List.append_nil] at hwritten
        rw [hwritten]
        exact Nat.succ_pos _
      simp only [List.length_append]
      omega
    obtain ⟨terms, tail, hchain, rfl⟩ := exists_chain text hsep.ends
    refine ⟨(n, sep) :: terms, tail, .cons hnumeral hsep ?_ hchain, rfl⟩
    -- a numeral was taken because a delimiter or nothing follows it, so without delimiters nothing does
    rintro rfl
    rcases hspell : spell terms tail with _ | ⟨c, cs⟩
    · rfl
    · rw [hspell] at hsep hrest
      have hdelimiter := hrest c rfl
      rw [hsep.ends c rfl] at hdelimiter
      cases hdelimiter
termination_by text.length

end chain

/-- **Every text divides.** -/
theorem exists_divides (text : List Char) : ∃ cut : Cut, cut.Divides text := by
  obtain ⟨lead, rest, hlead, rfl⟩ := exists_run isDelimiter text
  obtain ⟨terms, tail, hchain, rfl⟩ := exists_chain rest hlead.ends
  exact ⟨⟨lead, terms, tail⟩, rfl, hlead.all, hchain⟩

/-- **And it divides in one way only.** -/
theorem Cut.Divides.unique {cut cut' : Cut} (h : cut.Divides text) (h' : cut'.Divides text) : cut = cut' := by
  have hrun : IsRun isDelimiter cut.lead (spell cut.terms cut.tail) := ⟨h.lead, h.chain.isDelimiter_head⟩
  have hrun' : IsRun isDelimiter cut'.lead (spell cut'.terms cut'.tail) := ⟨h'.lead, h'.chain.isDelimiter_head⟩
  obtain ⟨hlead, hspell⟩ := hrun.unique hrun' (h.text_eq.trans h'.text_eq.symm)
  obtain ⟨hterms, htail⟩ := h.chain.unique h'.chain hspell
  cases cut
  cases cut'
  cases hlead
  cases hterms
  cases htail
  rfl

/-! ## The scanner -/

section scanner

variable {terms : List (Numeral × List Char)} {begun : List Char} {n : Numeral} {c : Char}

/-- The scanner stops where nothing goes on with what has been begun or closes it. -/
theorem scan_stop (hdigit : c.isDigit = false) (hminus : ¬ (c = '-' ∧ begun = []))
    (hdelimiter : ¬ (isDelimiter c = true ∧ begun ≠ ['-'])) (rest : List Char) :
    scan begun (c :: rest) = ([], begun.reverse ++ c :: rest) := by
  rw [scan, if_neg (by rw [hdigit]; exact Bool.false_ne_true), if_neg hminus, if_neg hdelimiter]

/-- A minus sign begins a numeral. -/
theorem scan_minus (rest : List Char) : scan [] ('-' :: rest) = scan ['-'] rest := by
  rw [scan, if_neg (by decide), if_pos ⟨rfl, rfl⟩]

/-- The scanner comes to the end of a numeral with all of it begun. -/
theorem scan_written (h : n.Starts rest) : scan [] (n.written ++ rest) = scan n.written.reverse rest := by
  unfold Numeral.written
  split
  · rw [List.cons_append, scan_minus, scan_digits h.isRun.all, List.reverse_cons]
  · rw [scan_digits h.isRun.all, List.append_nil]

/-- What has been begun then is more than a minus sign. -/
theorem written_ne (h : n.Starts rest) : n.written.reverse ≠ [] ∧ n.written.reverse ≠ ['-'] := by
  have hne : n.written ≠ [] := by
    obtain ⟨c, cs, hwritten, -⟩ := h.head []
    rw [List.append_nil] at hwritten
    rw [hwritten]
    exact List.cons_ne_nil c cs
  have hminus : n.written ≠ ['-'] := by
    unfold Numeral.written
    split
    · intro hwritten
      exact h.ne_nil (List.tail_eq_of_cons_eq hwritten)
    · exact ne_minus_of_digits h.isRun.all
  constructor
  · intro hreverse
    exact hne (List.reverse_eq_nil_iff.mp hreverse)
  · intro hreverse
    exact hminus (List.reverse_eq_iff.mp hreverse)

/-- **No numeral is found in a tail.** -/
theorem scan_tail (h : IsTail tail) : scan [] tail = ([], tail) := by
  by_cases hstarts : ∃ (n : Numeral) (rest : List Char), n.Starts rest ∧ tail = n.written ++ rest
  -- a numeral that something is glued to
  · obtain ⟨n, rest, hn, rfl⟩ := hstarts
    obtain ⟨c, hc, hdelimiter⟩ := h.glued n rest hn rfl
    rcases rest with _ | ⟨c', rest⟩
    · cases hc
    · cases hc
      rw [scan_written hn, scan_stop (hn.isRun.ends c rfl) (fun hminus => (written_ne hn).1 hminus.2),
        List.reverse_reverse]
      rw [hdelimiter]
      exact fun hand => Bool.false_ne_true hand.1
  · have hdigit (n : Numeral) (rest : List Char) (htail : tail = n.written ++ rest)
        (hrun : IsRun Char.isDigit n.digits rest) : n.digits = [] := by
      by_contra hne
      exact hstarts ⟨n, rest, ⟨hne, hrun⟩, htail⟩
    rcases tail with _ | ⟨c, cs⟩
    · rfl
    · by_cases hminus : c = '-'
      -- a minus sign that no digit follows
      · subst hminus
        obtain ⟨digits, rest, hrun, rfl⟩ := exists_run Char.isDigit cs
        have hnone : digits = [] := hdigit ⟨true, digits⟩ rest rfl hrun
        subst hnone
        rw [scan_minus, List.nil_append]
        rcases rest with _ | ⟨c, rest⟩
        · rfl
        · rw [scan_stop (hrun.ends c rfl) (fun hand => List.cons_ne_nil '-' [] hand.2) (fun hand => hand.2 rfl)]
          rfl
      · have hfirst : c.isDigit = false := by
          obtain ⟨digits, rest, hrun, hdigits⟩ := exists_run Char.isDigit (c :: cs)
          have hnone : digits = [] := hdigit ⟨false, digits⟩ rest hdigits.symm hrun
          subst hnone
          rw [List.nil_append] at hdigits
          subst hdigits
          exact hrun.ends c rfl
        rw [scan_stop hfirst (fun hand => hminus hand.1) fun hand => ?_]
        · rfl
        · rw [h.head c rfl] at hand
          cases hand.1

/-- **The scanner finds the numerals and leaves the tail.** -/
theorem scan_spell (h : IsChain terms tail) :
    scan [] (spell terms tail) = (terms.map fun term => term.1.written, tail) := by
  induction h with
  | nil h => exact scan_tail h
  | cons hnumeral hsep hend h ih =>
    obtain ⟨hne, hminus⟩ := written_ne hnumeral
    rw [spell, scan_written hnumeral, scan_close hne hminus (isDelimiter_head_append hsep hend),
      scan_delimiters hsep.all, ih, List.reverse_reverse]
    rfl

end scanner

/-! ## What is read -/

section read

variable {cut : Cut} {remainder : String}

/-- The numerals of a chain have digits. -/
theorem IsChain.starts {terms : List (Numeral × List Char)} (h : IsChain terms tail) :
    ∀ n ∈ terms.map Prod.fst, ∃ rest, n.Starts rest := by
  induction h with
  | nil => exact fun n hn => absurd hn List.not_mem_nil
  | cons hnumeral hsep hend h ih => exact List.forall_mem_cons.mpr ⟨⟨_, hnumeral⟩, ih⟩

/-- The whole text is scanned as it divides. -/
theorem Cut.Divides.scan_eq (h : cut.Divides text) : scan [] text = (cut.numerals.map Numeral.written, cut.tail) := by
  rw [← h.text_eq, scan_delimiters h.lead, scan_spell h.chain, Cut.numerals, List.map_map]
  rfl

variable (h : cut.Divides (Text.strip remainder.toList))

include h

/-- The numerals of the remainder are those of the division. -/
theorem Cut.Divides.numerals_eq : Reference.numerals remainder = cut.numerals.map Numeral.written := by
  rw [Reference.numerals, h.scan_eq]

/-- So are the numbers. -/
theorem Cut.Divides.typedNumbers_eq : typedNumbers remainder = cut.numerals.map Numeral.value := by
  rw [typedNumbers, h.numerals_eq, List.map_map]
  refine List.map_congr_left fun n hn => ?_
  obtain ⟨rest, hstarts⟩ := h.chain.starts n hn
  exact Numeral.numberOf_written hstarts

/-- Digits are counted as they are written. -/
theorem Cut.Divides.digitCount_eq {n : Numeral} (hn : n ∈ cut.numerals) : digitCount n.written = n.digits.length := by
  obtain ⟨rest, hstarts⟩ := h.chain.starts n hn
  exact Numeral.digitCount_written hstarts

/-- Numerals without too many digits can be read. -/
theorem Cut.Divides.isReadable (hshort : ∀ n ∈ cut.numerals, n.digits.length ≤ digitLimit) : IsReadable remainder := by
  unfold IsReadable
  rw [h.numerals_eq]
  intro ds hds
  obtain ⟨n, hn, rfl⟩ := List.mem_map.mp hds
  rw [h.digitCount_eq hn]
  exact hshort n hn

/-- The first numeral with too many digits is what is wrong. -/
theorem Cut.Divides.parse_of_long {before after : List Numeral} {n : Numeral}
    (hnumerals : cut.numerals = before ++ n :: after) (hbefore : ∀ m ∈ before, m.digits.length ≤ digitLimit)
    (hn : digitLimit < n.digits.length) : parse remainder = .error (.misuse (.tooManyDigits n.digits.length)) := by
  have hscanned :
      Reference.numerals remainder = before.map Numeral.written ++ n.written :: after.map Numeral.written := by
    rw [h.numerals_eq, hnumerals, List.map_append, List.map_cons]
  have hcount : digitCount n.written = n.digits.length := by
    apply h.digitCount_eq
    rw [hnumerals]
    exact List.mem_append_right before List.mem_cons_self
  rw [← hcount]
  refine Reference.parse_of_long hscanned (fun ds hds => ?_) (by rw [hcount]; exact hn)
  obtain ⟨m, hm, rfl⟩ := List.mem_map.mp hds
  have hmember : m ∈ cut.numerals := by
    rw [hnumerals]
    exact List.mem_append_left _ hm
  rw [h.digitCount_eq hmember]
  exact hbefore m hm

/-- **What is read is what the division says.** -/
theorem Cut.Divides.parse_eq : parse remainder = cut.reading := by
  rcases hlong : cut.numerals.find? (fun n => digitLimit < n.digits.length) with _ | n
  · have hreadable : IsReadable remainder := by
      apply h.isReadable
      intro n hn
      simpa using List.find?_eq_none.mp hlong n hn
    rcases hlow : cut.numerals.find? (fun n => n.value < 1) with _ | n
    · have hpos : ∀ k ∈ typedNumbers remainder, 1 ≤ k := by
        rw [h.typedNumbers_eq]
        intro k hk
        obtain ⟨n, hn, rfl⟩ := List.mem_map.mp hk
        simpa using List.find?_eq_none.mp hlow n hn
      rw [Cut.reading, hlong, hlow, parse_of_pos hreadable hpos, h.typedNumbers_eq, typedDescription, h.scan_eq,
        places, List.map_map]
      rfl
    · obtain ⟨hn, before, after, hnumerals, hbefore⟩ := List.find?_eq_some_iff_append.mp hlow
      have htyped : typedNumbers remainder = before.map Numeral.value ++ n.value :: after.map Numeral.value := by
        rw [h.typedNumbers_eq, hnumerals, List.map_append, List.map_cons]
      rw [Cut.reading, hlong, hlow]
      refine parse_of_lt_one hreadable htyped (fun k hk => ?_) (of_decide_eq_true hn)
      obtain ⟨m, hm, rfl⟩ := List.mem_map.mp hk
      simpa using hbefore m hm
  · obtain ⟨hn, before, after, hnumerals, hbefore⟩ := List.find?_eq_some_iff_append.mp hlong
    rw [Cut.reading, hlong]
    refine h.parse_of_long hnumerals (fun m hm => ?_) (of_decide_eq_true hn)
    simpa using hbefore m hm

end read

/-- **A remainder is read by its grammar.** Without the white space at its ends it divides in exactly one way into
delimiters, numerals with delimiters between them and a tail, and what is read is what this division says: if a
numeral has too many digits, the first such is what is wrong; otherwise the first number below 1 is, as zero or as
negative; and if all count from 1, they are places, in their order, and the tail without its quotes is the
description. -/
theorem parse_grammar (remainder : String) :
    (∃! cut : Cut, cut.Divides (Text.strip remainder.toList)) ∧
      ∀ cut : Cut, cut.Divides (Text.strip remainder.toList) → parse remainder = cut.reading := by
  constructor
  · obtain ⟨cut, hcut⟩ := exists_divides (Text.strip remainder.toList)
    exact ⟨cut, hcut, fun other hother => hother.unique hcut⟩
  · intro cut hcut
    exact hcut.parse_eq

/-- The division of a text with two numbers, where a third numeral has letters glued to it. -/
def gluedCut : Cut := ⟨[], [(⟨false, ['2']⟩, ['.']), (⟨false, ['0', '1']⟩, [' '])], ['3', 'r', 'd']⟩

/-- What is glued to digits makes them part of the description. -/
theorem parse_grammar_gluedCut :
    gluedCut.Divides (Text.strip " 2.01 3rd".toList) ∧ parse " 2.01 3rd" = .ok ⟨[1, 0], "3rd"⟩ := by
  have hthird : Numeral.Starts ⟨false, ['3']⟩ ['r', 'd'] :=
    ⟨by decide, List.all_eq_true.mp rfl, fun c hc => by cases hc; rfl⟩
  have htail : IsTail ['3', 'r', 'd'] := by
    refine ⟨fun c hc => by cases hc; rfl, fun n rest hstarts htext => ?_⟩
    obtain ⟨rfl, rfl⟩ := hthird.unique hstarts htext
    exact ⟨'r', rfl, rfl⟩
  have hdivides : gluedCut.Divides (Text.strip " 2.01 3rd".toList) := by
    refine ⟨rfl, fun c hc => absurd hc List.not_mem_nil, ?_⟩
    refine .cons ⟨by decide, List.all_eq_true.mp rfl, fun c hc => by cases hc; rfl⟩
      ⟨List.all_eq_true.mp rfl, fun c hc => by cases hc; rfl⟩ (fun h => absurd h (by decide)) ?_
    exact .cons ⟨by decide, List.all_eq_true.mp rfl, fun c hc => by cases hc; rfl⟩
      ⟨List.all_eq_true.mp rfl, fun c hc => by cases hc; rfl⟩ (fun h => absurd h (by decide)) (.nil htail)
  refine ⟨hdivides, ?_⟩
  rw [(parse_grammar " 2.01 3rd").2 gluedCut hdivides]
  rfl

end Reference

end LifePlan
