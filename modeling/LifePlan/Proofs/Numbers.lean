import LifePlan.Proofs.Reference
import LifePlan.Proofs.Text.Quoted

/-!
# Numbers and descriptions that are put together

The scanner and the texts that are made of numerals: numerals with delimiters between them (`Joined`) are the
numerals that are found (`scan_joined`), and a text between quotes behind them is what is left. So the remainder
`2.1 "walk to work"` says just the numbers and the description it was put together from, whichever delimiters
there are and whatever the description holds (`typedNumbers_plain` and `typedNumbers_described`, with what
follows each of them).
-/

namespace LifePlan

namespace Reference

open Text (IsFirm strip strip_strip unquote)

variable {ds sep text tail description : List Char} {numerals : List (List Char)} {c : Char}

/-! ## Texts of numerals -/

/-- A numeral without a sign: there are digits, however many. -/
structure IsNumeral (ds : List Char) : Prop where
  ne_nil : ds ≠ []
  digits : ∀ c ∈ ds, c.isDigit = true

/-- A text of numerals, with one or more delimiters between each of them and the next. -/
inductive Joined : List (List Char) → List Char → Prop
  | none : Joined [] []
  | one (ds : List Char) : Joined [ds] ds
  | more {ds next sep text : List Char} {numerals : List (List Char)} (hne : sep ≠ [])
      (hsep : ∀ c ∈ sep, isDelimiter c = true) (h : Joined (next :: numerals) text) :
      Joined (ds :: next :: numerals) (ds ++ (sep ++ text))

/-! ## Characters -/

/-- The range of the digits. -/
theorem toNat_of_isDigit (h : c.isDigit = true) : 48 ≤ c.toNat ∧ c.toNat ≤ 57 := by
  simpa [Char.isDigit, UInt32.le_iff_toNat_le] using h

/-- A digit is no white space. -/
theorem isBlank_of_isDigit (h : c.isDigit = true) : Text.isBlank c = false := by
  have hrange := toNat_of_isDigit h
  simp only [Text.isBlank]
  simp
  omega

/-- A delimiter is neither a digit nor a minus sign. -/
theorem of_isDelimiter (h : isDelimiter c = true) : c.isDigit = false ∧ c ≠ '-' := by
  simp only [isDelimiter, Bool.or_eq_true, beq_iff_eq] at h
  rcases h with ((((((rfl | rfl) | rfl) | rfl) | rfl) | rfl) | rfl) | rfl <;> exact ⟨rfl, by decide⟩

/-! ## The scanner -/

/-- Digits go on with what has been begun. -/
theorem scan_digits (hds : ∀ c ∈ ds, c.isDigit = true) (begun tail : List Char) :
    scan begun (ds ++ tail) = scan (ds.reverse ++ begun) tail := by
  induction ds generalizing begun with
  | nil => rfl
  | cons d ds ih =>
    rw [List.forall_mem_cons] at hds
    rw [List.cons_append, scan, if_pos hds.1, ih hds.2, List.reverse_cons, List.append_assoc]
    rfl

/-- A delimiter where nothing has been begun is passed over. -/
theorem scan_delimiter (h : isDelimiter c = true) (tail : List Char) : scan [] (c :: tail) = scan [] tail := by
  obtain ⟨hdigit, hminus⟩ := of_isDelimiter h
  rw [scan, if_neg (by rw [hdigit]; exact Bool.false_ne_true), if_neg (fun hc => hminus hc.1),
    if_pos ⟨h, List.cons_ne_nil '-' [] ∘ Eq.symm⟩, if_pos rfl]

/-- So are several of them. -/
theorem scan_delimiters (h : ∀ c ∈ sep, isDelimiter c = true) (tail : List Char) :
    scan [] (sep ++ tail) = scan [] tail := by
  induction sep with
  | nil => rfl
  | cons c sep ih =>
    rw [List.forall_mem_cons] at h
    rw [List.cons_append, scan_delimiter h.1, ih h.2]

/-- What has been begun is closed by a delimiter or by the end of the text, unless it is a minus sign alone. -/
theorem scan_close {begun : List Char} (hbegun : begun ≠ []) (hminus : begun ≠ ['-'])
    (htail : ∀ c ∈ tail.head?, isDelimiter c = true) :
    scan begun tail = (begun.reverse :: (scan [] tail).1, (scan [] tail).2) := by
  rcases tail with _ | ⟨c, tail⟩
  · rw [scan, if_neg (fun h => h.elim hbegun hminus)]
    rfl
  · have hc := htail c rfl
    obtain ⟨hdigit, hsign⟩ := of_isDelimiter hc
    rw [scan, if_neg (by rw [hdigit]; exact Bool.false_ne_true), if_neg (fun h => hsign h.1),
      if_pos ⟨hc, hminus⟩, if_neg hbegun, scan_delimiter hc]

/-- A minus sign alone has no digit. -/
theorem ne_minus_of_digits (hds : ∀ c ∈ ds, c.isDigit = true) : ds ≠ ['-'] := by
  rintro rfl
  cases hds '-' List.mem_cons_self

/-- **A numeral is found** if the text ends behind it or a delimiter follows. -/
theorem scan_numeral (hne : ds ≠ []) (hds : ∀ c ∈ ds, c.isDigit = true)
    (htail : ∀ c ∈ tail.head?, isDelimiter c = true) :
    scan [] (ds ++ tail) = (ds :: (scan [] tail).1, (scan [] tail).2) := by
  have hbegun : ds.reverse ≠ [] := fun h => hne (List.reverse_eq_nil_iff.mp h)
  have hminus : ds.reverse ≠ ['-'] := ne_minus_of_digits fun c hc => hds c (List.mem_reverse.mp hc)
  rw [scan_digits hds, List.append_nil, scan_close hbegun hminus htail, List.reverse_reverse]

/-- **The numerals that a text is made of are found.** -/
theorem scan_joined (h : Joined numerals text) (hnumerals : ∀ ds ∈ numerals, IsNumeral ds)
    (htail : ∀ c ∈ tail.head?, isDelimiter c = true) :
    scan [] (text ++ tail) = (numerals ++ (scan [] tail).1, (scan [] tail).2) := by
  induction h with
  | none => rfl
  | one ds =>
    have hds := hnumerals ds List.mem_cons_self
    exact scan_numeral hds.ne_nil hds.digits htail
  | @more ds next sep text numerals hne hsep h ih =>
    rw [List.forall_mem_cons] at hnumerals
    have hhead : ∀ c ∈ (sep ++ (text ++ tail)).head?, isDelimiter c = true := by
      intro c hc
      rcases sep with _ | ⟨s, sep⟩
      · exact absurd rfl hne
      · cases hc
        exact hsep _ List.mem_cons_self
    rw [List.append_assoc, List.append_assoc, scan_numeral hnumerals.1.ne_nil hnumerals.1.digits hhead,
      scan_delimiters hsep, ih hnumerals.2]
    rfl

/-! ## The ends of a text -/

/-- A text that starts with a numeral has something in it, and its first character is a digit. -/
theorem IsNumeral.head_append (h : IsNumeral ds) (tail : List Char) :
    ∃ c, (ds ++ tail).head? = some c ∧ c.isDigit = true := by
  rcases ds with _ | ⟨d, ds⟩
  · exact absurd rfl h.ne_nil
  · exact ⟨d, rfl, h.digits d List.mem_cons_self⟩

/-- A text of numerals starts and ends with a digit, unless there are none. -/
theorem Joined.ends (h : Joined numerals text) (hnumerals : ∀ ds ∈ numerals, IsNumeral ds) :
    text = [] ∨ ∃ first last, text.head? = some first ∧ first.isDigit = true ∧
      text.getLast? = some last ∧ last.isDigit = true := by
  induction h with
  | none => exact .inl rfl
  | one ds =>
    have hds := hnumerals ds List.mem_cons_self
    obtain ⟨first, hfirst, hdigit⟩ := hds.head_append []
    rw [List.append_nil] at hfirst
    exact .inr ⟨first, ds.getLast hds.ne_nil, hfirst, hdigit, List.getLast?_eq_some_getLast hds.ne_nil,
      hds.digits _ (List.getLast_mem hds.ne_nil)⟩
  | @more ds next sep text numerals hne hsep h ih =>
    rw [List.forall_mem_cons] at hnumerals
    obtain ⟨first, hfirst, hdigit⟩ := hnumerals.1.head_append (sep ++ text)
    rcases ih hnumerals.2 with hempty | ⟨-, last, -, -, hlast, hlastDigit⟩
    -- the next numeral is not empty, so neither is the text behind the delimiters
    · obtain ⟨_, hnext, -⟩ : ∃ c, text.head? = some c ∧ c.isDigit = true := by
        cases h with
        | one => simpa using (hnumerals.2 next List.mem_cons_self).head_append []
        | more => exact (hnumerals.2 next List.mem_cons_self).head_append _
      rw [hempty] at hnext
      cases hnext
    · refine .inr ⟨first, last, hfirst, hdigit, ?_, hlastDigit⟩
      rw [List.getLast?_append, List.getLast?_append, hlast, Option.some_or, Option.some_or]

/-- **A text of numerals is trimmed.** -/
theorem Joined.strip_eq_self (h : Joined numerals text) (hnumerals : ∀ ds ∈ numerals, IsNumeral ds) :
    strip text = text := by
  rcases h.ends hnumerals with rfl | ⟨first, last, hfirst, hdigit, hlast, hlastDigit⟩
  · rfl
  · refine Text.strip_eq_self (fun c hc => ?_) fun c hc => ?_
    · rw [hfirst] at hc
      cases hc
      exact isBlank_of_isDigit hdigit
    · rw [hlast] at hc
      cases hc
      exact isBlank_of_isDigit hlastDigit

/-! ## Remainders that are put together -/

/-- A description between quotes. -/
def quoted (description : List Char) : List Char := '"' :: (description ++ ['"'])

/-- It is what is left of it without the quotes. -/
theorem unquote_quoted (h : IsFirm description) : unquote (quoted description) = description :=
  @Text.unquote_append description ['"'] ['"'] (List.forall_mem_singleton.mpr rfl) h
    (List.forall_mem_singleton.mpr rfl)

/-- No numeral is found in a description between quotes. -/
theorem scan_quoted (description : List Char) : scan [] (quoted description) = ([], quoted description) := rfl

/-- Nothing but numerals: they are found, and nothing is left. -/
theorem scan_plain (h : Joined numerals text) (hnumerals : ∀ ds ∈ numerals, IsNumeral ds) :
    scan [] (strip text) = (numerals, []) := by
  have hscan := @scan_joined text [] numerals h hnumerals fun c hc => by cases hc
  rw [List.append_nil] at hscan
  rw [h.strip_eq_self hnumerals, hscan]
  simp [scan]

/-- A text that ends with a description between quotes ends with a quote. -/
theorem last_append_quoted (text description : List Char) :
    ∀ c ∈ (text ++ quoted description).getLast?, Text.isBlank c = false := by
  intro c hc
  have hlast : (text ++ quoted description).getLast? = some '"' := by
    rw [quoted, ← List.cons_append, ← List.append_assoc, List.getLast?_append]
    rfl
  rw [hlast] at hc
  cases hc
  rfl

/-- **Numerals and a description between quotes**: the numerals are found, and the description is left with
its quotes. -/
theorem scan_described (h : Joined numerals text) (hnumerals : ∀ ds ∈ numerals, IsNumeral ds)
    (description : List Char) :
    scan [] (strip (text ++ ' ' :: quoted description)) = (numerals, quoted description) := by
  have hscan := @scan_joined text (' ' :: quoted description) numerals h hnumerals fun c hc => by cases hc; rfl
  rw [scan_delimiter rfl, scan_quoted, List.append_nil] at hscan
  rcases h.ends hnumerals with rfl | ⟨first, -, hfirst, hdigit, -, -⟩
  -- without numerals the space goes with the white space in front
  · have hquoted : strip (quoted description) = quoted description :=
      Text.strip_eq_self (fun c hc => by cases hc; rfl) (last_append_quoted [] description)
    rw [List.nil_append, scan_delimiter rfl] at hscan
    rw [List.nil_append, Text.strip_cons_of_blank rfl, hquoted, hscan]
  · have hhead : ∀ c ∈ (text ++ ' ' :: quoted description).head?, Text.isBlank c = false := by
      intro c hc
      rw [List.head?_append, hfirst] at hc
      cases hc
      exact isBlank_of_isDigit hdigit
    have hlast : ∀ c ∈ (text ++ ' ' :: quoted description).getLast?, Text.isBlank c = false := by
      rw [List.append_cons]
      exact last_append_quoted _ description
    rw [Text.strip_eq_self hhead hlast, hscan]

/-! ## What they say -/

/-- The remainder that is nothing but numerals. -/
def plain (text : List Char) : String := String.ofList (strip text)

/-- The remainder of numerals and a description between quotes. -/
def described (text description : List Char) : String :=
  String.ofList (strip (text ++ ' ' :: quoted description))

/-- All characters of a numeral without a sign are digits that count. -/
theorem IsNumeral.digitCount_eq (h : IsNumeral ds) : digitCount ds = ds.length := by
  unfold digitCount
  split
  · cases h.digits '-' List.mem_cons_self
  · rfl

section said

variable (h : Joined numerals text) (hnumerals : ∀ ds ∈ numerals, IsNumeral ds)

include h hnumerals

/-- The numerals are what the text was made of. -/
theorem numerals_plain : Reference.numerals (plain text) = numerals := by
  rw [Reference.numerals, plain, String.toList_ofList, strip_strip, scan_plain h hnumerals]

/-- With a description behind them they are the same. -/
theorem numerals_described (description : List Char) :
    Reference.numerals (described text description) = numerals := by
  rw [Reference.numerals, described, String.toList_ofList, strip_strip, scan_described h hnumerals]

/-- So are its numbers. -/
theorem typedNumbers_plain : typedNumbers (plain text) = numerals.map numberOf := by
  rw [typedNumbers, numerals_plain h hnumerals]

theorem typedNumbers_described (description : List Char) :
    typedNumbers (described text description) = numerals.map numberOf := by
  rw [typedNumbers, numerals_described h hnumerals]

/-- Numerals that are short enough make remainders that can be read. -/
theorem isReadable_plain (hshort : ∀ ds ∈ numerals, ds.length ≤ digitLimit) : IsReadable (plain text) := by
  rw [IsReadable, numerals_plain h hnumerals]
  intro ds hds
  rw [(hnumerals ds hds).digitCount_eq]
  exact hshort ds hds

theorem isReadable_described (hshort : ∀ ds ∈ numerals, ds.length ≤ digitLimit) (description : List Char) :
    IsReadable (described text description) := by
  rw [IsReadable, numerals_described h hnumerals]
  intro ds hds
  rw [(hnumerals ds hds).digitCount_eq]
  exact hshort ds hds

/-- Without a description there is none. -/
theorem typedDescription_plain : typedDescription (plain text) = "" := by
  rw [typedDescription, plain, String.toList_ofList, strip_strip, scan_plain h hnumerals]
  rfl

/-- **The description is what was put between quotes**, whatever it holds. -/
theorem typedDescription_described (hdescription : IsFirm description) :
    typedDescription (described text description) = String.ofList description := by
  rw [typedDescription, described, String.toList_ofList, strip_strip, scan_described h hnumerals,
    unquote_quoted hdescription]

end said

end Reference

end LifePlan
