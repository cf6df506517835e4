import LifePlan.Proofs.Except
import LifePlan.Proofs.Text.Quoted
import LifePlan.Reference

/-!
# What a remainder says

A remainder starts with numerals, and the rest of it is the description. The numbers are first read as they
were typed (`typedNumbers`), whatever they are, and then checked one after the other. So a remainder whose
numerals are short enough to be read (`IsReadable`) is read in one of two ways: either all of its numbers
count from 1 and stand for places (`parse_of_pos`), or the first that does not is the fault
(`parse_of_lt_one`). If a numeral is too long, the first such numeral is what is wrong (`parse_of_long`).
-/

namespace LifePlan

namespace Reference

/-! ## Numerals -/

/-- How many digits a numeral has. -/
def digitCount : List Char → Nat
  | '-' :: ds => ds.length
  | ds => ds.length

/-- The number that a numeral writes, however long it is. -/
def numberOf : List Char → Int
  | '-' :: ds => -(digitsValue ds : Int)
  | ds => digitsValue ds

/-- A numeral that is short enough has its number. -/
theorem numeralValue_of_le {ds : List Char} (h : digitCount ds ≤ digitLimit) :
    numeralValue ds = .ok (numberOf ds) := by
  unfold digitCount at h
  unfold numeralValue numberOf
  split at h
  · simp only [if_neg (Nat.not_lt.mpr h)]
  · next hminus => simp only [if_neg (Nat.not_lt.mpr h)]

/-- A numeral that is too long has none. -/
theorem numeralValue_of_lt {ds : List Char} (h : digitLimit < digitCount ds) :
    numeralValue ds = .error (.tooManyDigits (digitCount ds)) := by
  unfold digitCount at h ⊢
  unfold numeralValue
  split at h
  · simp only [if_pos h]
  · next hminus => simp only [if_pos h]

/-- Numerals that are short enough have their numbers. -/
theorem mapM_numeralValue {numerals : List (List Char)} (h : ∀ ds ∈ numerals, digitCount ds ≤ digitLimit) :
    numerals.mapM numeralValue = .ok (numerals.map numberOf) := by
  induction numerals with
  | nil => rfl
  | cons ds numerals ih =>
    rw [List.forall_mem_cons] at h
    rw [List.mapM_cons, numeralValue_of_le h.1, Except.ok_bind, ih h.2]
    rfl

/-- The first numeral that is too long is what is wrong with all. -/
theorem mapM_numeralValue_of_lt {before after : List (List Char)} {ds : List Char}
    (hbefore : ∀ other ∈ before, digitCount other ≤ digitLimit) (hds : digitLimit < digitCount ds) :
    (before ++ ds :: after).mapM numeralValue = .error (.tooManyDigits (digitCount ds)) := by
  induction before with
  | nil => rw [List.nil_append, List.mapM_cons, numeralValue_of_lt hds, Except.error_bind]
  | cons other before ih =>
    rw [List.forall_mem_cons] at hbefore
    rw [List.cons_append, List.mapM_cons, numeralValue_of_le hbefore.1, Except.ok_bind, ih hbefore.2]
    rfl

/-! ## Checks -/

/-- If not all elements of a list pass, there is a first that does not. -/
theorem exists_first_not {α : Type} {P : α → Prop} {xs : List α} (h : ¬ ∀ x ∈ xs, P x) :
    ∃ before x after, xs = before ++ x :: after ∧ (∀ y ∈ before, P y) ∧ ¬ P x := by
  induction xs with
  | nil => exact absurd (fun _ hx => absurd hx List.not_mem_nil) h
  | cons x xs ih =>
    by_cases hx : P x
    · have hrest : ¬ ∀ y ∈ xs, P y := fun hall => h (List.forall_mem_cons.mpr ⟨hx, hall⟩)
      obtain ⟨before, y, after, rfl, hbefore, hy⟩ := ih hrest
      exact ⟨x :: before, y, after, rfl, List.forall_mem_cons.mpr ⟨hx, hbefore⟩, hy⟩
    · exact ⟨[], x, xs, rfl, fun _ hy => absurd hy List.not_mem_nil, hx⟩

/-- Why a number below 1 cannot be used. -/
def flawOf (n : Int) : NumberFlaw := if n = 0 then .zero else .negative

/-- A number from 1 on passes its check. -/
theorem checkNumber_of_pos {n : Int} (h : 1 ≤ n) : checkNumber n = .ok n := by
  rw [checkNumber, if_neg (by omega), if_neg (by omega)]

/-- A number below 1 is a fault. -/
theorem checkNumber_of_lt_one {n : Int} (h : n < 1) : checkNumber n = .error (.number n (flawOf n)) := by
  unfold checkNumber flawOf
  by_cases hzero : n = 0
  · rw [if_pos hzero, if_pos hzero, hzero]
  · rw [if_neg hzero, if_neg hzero, if_pos (by omega)]

/-- Numbers from 1 on pass their checks. -/
theorem mapM_checkNumber_of_pos {ns : List Int} (h : ∀ n ∈ ns, 1 ≤ n) : ns.mapM checkNumber = .ok ns := by
  induction ns with
  | nil => rfl
  | cons n ns ih =>
    rw [List.forall_mem_cons] at h
    rw [List.mapM_cons, checkNumber_of_pos h.1, Except.ok_bind, ih h.2]
    rfl

/-- The first number below 1 is the fault of all. -/
theorem mapM_checkNumber_of_lt_one {before after : List Int} {n : Int} (hbefore : ∀ m ∈ before, 1 ≤ m)
    (hn : n < 1) : (before ++ n :: after).mapM checkNumber = .error (.number n (flawOf n)) := by
  induction before with
  | nil => rw [List.nil_append, List.mapM_cons, checkNumber_of_lt_one hn, Except.error_bind]
  | cons m before ih =>
    rw [List.forall_mem_cons] at hbefore
    rw [List.cons_append, List.mapM_cons, checkNumber_of_pos hbefore.1, Except.ok_bind, ih hbefore.2]
    rfl

/-- If not all numbers count from 1, there is a first that does not. -/
theorem exists_first_lt_one {ns : List Int} (h : ¬ ∀ n ∈ ns, 1 ≤ n) :
    ∃ before n after, ns = before ++ n :: after ∧ (∀ m ∈ before, 1 ≤ m) ∧ n < 1 := by
  obtain ⟨before, n, after, hns, hbefore, hn⟩ := exists_first_not h
  exact ⟨before, n, after, hns, hbefore, Int.not_le.mp hn⟩

/-- What passes the checks is what was checked, and all of it counts from 1. -/
theorem of_mapM_checkNumber {ns ms : List Int} (h : ns.mapM checkNumber = .ok ms) :
    ms = ns ∧ ∀ n ∈ ns, 1 ≤ n := by
  by_cases hpos : ∀ n ∈ ns, 1 ≤ n
  · rw [mapM_checkNumber_of_pos hpos] at h
    exact ⟨(Except.ok.inj h).symm, hpos⟩
  · obtain ⟨before, n, after, rfl, hbefore, hn⟩ := exists_first_lt_one hpos
    rw [mapM_checkNumber_of_lt_one hbefore hn] at h
    cases h

/-! ## Remainders -/

/-- The numerals at the front of a remainder. -/
def numerals (remainder : String) : List (List Char) := (scan [] (Text.strip remainder.toList)).1

/-- The numbers of a remainder, as they were typed. -/
def typedNumbers (remainder : String) : List Int := (numerals remainder).map numberOf

/-- The description behind the numbers; it may be empty. -/
def typedDescription (remainder : String) : String :=
  String.ofList (Text.unquote (scan [] (Text.strip remainder.toList)).2)

/-- No number of the remainder has more digits than are read. -/
def IsReadable (remainder : String) : Prop := ∀ ds ∈ numerals remainder, digitCount ds ≤ digitLimit

instance (remainder : String) : Decidable (IsReadable remainder) :=
  inferInstanceAs (Decidable (∀ ds ∈ numerals remainder, digitCount ds ≤ digitLimit))

/-- The places that numbers stand for, counted from 0. -/
def places (ns : List Int) : Path := ns.map (· - 1)

/-- There are as many places as numbers. -/
@[simp] theorem length_places (ns : List Int) : (places ns).length = ns.length := List.length_map _

/-- Numbers from 1 on stand for places from 0 on. -/
theorem places_nonneg {ns : List Int} (h : ∀ n ∈ ns, 1 ≤ n) : ∀ i ∈ places ns, 0 ≤ i := by
  intro i hi
  obtain ⟨n, hn, rfl⟩ := List.mem_map.mp hi
  have := h n hn
  omega

/-- Reading a remainder is reading its numbers and checking them in order. -/
theorem parse_of_isReadable {remainder : String} (h : IsReadable remainder) :
    parse remainder =
      (((typedNumbers remainder).mapM checkNumber).mapError .fault).map fun ns =>
        ⟨places ns, typedDescription remainder⟩ := by
  have hvalues := mapM_numeralValue h
  unfold numerals at hvalues
  unfold parse typedNumbers numerals
  simp only [hvalues, Except.mapError_ok, Except.ok_bind]
  rcases (List.map numberOf (scan [] (Text.strip remainder.toList)).1).mapM checkNumber with fault | ns
  · rfl
  · rfl

/-- **Numbers that count from 1 are read as places**, with the description behind them. -/
theorem parse_of_pos {remainder : String} (h : IsReadable remainder)
    (hpos : ∀ n ∈ typedNumbers remainder, 1 ≤ n) :
    parse remainder = .ok ⟨places (typedNumbers remainder), typedDescription remainder⟩ := by
  rw [parse_of_isReadable h, mapM_checkNumber_of_pos hpos]
  rfl

/-- **The first number below 1 is the fault**, whatever follows it. -/
theorem parse_of_lt_one {remainder : String} (h : IsReadable remainder) {before after : List Int} {n : Int}
    (hnumbers : typedNumbers remainder = before ++ n :: after) (hbefore : ∀ m ∈ before, 1 ≤ m)
    (hn : n < 1) : parse remainder = .error (.fault (.number n (flawOf n))) := by
  rw [parse_of_isReadable h, hnumbers, mapM_checkNumber_of_lt_one hbefore hn]
  rfl

/-- **The first numeral that is too long** is what is wrong with a remainder, whatever the other numbers are. -/
theorem parse_of_long {remainder : String} {before after : List (List Char)} {ds : List Char}
    (hnumerals : numerals remainder = before ++ ds :: after)
    (hbefore : ∀ other ∈ before, digitCount other ≤ digitLimit) (hds : digitLimit < digitCount ds) :
    parse remainder = .error (.misuse (.tooManyDigits (digitCount ds))) := by
  have hvalues : (numerals remainder).mapM numeralValue = .error (.tooManyDigits (digitCount ds)) := by
    rw [hnumerals, mapM_numeralValue_of_lt hbefore hds]
  rw [numerals] at hvalues
  unfold parse
  simp only [hvalues]
  rfl

/-- **No place that is read is before the first.** -/
theorem nonneg_of_parse {remainder : String} {reference : Reference} (h : parse remainder = .ok reference) :
    ∀ i ∈ reference.indices, 0 ≤ i := by
  obtain ⟨values, -, h⟩ := Except.bind_eq_ok.mp h
  obtain ⟨ns, hns, h⟩ := Except.bind_eq_ok.mp h
  cases h
  rcases hchecked : values.mapM checkNumber with fault | ms
  · rw [hchecked] at hns
    cases hns
  · rw [hchecked] at hns
    cases hns
    obtain ⟨rfl, hpos⟩ := of_mapM_checkNumber hchecked
    exact places_nonneg hpos

/-- **A description that is read has no white space at its ends**, if there is one. -/
theorem isTidy_of_parse {remainder : String} {reference : Reference} (h : parse remainder = .ok reference)
    (hdescription : reference.description ≠ "") : Text.IsTidy reference.description.toList := by
  obtain ⟨values, -, h⟩ := Except.bind_eq_ok.mp h
  obtain ⟨ns, -, h⟩ := Except.bind_eq_ok.mp h
  cases h
  exact Text.isTidy_ofList_unquote hdescription

end Reference

end LifePlan
