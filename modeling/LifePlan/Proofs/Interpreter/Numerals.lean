import LifePlan.Kind
import LifePlan.Proofs.Numbers

/-!
# The numbers of a place

A place is typed as its indices, each counted from 1 and written in decimal, with points between them
(`numbersOf`). They are numerals with delimiters between them (`joined_numbersOf`, `isNumeral_numeralsOf`), and
what is read from them is the place again (`numberOf_numeralsOf`, `places_map_add_one`), however large the numbers
are. Those of places where records may be added are short enough to be read (`length_numeralsOf_le`).
-/

namespace LifePlan

namespace Interpreter

open Reference (Joined IsNumeral places)

variable {path : Path} {i : Int}

/-! ## One index -/

/-- The number for an index, which counts from 1. -/
def numeralOf (i : Int) : String := toString (i + 1)

/-- It is written in decimal digits. -/
theorem toList_numeralOf (n : Nat) : (numeralOf n).toList = Nat.toDigits 10 (n + 1) := by
  rw [numeralOf, ← Int.natCast_succ]
  change (toString (n + 1)).toList = _
  rw [Nat.toString_eq_ofList_toDigits, String.toList_ofList]

/-- The number of an index is a numeral without a sign. -/
theorem isNumeral_numeralOf (h : 0 ≤ i) : IsNumeral (numeralOf i).toList := by
  obtain ⟨n, rfl⟩ := Int.eq_ofNat_of_zero_le h
  rw [toList_numeralOf]
  exact ⟨Nat.toDigits_ne_nil, fun c hc => Nat.isDigit_of_mem_toDigits (by decide) (by decide) hc⟩

/-- **The numeral writes its number.** -/
theorem numberOf_numeralOf (h : 0 ≤ i) : Reference.numberOf (numeralOf i).toList = i + 1 := by
  have hnumeral := isNumeral_numeralOf h
  obtain ⟨n, rfl⟩ := Int.eq_ofNat_of_zero_le h
  have hvalue : Reference.digitsValue (numeralOf n).toList = n + 1 := by
    rw [toList_numeralOf]
    exact Nat.ofDigitChars_eq_foldl.symm.trans Nat.ofDigitChars_ten_toDigits
  unfold Reference.numberOf
  split
  · next ds hds =>
    rw [hds] at hnumeral
    cases hnumeral.digits '-' List.mem_cons_self
  · exact congrArg Int.ofNat hvalue

/-- The number of an index within a list that is not too long has few enough digits to be read. -/
theorem length_numeralOf_le (hnonneg : 0 ≤ i) (hlt : i < maxChildren) :
    (numeralOf i).toList.length ≤ digitLimit := by
  obtain ⟨n, rfl⟩ := Int.eq_ofNat_of_zero_le hnonneg
  have hall : ∀ n < maxChildren, (numeralOf n).toList.length ≤ digitLimit := by decide
  exact hall n (Int.ofNat_lt.mp hlt)

/-! ## All indices -/

/-- The numerals of a place, in the order of its indices. -/
def numeralsOf (path : Path) : List (List Char) := path.map fun i => (numeralOf i).toList

/-- The numbers of a place, joined by points. -/
def numbersOf (path : Path) : String := ".".intercalate (path.map numeralOf)

/-- The numbers of a place are numerals with delimiters between them. -/
theorem joined_numbersOf (path : Path) :
    Joined (numeralsOf path) (numbersOf path).toList := by
  rw [numeralsOf, numbersOf, String.toList_intercalate, List.map_map]
  induction path with
  | nil => exact .none
  | cons i path ih =>
    rcases path with _ | ⟨j, path⟩
    · rw [List.map_singleton, List.map_singleton, List.intercalate_singleton]
      exact .one _
    · rw [List.map_cons, List.map_cons, List.map_cons, List.map_cons, List.intercalate_cons_cons,
        List.append_assoc]
      exact .more (List.cons_ne_nil '.' []) (List.forall_mem_singleton.mpr rfl) ih

section nonneg

variable (hnonneg : ∀ i ∈ path, 0 ≤ i)

include hnonneg

/-- They are numerals without a sign. -/
theorem isNumeral_numeralsOf : ∀ ds ∈ numeralsOf path, IsNumeral ds := by
  intro ds hds
  obtain ⟨i, hi, rfl⟩ := List.mem_map.mp hds
  exact isNumeral_numeralOf (hnonneg i hi)

/-- They write numbers that count from 1. -/
theorem numberOf_numeralsOf : (numeralsOf path).map Reference.numberOf = path.map (· + 1) := by
  rw [numeralsOf, List.map_map]
  exact List.map_congr_left fun i hi => numberOf_numeralOf (hnonneg i hi)

/-- They are short enough to be read if no list is too long. -/
theorem length_numeralsOf_le (hlt : ∀ i ∈ path, i < maxChildren) :
    ∀ ds ∈ numeralsOf path, ds.length ≤ digitLimit := by
  intro ds hds
  obtain ⟨i, hi, rfl⟩ := List.mem_map.mp hds
  exact length_numeralOf_le (hnonneg i hi) (hlt i hi)

end nonneg

/-- The numbers that count from 1 stand for the place. -/
theorem places_map_add_one (path : Path) : places (path.map (· + 1)) = path := by
  rw [places, List.map_map]
  exact List.map_id'' (fun i => Int.add_sub_cancel i 1) path

end Interpreter

end LifePlan
