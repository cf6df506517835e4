import LifePlan.Text.Blank

/-!
# Numerals

The digits of a numeral may be those of any script, and there may be blanks around it. A numeral may have so
many digits that it is not worth reading.
-/

namespace LifePlan

/-- The most digits of a numeral that are read. -/
def digitLimit : Nat := 4300

/-- The wording for a numeral that is too long. -/
def digitLimitMessage (digits : Nat) : String :=
  "Exceeds the limit (" ++ toString digitLimit ++ " digits) for integer string conversion: value has " ++
    toString digits ++ " digits; use sys.set_int_max_str_digits() to increase the limit"

namespace Text

/-- The zeros of the scripts beyond ASCII; the digits from one to nine follow each of them. -/
def zeros : List Nat :=
  [0x660, 0x6F0, 0x7C0, 0x966, 0x9E6, 0xA66, 0xAE6, 0xB66, 0xBE6, 0xC66, 0xCE6, 0xD66, 0xDE6, 0xE50, 0xED0,
    0xF20, 0x1040, 0x1090, 0x17E0, 0x1810, 0x1946, 0x19D0, 0x1A80, 0x1A90, 0x1B50, 0x1BB0, 0x1C40, 0x1C50,
    0xA620, 0xA8D0, 0xA900, 0xA9D0, 0xA9F0, 0xAA50, 0xABF0, 0xFF10, 0x104A0, 0x10D30, 0x11066, 0x110F0,
    0x11136, 0x111D0, 0x112F0, 0x11450, 0x114D0, 0x11650, 0x116C0, 0x11730, 0x118E0, 0x11950, 0x11C50,
    0x11D50, 0x11DA0, 0x16A60, 0x16AC0, 0x16B50, 0x1D7CE, 0x1D7D8, 0x1D7E2, 0x1D7EC, 0x1D7F6, 0x1E140,
    0x1E2F0, 0x1E950, 0x1FBF0]

/-- A character as it counts in a numeral: beyond ASCII, a blank is a space, and a digit is the ASCII digit
of its value. -/
def inNumeral (c : Char) : Char :=
  if c.toNat < 128 then c
  else if isBlank c then ' '
  else
    match zeros.find? fun z => z ≤ c.toNat && c.toNat < z + 10 with
    | some z => Char.ofNat ('0'.toNat + (c.toNat - z))
    | none => c

/-- Whether a character may stand before and behind a numeral: a space, or an ASCII control from tab to
carriage return. -/
def isAround (c : Char) : Bool := c == ' ' || (9 ≤ c.toNat && c.toNat ≤ 13)

/-- A text as it is read as a numeral, without the blanks around it. -/
def bareNumeral (cs : List Char) : List Char := dropRight isAround ((cs.map inNumeral).dropWhile isAround)

end Text

end LifePlan
