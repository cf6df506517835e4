import LifePlan.Text.CaseTable
import LifePlan.Text.PrintTable

/-!
# Spelled-out texts

A text between quotes, as messages show a name that was not understood: single quotes, or double ones
if the text has single quotes and no double ones; unprintable characters by their code.
-/

namespace LifePlan.Text

/-- Whether the character can be shown as it is. -/
def isPrintable (c : Char) : Bool := !inRuns unprintableRuns c.toNat

/-- One hexadecimal digit. -/
def hexDigit (n : Nat) : Char :=
  if n < 10 then Char.ofNat (48 + n) else Char.ofNat (87 + n)

/-- The last `width` hexadecimal digits of a number. -/
def hex : Nat → Nat → List Char
  | 0, _ => []
  | width + 1, n => hex width (n / 16) ++ [hexDigit (n % 16)]

/-- A character of a text between the given quotes, if some characters are shown as they are. -/
def spellChar (isShown : Char → Bool) (quote c : Char) : List Char :=
  if c = quote ∨ c = '\\' then ['\\', c]
  else if c = '\t' then ['\\', 't']
  else if c = '\n' then ['\\', 'n']
  else if c = '\r' then ['\\', 'r']
  else if isShown c then [c]
  else if c.toNat < 0x100 then '\\' :: 'x' :: hex 2 c.toNat
  else if c.toNat < 0x10000 then '\\' :: 'u' :: hex 4 c.toNat
  else '\\' :: 'U' :: hex 8 c.toNat

/-- The text between quotes, if some characters are shown as they are. -/
def spellWith (isShown : Char → Bool) (cs : List Char) : List Char :=
  let quote := if cs.contains '\'' && !cs.contains '"' then '"' else '\''
  quote :: cs.flatMap (spellChar isShown quote) ++ [quote]

/-- The text between quotes. -/
def spell (cs : List Char) : List Char := spellWith isPrintable cs

/-- The text between quotes, in ASCII. -/
def spellAscii (cs : List Char) : List Char := spellWith (fun c => 31 < c.toNat && c.toNat < 127) cs

end LifePlan.Text
