import LifePlan.Text.Literal

/-!
# JSON texts

How a text stands between the quotes of a JSON document. A quote, a backslash and the control characters
are escaped; every other character stands for itself. A reader also takes the escapes of a slash and of
any UTF-16 code unit, a surrogate only in a pair.
-/

namespace LifePlan.Json

/-! ## Writing -/

/-- A character between the quotes. -/
def escapeChar (c : Char) : List Char :=
  if c = '"' then ['\\', '"']
  else if c = '\\' then ['\\', '\\']
  else if c = '\n' then ['\\', 'n']
  else if c = '\r' then ['\\', 'r']
  else if c = '\t' then ['\\', 't']
  else if c.toNat = 8 then ['\\', 'b']
  else if c.toNat = 12 then ['\\', 'f']
  else if c.toNat < 32 then '\\' :: 'u' :: Text.hex 4 c.toNat
  else [c]

/-- A text between the quotes. -/
def escape (cs : List Char) : List Char := cs.flatMap escapeChar

@[simp] theorem escape_nil : escape [] = [] := rfl

@[simp] theorem escape_cons (c : Char) (cs : List Char) :
    escape (c :: cs) = escapeChar c ++ escape cs := rfl

/-! ## Reading -/

/-- The value of a hexadecimal digit, in either case. -/
def hexValue? (c : Char) : Option Nat :=
  if '0' ≤ c ∧ c ≤ '9' then some (c.toNat - 48)
  else if 'a' ≤ c ∧ c ≤ 'f' then some (c.toNat - 87)
  else if 'A' ≤ c ∧ c ≤ 'F' then some (c.toNat - 55)
  else none

/-- The code unit of four hexadecimal digits. -/
def codeUnit? (a b c d : Char) : Option Nat := do
  let a ← hexValue? a
  let b ← hexValue? b
  let c ← hexValue? c
  let d ← hexValue? d
  return ((a * 16 + b) * 16 + c) * 16 + d

/-- The character that a letter stands for after a backslash. -/
def shortEscape? (c : Char) : Option Char :=
  match c with
  | '"' => some '"'
  | '\\' => some '\\'
  | '/' => some '/'
  | 'b' => some '\x08'
  | 'f' => some '\x0c'
  | 'n' => some '\n'
  | 'r' => some '\r'
  | 't' => some '\t'
  | _ => none

/-- Whether a code unit is the first of a surrogate pair. -/
def isHighSurrogate (n : Nat) : Bool := 0xD800 ≤ n && n < 0xDC00

/-- Whether a code unit is the second of a surrogate pair. -/
def isLowSurrogate (n : Nat) : Bool := 0xDC00 ≤ n && n < 0xE000

/-- The text that stands between two quotes. A high surrogate that still waits for its partner is given. -/
def unescapeAfter (high : Option Nat) : List Char → Option (List Char)
  | [] => if high.isNone then some [] else none
  | '\\' :: 'u' :: a :: b :: c :: d :: cs => do
    let unit ← codeUnit? a b c d
    match high with
    | some h =>
      if isLowSurrogate unit then
        let rest ← unescapeAfter none cs
        return Char.ofNat (0x10000 + (h - 0xD800) * 0x400 + (unit - 0xDC00)) :: rest
      else none
    | none =>
      if isHighSurrogate unit then unescapeAfter (some unit) cs
      else if isLowSurrogate unit then none
      else
        let rest ← unescapeAfter none cs
        return Char.ofNat unit :: rest
  | '\\' :: c :: cs => do
    if high.isSome then none
    else
      let c ← shortEscape? c
      let rest ← unescapeAfter none cs
      return c :: rest
  | c :: cs => do
    if high.isSome || c = '\\' || c = '"' || c.toNat < 32 then none
    else
      let rest ← unescapeAfter none cs
      return c :: rest

/-- The text that stands between two quotes. -/
def unescape (cs : List Char) : Option (List Char) := unescapeAfter none cs

end LifePlan.Json
