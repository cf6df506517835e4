/-!
# Bytes of a YAML document

Bytes are written as characters of six bits each, four for three bytes. Other characters do not count. The
last group may be short if it is filled up with `=`.
-/

namespace LifePlan.Yaml.Base64

/-- The six bits of a character, if it stands for any. -/
def sextet? (c : Char) : Option Nat :=
  let n := c.toNat
  if 'A'.toNat ≤ n ∧ n ≤ 'Z'.toNat then some (n - 'A'.toNat)
  else if 'a'.toNat ≤ n ∧ n ≤ 'z'.toNat then some (n - 'a'.toNat + 26)
  else if '0'.toNat ≤ n ∧ n ≤ '9'.toNat then some (n - '0'.toNat + 52)
  else if c = '+' then some 62
  else if c = '/' then some 63
  else none

/-- What has been read of a group of four characters. -/
structure Group where
  /-- How many characters with bits. -/
  size : Nat
  /-- How many signs `=` behind them. -/
  filled : Nat
  /-- The bits that are not yet part of a byte. -/
  bits : Nat
  deriving DecidableEq, Repr

/-- A group of which nothing has been read. -/
def Group.empty : Group := ⟨0, 0, 0⟩

/-- The bytes of the rest of a text, when a group has been read in part. The text ends with the first group
that is filled up; if it ends inside of a group there are no bytes. -/
def decodeFrom (g : Group) : List Char → Option (List UInt8)
  | [] => if g.size = 0 then some [] else none
  | c :: cs =>
    if c = '=' then
      if 2 ≤ g.size then
        if 4 ≤ g.size + g.filled + 1 then some [] else decodeFrom { g with filled := g.filled + 1 } cs
      else decodeFrom g cs
    else
      match sextet? c with
      | none => decodeFrom g cs
      | some v =>
        let byte (kept : Nat) : UInt8 := UInt8.ofNat (g.bits * (64 / kept) + v / kept)
        match g.size with
        | 0 => decodeFrom ⟨1, 0, v⟩ cs
        | 1 => (decodeFrom ⟨2, 0, v % 16⟩ cs).map (byte 16 :: ·)
        | 2 => (decodeFrom ⟨3, 0, v % 4⟩ cs).map (byte 4 :: ·)
        | _ => (decodeFrom .empty cs).map (byte 1 :: ·)

/-- The bytes that a text spells. -/
def decode (cs : List Char) : Option (List UInt8) := decodeFrom .empty cs

end LifePlan.Yaml.Base64
