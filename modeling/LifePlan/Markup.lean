/-!
# Console markup

A line for the console may hold tags in square brackets, such as `[red]` and `[/red]`. A bracket group
opens with one of the letters a to z or `#`, `/`, `@` after the bracket, holds no other opening bracket
and ends at the first closing bracket. Backslashes in front of a group are read in pairs, each pair
giving one backslash, and a backslash that is left over makes the group plain text. A backslash in front
of any other opening bracket vanishes.

`escape` prepares a text so that its own groups are shown and not obeyed.
-/

namespace LifePlan

namespace Markup

/-! ## Groups -/

/-- The characters that may stand first in a bracket group. -/
def opensTag (c : Char) : Bool :=
  ('a' ≤ c && c ≤ 'z') || c == '#' || c == '/' || c == '@'

/-- Whether a text runs to a closing bracket without meeting an opening one. -/
def closes : List Char → Bool
  | [] => false
  | c :: cs => if c = ']' then true else if c = '[' then false else closes cs

/-- Whether a text, as it stands after an opening bracket, makes it the start of a group. -/
def opensGroup : List Char → Bool
  | [] => false
  | c :: cs => opensTag c && closes cs

/-! ## Escaping -/

/-- Doubles the backslashes in front of every group and adds one. The backslashes that have just been
passed are counted. -/
def escapeGroups (slashes : Nat) : List Char → List Char
  | [] => List.replicate slashes '\\'
  | c :: cs =>
    if c = '\\' then escapeGroups (slashes + 1) cs
    else if c = '[' ∧ opensGroup cs then
      List.replicate (2 * slashes + 1) '\\' ++ '[' :: escapeGroups 0 cs
    else List.replicate slashes '\\' ++ c :: escapeGroups 0 cs

/-- A text that ends in exactly one backslash gets a second one, so that it does not reach for what
follows. -/
def closeSlash (cs : List Char) : List Char :=
  match cs.reverse with
  | ['\\'] => ['\\', '\\']
  | '\\' :: c :: _ => if c = '\\' then cs else cs ++ ['\\']
  | _ => cs

/-- The text as markup that shows it. -/
def escape (cs : List Char) : List Char := closeSlash (escapeGroups 0 cs)

/-! ## Reading markup -/

/-- What markup is made of. -/
inductive Atom where
  /-- A character that is shown. -/
  | glyph (c : Char)
  /-- A tag, without its brackets. -/
  | tag (body : List Char)
  deriving DecidableEq, Repr

/-- Where a reader of markup stands: outside a group after some backslashes, or inside a group, whose
characters so far are kept backwards. -/
inductive Place where
  | outside (slashes : Nat)
  | inside (body : List Char)
  deriving DecidableEq, Repr

/-- Some backslashes, shown. -/
def slashGlyphs (n : Nat) : List Atom := List.replicate n (.glyph '\\')

/-- The atoms of markup, read from a place. Inside a plain group nothing needs to be remembered, since the
group's characters are shown one by one and its only opening bracket is the first one. -/
def atoms : Place → List Char → List Atom
  | .outside slashes, [] => slashGlyphs slashes
  | .inside body, [] => (body.reverse).map .glyph
  | .outside slashes, c :: cs =>
    if c = '\\' then atoms (.outside (slashes + 1)) cs
    else if c = '[' then
      if opensGroup cs then
        if slashes % 2 = 1 then slashGlyphs (slashes / 2) ++ .glyph '[' :: atoms (.outside 0) cs
        else slashGlyphs (slashes / 2) ++ atoms (.inside []) cs
      else slashGlyphs (slashes - 1) ++ .glyph '[' :: atoms (.outside 0) cs
    else slashGlyphs slashes ++ .glyph c :: atoms (.outside 0) cs
  | .inside body, c :: cs =>
    if c = ']' then .tag body.reverse :: atoms (.outside 0) cs
    else atoms (.inside (c :: body)) cs

/-- Reads markup. -/
def read (cs : List Char) : List Atom := atoms (.outside 0) cs

/-- Markup around a text: the tag `name` is on for it. -/
def styled (name text : List Char) : List Char :=
  '[' :: name ++ ']' :: text ++ '[' :: '/' :: name ++ [']']

end Markup

end LifePlan
