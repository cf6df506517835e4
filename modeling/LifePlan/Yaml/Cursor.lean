/-!
# Places in a document

Where a reader stands in a YAML document, and the classes of characters that matter to it.
-/

namespace LifePlan.Yaml

/-! ## Characters -/

/-- Whether a character ends a line. -/
def isBreak (c : Char) : Bool := c == '\n' || c.toNat == 0x85 || c.toNat == 0x2028 || c.toNat == 0x2029

/-- Whether a character stands between tokens. -/
def isSeparator (c : Char) : Bool := c == ' ' || c == '\t' || isBreak c

/-- Whether a character is a blank or ends a line. -/
def isBlankOrBreak (c : Char) : Bool := c == ' ' || isBreak c

/-- Whether a character may stand in the name of an anchor, of a directive or of a group of tags. -/
def isNameChar (c : Char) : Bool := c.isAlphanum || c == '-' || c == '_'

/-- Whether a document may hold a character. -/
def isAllowed (c : Char) : Bool :=
  let n := c.toNat
  n == 9 || n == 10 || n == 13 || (0x20 ≤ n && n ≤ 0x7E) || n == 0x85 || (0xA0 ≤ n && n ≤ 0xFFFD) ||
    0x10000 ≤ n

/-- Whether there is a character of a class, or none at all. -/
def isEndOr (isIn : Char → Bool) (c : Option Char) : Bool := (c.map isIn).getD true

/-! ## Cursors -/

/-- A place in a document, with the characters from there on. -/
structure Cursor where
  index : Nat
  line : Nat
  column : Nat
  rest : List Char
  deriving Repr

namespace Cursor

/-- The start of a document. -/
def start (cs : List Char) : Cursor := ⟨0, 0, 0, cs⟩

/-- The place after the next character. A byte order mark takes no column. -/
def next (c : Cursor) : Cursor :=
  match c.rest with
  | [] => c
  | char :: rest =>
    if isBreak char then ⟨c.index + 1, c.line + 1, 0, rest⟩
    else ⟨c.index + 1, c.line, if char.toNat = 0xFEFF then c.column else c.column + 1, rest⟩

/-- The place after so many characters. -/
def advance : Nat → Cursor → Cursor
  | 0, c => c
  | n + 1, c => advance n c.next

/-- The next character. -/
def peek (c : Cursor) : Option Char := c.rest.head?

/-- The character after some others. -/
def peekAt (c : Cursor) (n : Nat) : Option Char := (c.rest.drop n).head?

/-- The next characters, as long as they are of a class. -/
def run (c : Cursor) (isIn : Char → Bool) : List Char := c.rest.takeWhile isIn

/-- The place after all characters of a class. -/
def skipWhile (c : Cursor) (isIn : Char → Bool) : Cursor := c.advance (c.run isIn).length

/-- The place after blanks. -/
def skipBlanks (c : Cursor) : Cursor := c.skipWhile (· == ' ')

/-- The place after a comment, if there is one. -/
def skipComment (c : Cursor) : Cursor :=
  if c.peek = some '#' then c.skipWhile fun d => !isBreak d else c

/-- The place after blanks, comments and line breaks; each step takes at least a line. -/
def skipLines : Nat → Cursor → Cursor
  | 0, c => c
  | fuel + 1, c =>
    let c := c.skipBlanks.skipComment
    match c.peek with
    | some d => if isBreak d then skipLines fuel c.next else c
    | none => c

/-- The place of the next token. A byte order mark may start the document. -/
def toToken (c : Cursor) : Cursor :=
  let c := if c.index = 0 ∧ c.peek = some '\ufeff' then c.next else c
  c.skipLines (c.rest.length + 1)

/-- Whether a mark of three characters stands here by itself. -/
def hasMark (c : Cursor) (mark : String) : Bool :=
  c.rest.take 3 = mark.toList && isEndOr isSeparator (c.peekAt 3)

/-- Whether a mark stands here that starts or ends a document. -/
def isBoundary (c : Cursor) : Bool := c.hasMark "---" || c.hasMark "..."

end Cursor

/-- What a line break reads as: the ones of Unicode stay, all others are a line feed. -/
def breakChar (c : Char) : Char := if c.toNat = 0x2028 ∨ c.toNat = 0x2029 then c else '\n'

end LifePlan.Yaml
