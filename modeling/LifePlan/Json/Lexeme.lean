import LifePlan.Json.Text
import LifePlan.Json.Value

/-!
# The lexemes of a JSON document

A document is cut into marks, quoted texts and bare words. A bare word is a longest run of characters
that are neither white space nor marks nor quotes; it must be `true`, `false`, `null` or a number. The
names `NaN`, `Infinity` and `-Infinity` count as numbers.
-/

namespace LifePlan.Json

/-- A lexeme. -/
inductive Lexeme where
  | openObject
  | closeObject
  | openArray
  | closeArray
  | colon
  | comma
  | text (s : String)
  /-- A value that is a single word. -/
  | word (v : Value)
  deriving Repr

/-! ## Bare words -/

/-- Whether there is at least one digit, and nothing else. -/
def isDigits (cs : List Char) : Bool := !cs.isEmpty && cs.all Char.isDigit

/-- The most digits of an integer part that are read. -/
def integerLimit : Nat := 4300

/-- Whether the text is the part of a number from the exponent mark on, or empty. -/
def isExponent : List Char → Bool
  | [] => true
  | e :: cs =>
    (e == 'e' || e == 'E') &&
      match cs with
      | '+' :: ds => isDigits ds
      | '-' :: ds => isDigits ds
      | ds => isDigits ds

/-- Whether the text is the part of a number after its integer part. -/
def isFraction : List Char → Bool
  | '.' :: cs =>
    isDigits (cs.takeWhile Char.isDigit) && isExponent (cs.dropWhile Char.isDigit)
  | cs => isExponent cs

/-- Whether the text is a number without a sign: an integer part that is not too long, with no zero in front
of another digit, and what may follow it. -/
def isUnsigned (cs : List Char) : Bool :=
  let whole := cs.takeWhile Char.isDigit
  isDigits whole && (whole.length = 1 || whole.head? ≠ some '0') && whole.length ≤ integerLimit &&
    isFraction (cs.dropWhile Char.isDigit)

/-- Whether the text is a number. The sign does not count in the length of an integer part. -/
def isNumber : List Char → Bool
  | '-' :: cs => isUnsigned cs || cs = "Infinity".toList
  | cs => isUnsigned cs || cs = "Infinity".toList || cs = "NaN".toList

/-- The value of a bare word. -/
def wordValue? (cs : List Char) : Option Value :=
  if cs = "true".toList then some (.bool true)
  else if cs = "false".toList then some (.bool false)
  else if cs = "null".toList then some .null
  else if isNumber cs then some (.number (String.ofList cs))
  else none

/-! ## Cutting -/

/-- The white space of a document. -/
def isSpace (c : Char) : Bool := c == ' ' || c == '\t' || c == '\n' || c == '\r'

/-- The lexeme of a mark. -/
def mark? (c : Char) : Option Lexeme :=
  match c with
  | '\x7b' => some .openObject
  | '\x7d' => some .closeObject
  | '[' => some .openArray
  | ']' => some .closeArray
  | ':' => some .colon
  | ',' => some .comma
  | _ => none

/-- Where the cutter stands: between lexemes, in a bare word, in a quoted text, or in a quoted text after a
backslash. What has been read of the lexeme is kept backwards. -/
inductive Spot where
  | between
  | word (read : List Char)
  | quoted (read : List Char)
  | quotedEscape (read : List Char)
  deriving DecidableEq, Repr

/-- The lexemes from a spot on. -/
def cut : Spot → List Char → Option (List Lexeme)
  | .between, [] => some []
  | .word read, [] => (wordValue? read.reverse).map fun v => [.word v]
  | .quoted _, [] => none
  | .quotedEscape _, [] => none
  | .between, c :: cs =>
    if isSpace c then cut .between cs
    else if c = '"' then cut (.quoted []) cs
    else
      match mark? c with
      | some mark => (cut .between cs).map (mark :: ·)
      | none => cut (.word [c]) cs
  | .word read, c :: cs =>
    if isSpace c then do
      let v ← wordValue? read.reverse
      (cut .between cs).map (.word v :: ·)
    else if c = '"' then do
      let v ← wordValue? read.reverse
      (cut (.quoted []) cs).map (.word v :: ·)
    else
      match mark? c with
      | some mark => do
        let v ← wordValue? read.reverse
        (cut .between cs).map fun rest => .word v :: mark :: rest
      | none => cut (.word (c :: read)) cs
  | .quoted read, c :: cs =>
    if c = '"' then do
      let s ← unescape read.reverse
      (cut .between cs).map (.text (String.ofList s) :: ·)
    else if c = '\\' then cut (.quotedEscape (c :: read)) cs
    else cut (.quoted (c :: read)) cs
  | .quotedEscape read, c :: cs => cut (.quoted (c :: read)) cs

/-- The lexemes of a document. -/
def lexemes (document : List Char) : Option (List Lexeme) := cut .between document

end LifePlan.Json
