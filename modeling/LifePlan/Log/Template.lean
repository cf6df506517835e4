import LifePlan.Log.Datum
import LifePlan.Log.Fraction

/-!
# Message templates

A message may hold places for values, each a per cent sign with a name in brackets, flags, a width, a
precision and a letter that says how the value is written; all but the letter may be missing. The values fill
the places in order, and none may be missing or left over. A place with a name takes its value from a mapping.
-/

namespace LifePlan.Log

/-! ## What can go wrong -/

/-- Why a template cannot be filled. -/
inductive TemplateFlaw where
  /-- The values do not fit the places. -/
  | mismatch
  /-- The mapping has no such name. -/
  | noSuchName
  /-- A number is no character, or is too great for its purpose. -/
  | outOfRange
  /-- The message would be too long to be held. -/
  | tooLong
  /-- The template ends inside a place. -/
  | unfinished
  /-- The template ends inside a name. -/
  | unfinishedName
  /-- A width has too many digits. -/
  | widthTooBig
  /-- A precision has too many digits. -/
  | precisionTooBig
  /-- A place has a letter without meaning, at an index. -/
  | unknownLetter (letter : Char) (index : Nat)
  deriving DecidableEq, Repr

/-- The wording of a flaw. -/
def TemplateFlaw.message : TemplateFlaw → String
  | .mismatch => "not all arguments converted during string formatting"
  | .noSuchName => "unknown name"
  | .outOfRange => "number out of range"
  | .tooLong => "message too long"
  | .unfinished => "incomplete format"
  | .unfinishedName => "incomplete format key"
  | .widthTooBig => "width too big"
  | .precisionTooBig => "precision too big"
  | .unknownLetter c index =>
    "unsupported format character '" ++
      (if 31 ≤ c.toNat ∧ c.toNat < 127 then String.singleton c else "?") ++ "' (0x" ++
      String.ofList (Nat.toDigits 16 c.toNat) ++ ") at index " ++ toString index

/-! ## Places -/

/-- The name of the value for a place. -/
inductive PlaceName where
  | none
  | some (name : String)
  /-- A name whose closing bracket is missing. -/
  | unfinished
  deriving DecidableEq, Repr

/-- A width or a precision. -/
inductive Measure where
  | none
  | digits (n : Nat)
  /-- A star: the next value says it. -/
  | given
  deriving DecidableEq, Repr

/-- What the flags of a place ask for. -/
structure Flags where
  left : Bool
  plus : Bool
  space : Bool
  mark : Bool
  zeros : Bool
  deriving DecidableEq, Repr

/-- The meaning of some flags; a flag may be repeated. -/
def Flags.ofList (flags : List Char) : Flags :=
  ⟨flags.contains '-', flags.contains '+', flags.contains ' ', flags.contains '#', flags.contains '0'⟩

/-- A place for a value. -/
structure Place where
  name : PlaceName
  flags : Flags
  width : Measure
  precision : Measure
  /-- The letter with its index, unless the template ends before it. -/
  letter : Option (Char × Nat)
  deriving Repr

/-- A piece of a template. -/
inductive Piece where
  | plain (c : Char)
  | place (p : Place)
  deriving Repr

/-! ## Reading templates -/

/-- A name up to its closing bracket, and what follows; inside so many further brackets. -/
def closeName : Nat → List Char → Option (List Char × List Char)
  | _, [] => none
  | 0, ')' :: cs => some ([], cs)
  | depth + 1, ')' :: cs => (closeName depth cs).map fun (name, rest) => (')' :: name, rest)
  | depth, c :: cs =>
    (closeName (if c = '(' then depth + 1 else depth) cs).map fun (name, rest) => (c :: name, rest)

/-- The name of a place, if it has one, and what follows. -/
def readName : List Char → PlaceName × List Char
  | '(' :: cs =>
    match closeName 0 cs with
    | some (name, rest) => (.some (String.ofList name), rest)
    | none => (.unfinished, [])
  | cs => (.none, cs)

/-- The number of some digits. -/
def digitsValue (cs : List Char) : Nat := cs.foldl (fun n c => n * 10 + (c.toNat - 48)) 0

/-- A width, or a precision behind its point, and what follows. -/
def readMeasure (cs : List Char) : Measure × List Char :=
  match cs with
  | '*' :: rest => (.given, rest)
  | _ =>
    match cs.takeWhile Char.isDigit with
    | [] => (.none, cs)
    | digits => (.digits (digitsValue digits), cs.dropWhile Char.isDigit)

/-- A precision, if there is a point, and what follows. Without digits it is zero. -/
def readPrecision : List Char → Measure × List Char
  | '.' :: cs =>
    match readMeasure cs with
    | (.none, rest) => (.digits 0, rest)
    | other => other
  | cs => (.none, cs)

/-- What follows a letter that says how great a number may be; it has no meaning. -/
def dropSize : List Char → List Char
  | c :: cs => if c = 'h' ∨ c = 'l' ∨ c = 'L' then cs else c :: cs
  | [] => []

/-- Whether a character is a flag. -/
def isFlag (c : Char) : Bool := "-+ #0".toList.contains c

/-- A place whose per cent sign has been read, and what follows. The whole of what is left of the template
starts at an index. -/
def readPlace (index : Nat) (cs : List Char) : Place × List Char :=
  let (name, rest) := readName cs
  let (width, afterWidth) := readMeasure (rest.dropWhile isFlag)
  let (precision, afterPrecision) := readPrecision afterWidth
  let flags := Flags.ofList (rest.takeWhile isFlag)
  match dropSize afterPrecision with
  | [] => (⟨name, flags, width, precision, none⟩, [])
  | letter :: after =>
    (⟨name, flags, width, precision, some (letter, index + (cs.length - after.length - 1))⟩, after)

/-- The pieces of a template from an index on; each step takes at least one character. -/
def piecesFrom : Nat → Nat → List Char → List Piece
  | 0, _, _ => []
  | _, _, [] => []
  | fuel + 1, index, '%' :: '%' :: cs => .plain '%' :: piecesFrom fuel (index + 2) cs
  | fuel + 1, index, '%' :: cs =>
    let (place, rest) := readPlace (index + 1) cs
    .place place :: piecesFrom fuel (index + 1 + (cs.length - rest.length)) rest
  | fuel + 1, index, c :: cs => .plain c :: piecesFrom fuel (index + 1) cs

/-- The pieces of a template. Two per cent signs stand for one. -/
def pieces (cs : List Char) : List Piece := piecesFrom cs.length 0 cs

/-! ## Values in their places -/

/-- How a value is written, but for its letter. -/
structure Layout where
  flags : Flags
  width : Nat
  precision : Option Nat
  deriving Repr

namespace Layout

/-- A text in its place. -/
def text (l : Layout) (cs : List Char) : List Char :=
  let padding := List.replicate (l.width - cs.length) ' '
  if l.flags.left then cs ++ padding else padding ++ cs

/-- A number in its place, from what stands before its digits and the digits. -/
def number (l : Layout) (negative : Bool) (before digits : List Char) : List Char :=
  let sign := if negative then ['-'] else if l.flags.plus then ['+'] else if l.flags.space then [' '] else []
  let before := sign ++ before
  if l.flags.zeros && !l.flags.left then
    before ++ List.replicate (l.width - before.length - digits.length) '0' ++ digits
  else l.text (before ++ digits)

/-- A whole number in its place; its precision is the least number of its digits. -/
def whole (l : Layout) (before : List Char) (base : Nat) (n : Int) : List Char :=
  let digits := Nat.toDigits base n.natAbs
  l.number (n < 0) (if l.flags.mark then before else [])
    (List.replicate (l.precision.getD 0 - digits.length) '0' ++ digits)

end Layout

/-- The value as a character. -/
def Datum.char (d : Datum) : Except TemplateFlaw Char :=
  match d with
  | .text s =>
    match s.toList with
    | [c] => .ok c
    | _ => .error .mismatch
  | d =>
    match d.number? with
    | some n => if 0 ≤ n ∧ n < 0x110000 then .ok (Char.ofNat n.toNat) else .error .outOfRange
    | none => .error .mismatch

/-- The greatest precision of a whole number. -/
def wholePrecisionLimit : Nat := (1 <<< 31) - 4

/-- A value in its place, for a letter at an index. -/
def Layout.fill (l : Layout) (letter : Char) (index : Nat) (d : Datum) : Except TemplateFlaw (List Char) :=
  let cut (s : String) : List Char := l.text (s.toList.take (l.precision.getD s.length))
  let whole (before : List Char) (base : Nat) : Except TemplateFlaw (List Char) :=
    match d.number? with
    | some n =>
      if wholePrecisionLimit < l.precision.getD 0 then .error .outOfRange else .ok (l.whole before base n)
    | none => .error .mismatch
  let fraction (style : Nat → Nat → List Char) : Except TemplateFlaw (List Char) :=
    match d.number? with
    | some n =>
      let magnitude := Rounding.kept n.natAbs 1
      if magnitude ≥ Rounding.limit then .error .outOfRange
      else .ok (l.number (n < 0) [] (style (l.precision.getD 6) magnitude))
    | none => .error .mismatch
  match letter with
  | 's' => .ok (cut d.shown)
  | 'r' => .ok (cut d.literal)
  | 'a' => .ok (cut d.asciiLiteral)
  | 'd' => whole [] 10
  | 'i' => whole [] 10
  | 'u' => whole [] 10
  | 'x' => whole ['0', 'x'] 16
  | 'X' => (whole ['0', 'x'] 16).map (List.map Char.toUpper)
  | 'o' => whole ['0', 'o'] 8
  | 'f' => fraction (Fraction.fixed l.flags.mark)
  | 'F' => fraction (Fraction.fixed l.flags.mark)
  | 'e' => fraction (Fraction.withExponent l.flags.mark 'e')
  | 'E' => fraction (Fraction.withExponent l.flags.mark 'E')
  | 'g' => fraction (Fraction.general l.flags.mark 'e')
  | 'G' => fraction (Fraction.general l.flags.mark 'E')
  | 'c' => d.char.map fun c => l.text [c]
  | c => .error (.unknownLetter c index)

/-! ## Filling -/

/-- The values that are at hand: those that have not been used, and a mapping for the places with names. -/
structure Values where
  rest : List Datum
  named : Option (List (String × Datum))

namespace Values

/-- The values for a message. A single mapping that has members is for the places with names. -/
def ofList : List Datum → Values
  | [.mapping (m :: ms)] => ⟨[.mapping (m :: ms)], some (m :: ms)⟩
  | ds => ⟨ds, none⟩

/-- The next value. -/
def next (v : Values) : Except TemplateFlaw (Datum × Values) :=
  match v.rest with
  | d :: ds => .ok (d, { v with rest := ds })
  | [] => .error .mismatch

/-- The values for a place: with a name, only the one that has it. -/
def under (v : Values) : PlaceName → Except TemplateFlaw Values
  | .none => .ok v
  | .some name =>
    match v.named with
    | some members =>
      match members.lookup name with
      | some d => .ok { v with rest := [d] }
      | none => .error .noSuchName
    | none => .error .mismatch
  | .unfinished => .error (if v.named.isSome then .unfinishedName else .mismatch)

/-- The number that the next value is, if it is within limits. -/
def nextNumber (v : Values) (limit : Nat) : Except TemplateFlaw (Int × Values) := do
  let (d, v) ← v.next
  match d.number? with
  | some n => if -(limit : Int) ≤ n ∧ n < limit then return (n, v) else .error .outOfRange
  | none => .error .mismatch

end Values

/-- One more than the greatest width. -/
def widthLimit : Nat := 1 <<< 63

/-- One more than the greatest precision. -/
def precisionLimit : Nat := 1 <<< 31

/-- The greatest width for which a message can be held. -/
def lengthLimit : Nat := 1 <<< 30

/-- The layout of a place, whose width and precision may be the next values. A width below zero asks for the
left, and counts only if its opposite is no more than a width can be. A precision below zero is zero. -/
def Place.layout (p : Place) (v : Values) : Except TemplateFlaw (Layout × Values) := do
  let (left, width, v) ←
    match p.width with
    | .none => pure (p.flags.left, 0, v)
    | .digits n => if n < widthLimit then pure (p.flags.left, n, v) else .error .widthTooBig
    | .given => do
      let (n, v) ← v.nextNumber widthLimit
      pure (p.flags.left || n < 0, if n.natAbs < widthLimit then n.natAbs else 0, v)
  let (precision, v) ←
    match p.precision with
    | .none => pure (none, v)
    | .digits n => if n < precisionLimit then pure (some n, v) else .error .precisionTooBig
    | .given => do
      let (n, v) ← v.nextNumber precisionLimit
      pure (some n.toNat, v)
  return (⟨{ p.flags with left := left }, width, precision⟩, v)

/-- Fills a place. -/
def Place.fill (p : Place) (v : Values) : Except TemplateFlaw (List Char × Values) := do
  let v ← v.under p.name
  let (layout, v) ← p.layout v
  match p.letter with
  | none => .error .unfinished
  | some (letter, index) =>
    let (d, v) ← v.next
    let bare ← { layout with width := 0 }.fill letter index d
    if lengthLimit < layout.width ∧ bare.length < layout.width then .error .tooLong
    else return (← layout.fill letter index d, v)

/-- Fills the pieces of a template in order. -/
def fillPieces : List Piece → Values → Except TemplateFlaw (List Char)
  | [], v => if v.rest = [] ∨ v.named.isSome then .ok [] else .error .mismatch
  | .plain c :: ps, v => do
    let rest ← fillPieces ps v
    return c :: rest
  | .place p :: ps, v => do
    let (cs, v) ← p.fill v
    let rest ← fillPieces ps v
    return cs ++ rest

/-- The message of a template and the values for its places. Without values the template is the message. -/
def fill (template : String) (values : List Datum) : Except TemplateFlaw String :=
  match values with
  | [] => .ok template
  | _ => do
    let cs ← fillPieces (pieces template.toList) (.ofList values)
    return String.ofList cs

end LifePlan.Log
