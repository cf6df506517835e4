import LifePlan.Yaml.Cursor
import LifePlan.Yaml.Flaw

/-!
# Scalars of a YAML document

The three ways to write a text: as words without quotes, in either quotes, and as a block of lines. Words and
texts in quotes may go on over several lines; between two of these there is a blank, or one line break less
than was written.
-/

namespace LifePlan.Yaml

/-- A text as it is written in a document. -/
structure Scalar where
  text : List Char
  /-- Whether it is written without quotes. -/
  plain : Bool
  /-- Whether a code in it is only half of a character, so that it is no text elsewhere. -/
  broken : Bool
  deriving DecidableEq, Repr

/-- The text as it is looked at as a word: a line break at its end does not count, but alone it is no word. -/
def Scalar.word (s : Scalar) : List Char :=
  if 1 < s.text.length ∧ s.text.getLast? = some '\n' then s.text.dropLast else s.text

/-! ## Line breaks inside texts -/

/-- What stands between two lines, from the first line break between them and the others. -/
def joinLines (first : Char) (more : List Char) : List Char :=
  if first ≠ '\n' then first :: more else if more = [] then [' '] else more

/-- More line breaks with blanks between them, after those that have been read, which are given backwards. If
a document starts or ends there, there is no telling what they read as. -/
def wordBreaks : Nat → List Char → Cursor → Option (List Char) × Cursor
  | 0, read, c => (some read.reverse, c)
  | fuel + 1, read, c =>
    let c := c.skipBlanks
    match c.peek with
    | some d =>
      if isBreak d then
        if c.next.isBoundary then (none, c.next) else wordBreaks fuel (breakChar d :: read) c.next
      else (some read.reverse, c)
    | none => (some read.reverse, c)

/-- More line breaks inside quotes, after those that have been read, which are given backwards. -/
def quotedBreaks : Nat → List Char → Cursor → Except Flaw (List Char × Cursor)
  | 0, read, c => .ok (read.reverse, c)
  | fuel + 1, read, c =>
    if c.isBoundary then .error .token
    else
      let c := c.skipWhile fun d => d == ' ' || d == '\t'
      match c.peek with
      | some d => if isBreak d then quotedBreaks fuel (breakChar d :: read) c.next else .ok (read.reverse, c)
      | none => .ok (read.reverse, c)

/-! ## Words -/

/-- Whether a character is a mark of its own inside brackets. -/
def isFlowMark (c : Char) : Bool := ",?[]\x7b\x7d".toList.contains c

/-- Whether a word ends at a character, before another one. -/
def endsWord (inFlow : Bool) (c : Char) (next : Option Char) : Bool :=
  isSeparator c ||
    (c == ':' && isEndOr (fun d => isSeparator d || (inFlow && d != '?' && isFlowMark d)) next) ||
    (inFlow && isFlowMark c)

/-- The longest part of a word without separators. -/
def wordPart (inFlow : Bool) : List Char → List Char
  | [] => []
  | c :: cs => if endsWord inFlow c cs.head? then [] else c :: wordPart inFlow cs

/-- Whether a word may start with a character, before another one. -/
def startsWord (inFlow : Bool) (c : Char) (next : Option Char) : Bool :=
  if "-?:".toList.contains c then !isEndOr isSeparator next && (c == '-' || !inFlow)
  else !(isSeparator c || ",[]\x7b\x7d#&*!|>'\"%@\x60".toList.contains c)

/-- What stands behind a part of a word before the next one, as it reads, and the next part's place. -/
def wordGap (c : Cursor) : Option (List Char) × Cursor :=
  let blanks := c.run (· == ' ')
  let c := c.advance blanks.length
  match c.peek with
  | some d =>
    if isBreak d then
      if c.next.isBoundary then (none, c.next)
      else
        let (more, next) := wordBreaks (c.rest.length + 1) [] c.next
        (more.map (joinLines (breakChar d)), next)
    else (if blanks = [] then none else some blanks, c)
  | none => (if blanks = [] then none else some blanks, c)

/-- What is known of a word when it has been read. -/
structure WordEnd where
  text : List Char
  next : Cursor
  /-- Whether the next token is on a later line than the word's last part. -/
  endsLine : Bool
  deriving Repr

/-- The parts of a word. Outside brackets the lines after the first one start at a least column. -/
def wordFrom (inFlow : Bool) (least : Nat) : Nat → Cursor → WordEnd
  | 0, c => ⟨[], c, false⟩
  | fuel + 1, c =>
    let part := wordPart inFlow c.rest
    let after := c.advance part.length
    let (gap?, next) := wordGap after
    let last : WordEnd := ⟨part, next, next.line ≠ after.line⟩
    match gap? with
    | none => last
    | some gap =>
      if next.peek = some '#' || wordPart inFlow next.rest = [] || (!inFlow && next.column < least) then last
      else
        let final := wordFrom inFlow least fuel next
        { final with text := part ++ gap ++ final.text }

/-- A word. -/
def word (inFlow : Bool) (least : Nat) (c : Cursor) : WordEnd := wordFrom inFlow least (c.rest.length + 1) c

/-! ## Texts in quotes -/

/-- What a letter stands for after a backslash. -/
def shortEscape? (c : Char) : Option Char :=
  match c with
  | '0' => some '\x00'
  | 'a' => some '\x07'
  | 'b' => some '\x08'
  | 't' => some '\t'
  | '\t' => some '\t'
  | 'n' => some '\n'
  | 'v' => some '\x0b'
  | 'f' => some '\x0c'
  | 'r' => some '\r'
  | 'e' => some '\x1b'
  | ' ' => some ' '
  | '"' => some '"'
  | '\\' => some '\\'
  | '/' => some '/'
  | 'N' => some '\u0085'
  | '_' => some '\u00a0'
  | 'L' => some '\u2028'
  | 'P' => some '\u2029'
  | _ => none

/-- How many digits of a code follow a letter after a backslash. -/
def codeWidth? (c : Char) : Option Nat :=
  match c with
  | 'x' => some 2
  | 'u' => some 4
  | 'U' => some 8
  | _ => none

/-- The value of a digit to base 16. -/
def hexValue? (c : Char) : Option Nat :=
  if '0' ≤ c ∧ c ≤ '9' then some (c.toNat - 48)
  else if 'a' ≤ c ∧ c ≤ 'f' then some (c.toNat - 87)
  else if 'A' ≤ c ∧ c ≤ 'F' then some (c.toNat - 55)
  else none

/-- The number that some digits to base 16 spell, if all of them are digits. -/
def hexNumber? (cs : List Char) : Option Nat :=
  cs.foldl (fun n c => do return (← n) * 16 + (← hexValue? c)) (some 0)

/-- The character of a code, and whether the code is only half of one. -/
def charOfCode (n : Nat) : Except Flaw (Char × Bool) :=
  if n ≥ 0x80000000 then .error .hugeCode
  else if n ≥ 0x110000 then .error .code
  else if 0xD800 ≤ n ∧ n < 0xE000 then .ok ('\ufffd', true)
  else .ok (Char.ofNat n, false)

/-- What a backslash and what follows it stand for, from the place behind the backslash. -/
def escape (c : Cursor) : Except Flaw ((List Char × Bool) × Cursor) :=
  match c.peek with
  | none => .error .token
  | some d =>
    match shortEscape? d, codeWidth? d with
    | some e, _ => .ok (([e], false), c.next)
    | none, some width =>
      let digits := c.next.rest.take width
      match hexNumber? digits with
      | some n =>
        if digits.length = width then do
          let (e, broken) ← charOfCode n
          return (([e], broken), c.next.advance width)
        else .error .token
      | none => .error .token
    | none, none =>
      if isBreak d then do
        let (breaks, next) ← quotedBreaks (c.rest.length + 1) [] c.next
        return ((breaks, false), next)
      else .error .token

/-- A piece of a text in quotes that is no escape, and the place behind it. -/
def quotedPiece (c : Cursor) (d : Char) : Except Flaw (List Char × Cursor) :=
  if isSeparator d then
    let blanks := c.run fun d => d == ' ' || d == '\t'
    let c := c.advance blanks.length
    match c.peek with
    | some d =>
      if isBreak d then do
        let (more, next) ← quotedBreaks (c.rest.length + 1) [] c.next
        return (joinLines (breakChar d) more, next)
      else .ok (blanks, c)
    | none => .error .token
  else .ok ([d], c.next)

/-- The rest of a text in quotes, whether it is broken, and the place behind it; each step takes a character. -/
def quotedFrom (quote : Char) : Nat → Cursor → Except Flaw ((List Char × Bool) × Cursor)
  | 0, _ => .error .token
  | fuel + 1, c =>
    let goOn (read : List Char) (broken : Bool) (next : Cursor) :
        Except Flaw ((List Char × Bool) × Cursor) := do
      let ((more, brokenLater), final) ← quotedFrom quote fuel next
      return ((read ++ more, broken || brokenLater), final)
    match c.peek with
    | none => .error .token
    | some d =>
      if d = quote then
        if quote = '\'' ∧ c.peekAt 1 = some '\'' then goOn ['\''] false (c.advance 2)
        else .ok (([], false), c.next)
      else if quote = '"' ∧ d = '\\' then do
        let ((read, broken), next) ← escape c.next
        goOn read broken next
      else do
        let (read, next) ← quotedPiece c d
        goOn read false next

/-- A text in quotes, and the place behind it. -/
def quoted (quote : Char) (c : Cursor) : Except Flaw (Scalar × Cursor) := do
  let ((text, broken), next) ← quotedFrom quote (c.rest.length + 1) c.next
  return (⟨text, false, broken⟩, next)

/-! ## Blocks -/

/-- What becomes of the line breaks at the end of a block. -/
inductive Chomp where
  | clip
  | strip
  | keep
  deriving DecidableEq, Repr

/-- What a sign says about the end of a block. -/
def Chomp.ofSign? (c : Char) : Option Chomp :=
  if c = '+' then some .keep else if c = '-' then some .strip else none

/-- How a block is to be read. -/
structure BlockHeader where
  chomp : Chomp
  /-- How many columns its lines are indented, if that is said. -/
  increment : Option Nat
  deriving Repr

/-- The sign, if there is one, and the place behind it. -/
def blockSign (c : Cursor) : Chomp × Cursor :=
  match c.peek.bind Chomp.ofSign? with
  | some chomp => (chomp, c.next)
  | none => (.clip, c)

/-- The digit, if there is one, and the place behind it. It must not be zero. -/
def blockDigit (c : Cursor) : Except Flaw (Option Nat × Cursor) :=
  match c.peek with
  | some d =>
    if d.isDigit then if d = '0' then .error .token else .ok (some (d.toNat - 48), c.next) else .ok (none, c)
  | none => .ok (none, c)

/-- The marks behind the sign of a block, in either order, and the place behind the line. -/
def blockHeader (c : Cursor) : Except Flaw (BlockHeader × Cursor) := do
  let (chomp, next) := blockSign c
  let (increment, next) ← blockDigit next
  let (chomp, next) := if chomp = .clip then blockSign next else (chomp, next)
  if isEndOr isBlankOrBreak next.peek then
    let last := next.skipBlanks.skipComment
    if isEndOr isBreak last.peek then return (⟨chomp, increment⟩, last.next) else .error .token
  else .error .token

/-- The blank lines before the first line of a block, their greatest column, and the first line's place. -/
def blockStart : Nat → List Char → Nat → Cursor → List Char × Nat × Cursor
  | 0, read, most, c => (read.reverse, most, c)
  | fuel + 1, read, most, c =>
    let c := c.skipBlanks
    let most := max most c.column
    match c.peek with
    | some d => if isBreak d then blockStart fuel (breakChar d :: read) most c.next else (read.reverse, most, c)
    | none => (read.reverse, most, c)

/-- The blank lines before a line of a block, whose lines start at a column, and the line's place. -/
def blockBreaks (column : Nat) : Nat → List Char → Cursor → List Char × Cursor
  | 0, read, c => (read.reverse, c)
  | fuel + 1, read, c =>
    let c := c.advance (min (c.run (· == ' ')).length (column - c.column))
    match c.peek with
    | some d => if isBreak d then blockBreaks column fuel (breakChar d :: read) c.next else (read.reverse, c)
    | none => (read.reverse, c)

/-- The lines of a block: their text but for the end, the line break of the last one, and those behind it. -/
structure BlockLines where
  text : List Char
  last : List Char
  breaks : List Char
  deriving Repr

/-- Whether a line starts with a blank. -/
def startsBlank (c : Cursor) : Bool := c.peek = some ' ' || c.peek = some '\t'

/-- The lines of a block from a place on, behind some line breaks. -/
def blockLines (folded : Bool) (column : Nat) : Nat → List Char → Cursor → BlockLines × Cursor
  | 0, breaks, c => (⟨[], [], breaks⟩, c)
  | fuel + 1, breaks, c =>
    if c.column = column ∧ c.peek ≠ none then
      let line := c.run fun d => !isBreak d
      let behind := c.advance line.length
      let last := behind.peek.toList.map breakChar
      let (more, next) := blockBreaks column (c.rest.length + 1) [] behind.next
      if next.column = column ∧ next.peek ≠ none then
        let join :=
          if folded && last = ['\n'] && !startsBlank c && !startsBlank next then
            if more = [] then [' '] else []
          else last
        let (rest, final) := blockLines folded column fuel more next
        ({ rest with text := breaks ++ line ++ join ++ rest.text }, final)
      else (⟨breaks ++ line, last, more⟩, next)
    else (⟨[], [], breaks⟩, c)

/-- A block, and the place behind it. Its lines start at least at a column. -/
def block (folded : Bool) (least : Nat) (c : Cursor) : Except Flaw (Scalar × Cursor) := do
  let (header, start) ← blockHeader c.next
  let fuel := start.rest.length + 1
  let (column, breaks, first) :=
    match header.increment with
    | none =>
      let (breaks, most, first) := blockStart fuel [] 0 start
      (max least most, breaks, first)
    | some increment =>
      let column := least + increment - 1
      let (breaks, first) := blockBreaks column fuel [] start
      (column, breaks, first)
  let (lines, next) := blockLines folded column fuel breaks first
  let text := lines.text ++ (if header.chomp = .strip then [] else lines.last) ++
    (if header.chomp = .keep then lines.breaks else [])
  return (⟨text, false, false⟩, next)

end LifePlan.Yaml
