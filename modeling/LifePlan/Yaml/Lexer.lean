import LifePlan.Yaml.Token

/-!
# From characters to tokens

A lexer gives out the tokens of a document one by one. What stands in front of a colon is a key, and that it
is one is known only when the colon is reached: so a token that may start a key is held back until the line
ends, the colon comes, or too many characters have gone by. Blocks have no brackets; they are closed when a
token stands further left.
-/

namespace LifePlan.Yaml

/-- A token that may start a key. -/
structure PossibleKey where
  /-- Inside how many brackets it stands. -/
  level : Nat
  /-- How many tokens there are before it. -/
  token : Nat
  /-- Whether nothing but a key can stand there. -/
  required : Bool
  place : Cursor
  deriving Repr

/-- A document, of which some tokens have been read. -/
structure Lexer where
  cursor : Cursor
  /-- The tokens that have been read and not been taken. -/
  waiting : List Token
  taken : Nat
  /-- Inside how many brackets the cursor is. -/
  level : Nat
  /-- The columns of the blocks that are open, innermost first. -/
  columns : List Nat
  /-- Whether a key may start at the next token. -/
  allowsKey : Bool
  keys : List PossibleKey
  /-- Whether the end has been read. -/
  done : Bool
  deriving Repr

namespace Lexer

/-- A lexer at the start of a document. -/
def start (cs : List Char) : Lexer := ⟨.start cs, [], 0, 0, [], true, [], false⟩

/-- The most characters of a key that has no mark in front of it. -/
def keyLimit : Nat := 1024

/-! ## Steps -/

/-- Adds a token, and goes on behind it. -/
def put (l : Lexer) (t : Token) (next : Cursor) : Lexer :=
  { l with waiting := l.waiting ++ [t], cursor := next }

/-- Closes the blocks that are to the right of a column, unless the cursor is inside brackets. -/
def closeBlocks (l : Lexer) (isRight : Nat → Bool) : Lexer :=
  if l.level = 0 then
    { l with
      waiting := l.waiting ++ (l.columns.takeWhile isRight).map fun _ => .blockEnd
      columns := l.columns.dropWhile isRight }
  else l

/-- Whether a column is to the right of all open blocks. -/
def isInside (l : Lexer) (column : Nat) : Bool := (l.columns.head?.map fun c => decide (c < column)).getD true

/-- Opens a block at the cursor if it is to the right of all open blocks. -/
def openBlock (l : Lexer) (t : Token) : Lexer :=
  if l.level = 0 ∧ l.isInside l.cursor.column then
    { l with waiting := l.waiting ++ [t], columns := l.cursor.column :: l.columns }
  else l

/-- Gives up the possible key of the present level. -/
def dropKey (l : Lexer) : Except Flaw Lexer :=
  if l.keys.any fun k => k.level = l.level && k.required then .error .token
  else .ok { l with keys := l.keys.filter fun k => k.level ≠ l.level }

/-- Gives up the possible keys that have become too long. -/
def dropStaleKeys (l : Lexer) : Except Flaw Lexer :=
  let isStale (k : PossibleKey) : Bool :=
    k.place.line ≠ l.cursor.line || keyLimit < l.cursor.index - k.place.index
  if l.keys.any fun k => isStale k && k.required then .error .token
  else .ok { l with keys := l.keys.filter fun k => !isStale k }

/-- Notes that the next token may start a key. -/
def noteKey (l : Lexer) : Except Flaw Lexer :=
  if l.allowsKey then do
    let required := l.level = 0 && l.columns.head? = some l.cursor.column
    let l ← l.dropKey
    return { l with keys := ⟨l.level, l.taken + l.waiting.length, required, l.cursor⟩ :: l.keys }
  else .ok l

/-! ## Tokens -/

/-- The end of the document. -/
def takeEnd (l : Lexer) : Except Flaw Lexer := do
  let l ← (l.closeBlocks fun _ => true).dropKey
  return { l.put .streamEnd l.cursor with allowsKey := false, keys := [], done := true }

/-- A directive. -/
def takeDirective (l : Lexer) : Except Flaw Lexer := do
  let l ← (l.closeBlocks fun _ => true).dropKey
  let (directive, next) ← directive l.cursor.next
  return { l.put (.directive directive) next with allowsKey := false }

/-- A mark that starts or ends a document. -/
def takeBoundary (l : Lexer) (t : Token) : Except Flaw Lexer := do
  let l ← (l.closeBlocks fun _ => true).dropKey
  return { l.put t (l.cursor.advance 3) with allowsKey := false }

/-- An opening bracket. -/
def takeOpening (l : Lexer) (t : Token) : Except Flaw Lexer := do
  let l ← l.noteKey
  return { l.put t l.cursor.next with level := l.level + 1, allowsKey := true }

/-- A closing bracket. -/
def takeClosing (l : Lexer) (t : Token) : Except Flaw Lexer := do
  let l ← l.dropKey
  return { l.put t l.cursor.next with level := l.level - 1, allowsKey := false }

/-- A comma between brackets. -/
def takeFlowEntry (l : Lexer) : Except Flaw Lexer := do
  let l ← l.dropKey
  return { l.put .flowEntry l.cursor.next with allowsKey := true }

/-- The dash of an item. -/
def takeBlockEntry (l : Lexer) : Except Flaw Lexer :=
  if l.level = 0 ∧ !l.allowsKey then .error .token
  else do
    let l ← (l.openBlock .blockSequenceStart).dropKey
    return { l.put .blockEntry l.cursor.next with allowsKey := true }

/-- The mark of a key. -/
def takeKey (l : Lexer) : Except Flaw Lexer :=
  if l.level = 0 ∧ !l.allowsKey then .error .token
  else do
    let l ← (l.openBlock .blockMappingStart).dropKey
    return { l.put .key l.cursor.next with allowsKey := l.level = 0 }

/-- The list with some elements in front of the one at an index. -/
def insertAt (tokens : List Token) (index : Nat) (more : List Token) : List Token :=
  tokens.take index ++ more ++ tokens.drop index

/-- The colon of a value. If there is a possible key at the present level, it is the key. -/
def takeValue (l : Lexer) : Except Flaw Lexer :=
  match l.keys.find? fun k => k.level = l.level with
  | some k =>
    let isFirst := l.level = 0 && l.isInside k.place.column
    let marks : List Token := if isFirst then [.blockMappingStart, .key] else [.key]
    let l := { l with
      keys := l.keys.filter fun other => other.level ≠ l.level
      waiting := insertAt l.waiting (k.token - l.taken) marks
      columns := if isFirst then k.place.column :: l.columns else l.columns
      allowsKey := false }
    .ok (l.put .value l.cursor.next)
  | none =>
    if l.level = 0 ∧ !l.allowsKey then .error .token
    else do
      let l ← (l.openBlock .blockMappingStart).dropKey
      return { l.put .value l.cursor.next with allowsKey := l.level = 0 }

/-- A token that may start a key, read from the cursor on. -/
def takeName {α : Type} (l : Lexer) (read : Cursor → Except Flaw (α × Cursor)) (token : α → Token) :
    Except Flaw Lexer := do
  let l ← l.noteKey
  let (value, next) ← read l.cursor
  return { l.put (token value) next with allowsKey := false }

/-- A block of lines. -/
def takeBlock (l : Lexer) (folded : Bool) : Except Flaw Lexer := do
  let l ← l.dropKey
  let (s, next) ← block folded (max 1 ((l.columns.head?.map (· + 1)).getD 0)) l.cursor
  return { l.put (.scalar s) next with allowsKey := true }

/-- A word. -/
def takeWord (l : Lexer) : Except Flaw Lexer := do
  let l ← l.noteKey
  let w := word (l.level ≠ 0) ((l.columns.head?.map (· + 1)).getD 0) l.cursor
  return { l.put (.scalar ⟨w.text, true, false⟩) w.next with allowsKey := w.endsLine }

/-- The token at the cursor, which starts with a character. -/
def takeToken (l : Lexer) (d : Char) : Except Flaw Lexer :=
  let c := l.cursor
  let stands : Bool := isEndOr isSeparator (c.peekAt 1)
  if d = '%' ∧ c.column = 0 then l.takeDirective
  else if c.column = 0 ∧ c.hasMark "---" then l.takeBoundary .documentStart
  else if c.column = 0 ∧ c.hasMark "..." then l.takeBoundary .documentEnd
  else if d = '[' then l.takeOpening .flowSequenceStart
  else if d = '\x7b' then l.takeOpening .flowMappingStart
  else if d = ']' then l.takeClosing .flowSequenceEnd
  else if d = '\x7d' then l.takeClosing .flowMappingEnd
  else if d = ',' then l.takeFlowEntry
  else if d = '-' ∧ stands then l.takeBlockEntry
  else if d = '?' ∧ (l.level ≠ 0 ∨ stands) then l.takeKey
  else if d = ':' ∧ (l.level ≠ 0 ∨ stands) then l.takeValue
  else if d = '*' then l.takeName (fun c => name c.next) .alias
  else if d = '&' then l.takeName (fun c => name c.next) .anchor
  else if d = '!' then l.takeName tagName .tag
  else if d = '|' ∧ l.level = 0 then l.takeBlock false
  else if d = '>' ∧ l.level = 0 then l.takeBlock true
  else if d = '\'' ∨ d = '"' then l.takeName (quoted d) .scalar
  else if startsWord (l.level ≠ 0) d (c.peekAt 1) then l.takeWord
  else .error .token

/-- Reads one more token, with the marks that come with it. -/
def readMore (l : Lexer) : Except Flaw Lexer := do
  let next := l.cursor.toToken
  let newLine : Bool := next.line ≠ l.cursor.line
  let l := { l with cursor := next, allowsKey := l.allowsKey || (l.level = 0 && newLine) }
  let l ← l.dropStaleKeys
  let l := l.closeBlocks fun column => next.column < column
  match next.peek with
  | none => l.takeEnd
  | some d => l.takeToken d

/-! ## The next token -/

/-- Reads on until it is known what the next token is; each step takes a character or comes to the end. -/
def settleFrom : Nat → Lexer → Except Flaw Lexer
  | 0, l => .ok l
  | fuel + 1, l =>
    if l.done then .ok l
    else if l.waiting = [] then do settleFrom fuel (← l.readMore)
    else do
      let l ← l.dropStaleKeys
      if l.keys.any fun k => k.token = l.taken then settleFrom fuel (← l.readMore) else return l

/-- Reads on until it is known what the next token is. -/
def settle (l : Lexer) : Except Flaw Lexer := l.settleFrom (l.cursor.rest.length + 2)

/-- The next token, with the lexer that knows it. -/
def peek (l : Lexer) : Except Flaw (Token × Lexer) := do
  let l ← l.settle
  return (l.waiting.head?.getD .streamEnd, l)

/-- The lexer after its next token. -/
def drop (l : Lexer) : Lexer := { l with waiting := l.waiting.tail, taken := l.taken + 1 }

end Lexer

end LifePlan.Yaml
