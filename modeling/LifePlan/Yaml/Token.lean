import LifePlan.Yaml.Scalar

/-!
# Tokens of a YAML document

The pieces of a document: marks, scalars, names of anchors, tags and directives. This module reads the pieces
that are names; where a piece stands is no matter here.
-/

namespace LifePlan.Yaml

/-- A tag as it is written: a suffix, behind the handle of a group of tags or by itself. -/
structure TagName where
  handle : Option String
  suffix : String
  deriving DecidableEq, Repr

/-- What is said of a document before it starts. -/
inductive Directive where
  | version (major : Nat)
  /-- The tags of a handle have the same start. -/
  | tags (handle start : String)
  | other
  deriving DecidableEq, Repr

/-- A token. -/
inductive Token where
  | directive (d : Directive)
  | documentStart
  | documentEnd
  | streamEnd
  | blockSequenceStart
  | blockMappingStart
  | blockEnd
  | flowSequenceStart
  | flowSequenceEnd
  | flowMappingStart
  | flowMappingEnd
  | blockEntry
  | flowEntry
  | key
  | value
  | alias (name : String)
  | anchor (name : String)
  | tag (t : TagName)
  | scalar (s : Scalar)
  deriving DecidableEq, Repr

/-! ## Names of anchors -/

/-- A name behind its mark, and the place behind it. -/
def name (c : Cursor) : Except Flaw (String × Cursor) :=
  let name := c.run isNameChar
  let next := c.advance name.length
  if name = [] then .error .token
  else if isEndOr (fun d => isSeparator d || "?:,]\x7d%@\x60".toList.contains d) next.peek then
    .ok (String.ofList name, next)
  else .error .token

/-! ## Tags -/

/-- Whether a character stands for itself in a tag. -/
def isTagChar (c : Char) : Bool := c.isAlphanum || "-;/?:@&=+$,_.!~*'()[]".toList.contains c

/-- The bytes of some codes, each behind a per cent sign, and the place behind them. -/
def tagBytes : Nat → Cursor → Except Flaw (List UInt8 × Cursor)
  | 0, c => .ok ([], c)
  | fuel + 1, c =>
    if c.peek = some '%' then
      let digits := c.next.rest.take 2
      match hexNumber? digits with
      | some n =>
        if digits.length = 2 then do
          let (bytes, final) ← tagBytes fuel (c.advance 3)
          return (n.toUInt8 :: bytes, final)
        else .error .token
      | none => .error .token
    else .ok ([], c)

/-- The characters of a tag, and the place behind them; each step takes a character. -/
def tagChars : Nat → Cursor → Except Flaw (List Char × Cursor)
  | 0, c => .ok ([], c)
  | fuel + 1, c =>
    match c.peek with
    | some d =>
      if d = '%' then do
        let (bytes, next) ← tagBytes (c.rest.length + 1) c
        match String.fromUTF8? ⟨bytes.toArray⟩ with
        | some text =>
          let (more, final) ← tagChars fuel next
          return (text.toList ++ more, final)
        | none => .error .token
      else if isTagChar d then do
        let (more, final) ← tagChars fuel c.next
        return (d :: more, final)
      else .ok ([], c)
    | none => .ok ([], c)

/-- The text of a tag, which must not be missing, and the place behind it. -/
def tagText (c : Cursor) : Except Flaw (String × Cursor) := do
  let (text, next) ← tagChars (c.rest.length + 1) c
  if next.index = c.index then .error .token else return (String.ofList text, next)

/-- The handle of a group of tags, and the place behind it. -/
def tagHandle (c : Cursor) : Except Flaw (String × Cursor) :=
  if c.peek ≠ some '!' then .error .token
  else if c.peekAt 1 = some ' ' then .ok ("!", c.next)
  else
    let name := c.next.run isNameChar
    let next := c.next.advance name.length
    if next.peek = some '!' then .ok (String.ofList ('!' :: name ++ ['!']), next.next) else .error .token

/-- A tag, and the place behind it. -/
def tagName (c : Cursor) : Except Flaw (TagName × Cursor) := do
  let (tag, next) ←
    if c.peekAt 1 = some '<' then do
      let (suffix, next) ← tagText (c.advance 2)
      if next.peek = some '>' then pure ((⟨none, suffix⟩ : TagName), next.next) else .error .token
    else if isEndOr isSeparator (c.peekAt 1) then pure (⟨none, "!"⟩, c.next)
    else do
      let whole := c.next.run fun d => !isBlankOrBreak d
      let (handle, next) ← if whole.contains '!' then tagHandle c else pure ("!", c.next)
      let (suffix, next) ← tagText next
      pure (⟨some handle, suffix⟩, next)
  if isEndOr isBlankOrBreak next.peek then return (tag, next) else .error .token

/-! ## Directives -/

/-- A number of a version, and the place behind it. -/
def versionNumber (c : Cursor) : Except Flaw (Nat × Cursor) :=
  let digits := c.run Char.isDigit
  if digits = [] then .error .token
  else if digitLimit < digits.length then .error (.tooManyDigits digits.length)
  else .ok (digits.foldl (fun n d => n * 10 + (d.toNat - 48)) 0, c.advance digits.length)

/-- The place behind a blank or the end of a line, if there is one. -/
def atBlank (c : Cursor) : Except Flaw Cursor := if isEndOr isBlankOrBreak c.peek then .ok c else .error .token

/-- What a directive of a name says, and the place behind it. -/
def directiveValue (name : String) (c : Cursor) : Except Flaw (Directive × Cursor) :=
  match name with
  | "YAML" => do
    let (major, next) ← versionNumber c.skipBlanks
    if next.peek = some '.' then
      let (_, next) ← versionNumber next.next
      return (.version major, ← atBlank next)
    else .error .token
  | "TAG" => do
    let (handle, next) ← tagHandle c.skipBlanks
    if next.peek = some ' ' then
      let (start, next) ← tagText next.skipBlanks
      return (.tags handle start, ← atBlank next)
    else .error .token
  | _ => .ok (.other, c.skipWhile fun d => !isBreak d)

/-- A directive behind its per cent sign, and the place of the next line. -/
def directive (c : Cursor) : Except Flaw (Directive × Cursor) := do
  let name := c.run isNameChar
  if name = [] then .error .token
  else
    let next ← atBlank (c.advance name.length)
    let (directive, next) ← directiveValue (String.ofList name) next
    let last := next.skipBlanks.skipComment
    if isEndOr isBreak last.peek then return (directive, last.next) else .error .token

end LifePlan.Yaml
