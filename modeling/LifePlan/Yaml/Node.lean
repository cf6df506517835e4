import LifePlan.Bindings
import LifePlan.Yaml.Date
import LifePlan.Yaml.Lexer
import LifePlan.Yaml.Number

/-!
# Nodes of a YAML document

A document is a tree of nodes: texts, sequences and mappings, each with a tag that says what it means. A node
without a tag has one by its kind, and a word without a tag by its form. An alias stands for the node of an
anchor before it.
-/

namespace LifePlan.Yaml

/-! ## Tags -/

/-- What a node means. -/
inductive Tag where
  | null
  | bool
  | int
  | float
  | binary
  | timestamp
  | orderedMap
  | pairs
  | set
  | text
  | sequence
  | mapping
  /-- The members of other mappings belong to this one. -/
  | merge
  /-- The value by which a mapping stands for a text. -/
  | default
  /-- A meaning that is not known. -/
  | other
  deriving DecidableEq, Repr

namespace Tag

/-- What the names of the usual tags start with. -/
def usualStart : String := "tag:yaml.org,2002:"

/-- The usual tags, by what follows in their names. -/
def usual : List (String × Tag) :=
  [("null", null), ("bool", bool), ("int", int), ("float", float), ("binary", binary),
    ("timestamp", timestamp), ("omap", orderedMap), ("pairs", pairs), ("set", set), ("str", text),
    ("seq", sequence), ("map", mapping), ("merge", merge), ("value", default)]

/-- The tag of a name. -/
def ofName (name : String) : Tag :=
  ((usual.find? fun t => usualStart ++ t.1 = name).map (·.2)).getD other

/-- The spellings of a word: in small letters, with a capital, in capitals. -/
def spellings (word : String) : List String := [word, word.capitalize, word.map Char.toUpper]

/-- The words that are truth values. -/
def truthWords : List (String × Bool) :=
  [("yes", true), ("no", false), ("true", true), ("false", false), ("on", true), ("off", false)]

/-- The tag of a word that has none. -/
def ofWord (cs : List Char) : Tag :=
  let word := String.ofList cs
  if word = "" ∨ word = "~" ∨ word ∈ spellings "null" then null
  else if truthWords.any fun t => word ∈ spellings t.1 then bool
  else if isWhole cs then int
  else if isFraction cs then float
  else if Date.isWord cs then timestamp
  else if word = "<<" then merge
  else if word = "=" then default
  else if word = "!" ∨ word = "&" ∨ word = "*" then other
  else text

/-- Whether a node with the tag is a collection, whose parts are looked at after those of its neighbours. -/
def isCollection : Tag → Bool
  | orderedMap | pairs | set | sequence | mapping => true
  | _ => false

end Tag

/-! ## Nodes -/

/-- A node. -/
inductive Node where
  | scalar (tag : Tag) (s : Scalar)
  | sequence (tag : Tag) (items : List Node)
  | mapping (tag : Tag) (members : List (Node × Node))
  /-- A collection with an anchor. -/
  | anchored (name : String) (n : Node)
  /-- A collection that the node is inside of. -/
  | loop
  deriving Repr

namespace Node

/-- The node where nothing is written. -/
def empty : Node := .scalar .null ⟨[], true, false⟩

/-- The tag of a node. -/
def tag : Node → Tag
  | .scalar tag _ => tag
  | .sequence tag _ => tag
  | .mapping tag _ => tag
  | .anchored _ n => n.tag
  | .loop => .sequence

/-- The node without its anchor. -/
def bare : Node → Node
  | .anchored _ n => n
  | n => n

end Node

/-! ## Reading nodes -/

/-- What is known when some nodes have been read. -/
structure Reading where
  lexer : Lexer
  /-- What the tags of each handle start with. -/
  handles : Bindings String
  anchors : Bindings Node
  /-- How many collections stand around the next node. -/
  depth : Nat

/-- A step of reading. -/
abbrev Read := StateT Reading (Except Flaw)

/-- The next token. -/
def peekToken : Read Token := do
  let r ← get
  let (t, lexer) ← r.lexer.peek
  set { r with lexer := lexer }
  return t

/-- Goes on behind the next token. -/
def dropToken : Read Unit := modify fun r => { r with lexer := r.lexer.drop }

/-- The anchor and the tag of a node, in either order, if it has them. -/
def readProperties : Read (Option String × Option TagName) := do
  match ← peekToken with
  | .anchor name =>
    dropToken
    match ← peekToken with
    | .tag t =>
      dropToken
      return (some name, some t)
    | _ => return (some name, none)
  | .tag t =>
    dropToken
    match ← peekToken with
    | .anchor name =>
      dropToken
      return (some name, some t)
    | _ => return (none, some t)
  | _ => return (none, none)

/-- The name of a tag, if it says anything: a mark by itself is as good as no tag. -/
def readTagName (t : Option TagName) : Read (Option String) := do
  match t with
  | none => return none
  | some ⟨none, suffix⟩ => return some suffix
  | some ⟨some handle, suffix⟩ =>
    match (← get).handles.get? handle with
    | some start => return some (start ++ suffix)
    | none => throw .shape

/-- Checks that an anchor is new. -/
def checkAnchor (anchor : Option String) : Read Unit := do
  match anchor with
  | none => return
  | some name => if ((← get).anchors.get? name).isSome then throw .document

/-- Notes the node of an anchor. -/
def noteAnchor (anchor : Option String) (n : Node) : Read Unit :=
  match anchor with
  | none => return
  | some name => modify fun r => { r with anchors := r.anchors.assign name n }

/-- The tag of a text. -/
def scalarTag (name : Option String) (s : Scalar) : Tag :=
  match name with
  | none => if s.plain then .ofWord s.word else .text
  | some name => if name = "!" then .ofWord s.word else .ofName name

/-- The tag of a collection that has the given one if it is said nothing about it. -/
def collectionTag (name : Option String) (usual : Tag) : Tag :=
  match name with
  | none => usual
  | some name => if name = "!" then usual else .ofName name

/-- Where a node stands. -/
inductive Spot where
  | block
  /-- A part of a mapping, where the dashes of a sequence may stand in the column of the key. -/
  | member
  | flow
  deriving DecidableEq, Repr

/-- How many collections may stand inside of each other. -/
def depthLimit : Nat := 490

/-- Reads a collection with its anchor, which already stands for it inside. -/
def readCollection (anchor : Option String) (read : Read Node) : Read Node := do
  checkAnchor anchor
  noteAnchor anchor .loop
  let depth := (← get).depth
  if depthLimit ≤ depth then throw .tooDeep
  modify fun r => { r with depth := depth + 1 }
  let n ← read
  modify fun r => { r with depth := depth }
  match anchor with
  | none => return n
  | some name =>
    noteAnchor anchor (.anchored name n)
    return .anchored name n

/-- Reads a text with its anchor. -/
def readScalar (anchor tag : Option String) (s : Scalar) : Read Node := do
  checkAnchor anchor
  let n := Node.scalar (scalarTag tag s) s
  noteAnchor anchor n
  return n

/-- Whether a part of a mapping, or of a sequence in the column of a key, is missing before a token. -/
def endsMember : Token → Bool
  | .key | .value | .blockEnd => true
  | _ => false

/-- Whether a part of an entry in brackets is missing before a token. -/
def endsFlowPart (closing : Token) (t : Token) : Bool := t = .flowEntry || t = closing

mutual

/-- Reads a node. -/
def readNode : Nat → Spot → Read Node
  | 0, _ => throw .shape
  | fuel + 1, spot => do
    if let .alias name ← peekToken then
      dropToken
      match (← get).anchors.get? name with
      | some n => return n
      | none => throw .document
    let (anchor, t) ← readProperties
    let tag ← readTagName t
    let sequence (read : Read (List Node)) : Read Node :=
      readCollection anchor do return .sequence (collectionTag tag .sequence) (← read)
    let mapping (read : Read (List (Node × Node))) : Read Node :=
      readCollection anchor do return .mapping (collectionTag tag .mapping) (← read)
    match ← peekToken, spot with
    | .blockEntry, .member => sequence (readDashes fuel)
    | .scalar s, _ =>
      dropToken
      readScalar anchor tag s
    | .flowSequenceStart, _ => sequence (do dropToken; readFlowItems fuel true)
    | .flowMappingStart, _ => mapping (do dropToken; readFlowMembers fuel true)
    | .blockSequenceStart, .block => sequence (do dropToken; readItems fuel)
    | .blockSequenceStart, .member => sequence (do dropToken; readItems fuel)
    | .blockMappingStart, .block => mapping (do dropToken; readMembers fuel)
    | .blockMappingStart, .member => mapping (do dropToken; readMembers fuel)
    | _, _ =>
      if anchor.isSome || tag.isSome then readScalar anchor tag ⟨[], true, false⟩ else throw .shape

/-- Reads a node unless a token comes that shows that it is missing. -/
def readUnless : Nat → Spot → (Token → Bool) → Read Node
  | 0, _, _ => throw .shape
  | fuel + 1, spot, isMissing => do
    if isMissing (← peekToken) then return .empty else readNode fuel spot

/-- Reads a node behind a mark; it is empty if there is no mark. -/
def readBehind : Nat → Token → Spot → (Token → Bool) → Read Node
  | 0, _, _, _ => throw .shape
  | fuel + 1, mark, spot, isMissing => do
    if (← peekToken) = mark then
      dropToken
      readUnless fuel spot isMissing
    else return .empty

/-- Reads the items of a sequence with its own column. -/
def readItems : Nat → Read (List Node)
  | 0 => throw .shape
  | fuel + 1 => do
    match ← peekToken with
    | .blockEntry =>
      dropToken
      let item ← readUnless fuel .block fun t => t = .blockEntry || t = .blockEnd
      return item :: (← readItems fuel)
    | .blockEnd =>
      dropToken
      return []
    | _ => throw .shape

/-- Reads the items of a sequence in the column of a key. -/
def readDashes : Nat → Read (List Node)
  | 0 => throw .shape
  | fuel + 1 => do
    if (← peekToken) = .blockEntry then
      dropToken
      let item ← readUnless fuel .block fun t => t = .blockEntry || endsMember t
      return item :: (← readDashes fuel)
    else return []

/-- Reads the members of a mapping. -/
def readMembers : Nat → Read (List (Node × Node))
  | 0 => throw .shape
  | fuel + 1 => do
    match ← peekToken with
    | .key =>
      dropToken
      let key ← readUnless fuel .member endsMember
      let value ← readBehind fuel .value .member endsMember
      return (key, value) :: (← readMembers fuel)
    | .blockEnd =>
      dropToken
      return []
    | _ => throw .shape

/-- Reads the items of a sequence in brackets. An item may be a key with its value. -/
def readFlowItems : Nat → Bool → Read (List Node)
  | 0, _ => throw .shape
  | fuel + 1, isFirst => do
    let t ← peekToken
    if t ≠ .flowSequenceEnd && !isFirst then
      if t = .flowEntry then dropToken else throw .shape
    match ← peekToken with
    | .flowSequenceEnd =>
      dropToken
      return []
    | .key =>
      dropToken
      let key ← readUnless fuel .flow fun t => t = .value || endsFlowPart .flowSequenceEnd t
      let value ← readBehind fuel .value .flow (endsFlowPart .flowSequenceEnd)
      return .mapping .mapping [(key, value)] :: (← readFlowItems fuel false)
    | _ =>
      let item ← readNode fuel .flow
      return item :: (← readFlowItems fuel false)

/-- Reads the members of a mapping in brackets. -/
def readFlowMembers : Nat → Bool → Read (List (Node × Node))
  | 0, _ => throw .shape
  | fuel + 1, isFirst => do
    let t ← peekToken
    if t ≠ .flowMappingEnd && !isFirst then
      if t = .flowEntry then dropToken else throw .shape
    match ← peekToken with
    | .flowMappingEnd =>
      dropToken
      return []
    | .key =>
      dropToken
      let key ← readUnless fuel .flow fun t => t = .value || endsFlowPart .flowMappingEnd t
      let value ← readBehind fuel .value .flow (endsFlowPart .flowMappingEnd)
      return (key, value) :: (← readFlowMembers fuel false)
    | _ =>
      let key ← readNode fuel .flow
      return (key, .empty) :: (← readFlowMembers fuel false)

end

/-! ## Reading documents -/

/-- The handles that need no directive. -/
def usualHandles : List (String × String) := [("!", "!"), ("!!", Tag.usualStart)]

/-- Reads the directives before a document, after some that have been read. -/
def readDirectives : Nat → Bool → Bindings String → Read Unit
  | 0, _, _ => throw .shape
  | fuel + 1, hasVersion, handles => do
    match ← peekToken with
    | .directive d =>
      dropToken
      match d with
      | .version major =>
        if hasVersion || major ≠ 1 then throw .shape else readDirectives fuel true handles
      | .tags handle start =>
        if (handles.get? handle).isSome then throw .shape
        else readDirectives fuel hasVersion (handles.assign handle start)
      | .other => readDirectives fuel hasVersion handles
    | _ => modify fun r => { r with handles := handles ++ usualHandles }

/-- Drops the marks of the end of a document. -/
def dropEnds : Nat → Read Unit
  | 0 => throw .shape
  | fuel + 1 => do
    if (← peekToken) = .documentEnd then
      dropToken
      dropEnds fuel

/-- Reads the start of a document, if there is one more; it must be marked. -/
def readStart (fuel : Nat) : Read Bool := do
  dropEnds fuel
  if (← peekToken) = .streamEnd then return false
  else
    readDirectives fuel false []
    if (← peekToken) = .documentStart then
      dropToken
      return true
    else throw .shape

/-- Reads the node of a document, if there is a document. The first one need not be marked. -/
def readDocument (fuel : Nat) : Read (Option Node) := do
  match ← peekToken with
  | .directive _ | .documentStart | .streamEnd =>
    if ← readStart fuel then
      match ← peekToken with
      | .directive _ | .documentStart | .documentEnd | .streamEnd => return some .empty
      | _ => return some (← readNode fuel .block)
    else return none
  | _ =>
    modify fun r => { r with handles := usualHandles }
    return some (← readNode fuel .block)

/-- Reads the only document. -/
def readOnly (fuel : Nat) : Read (Option Node) := do
  match ← readDocument fuel with
  | none => return none
  | some n =>
    if (← peekToken) = .documentEnd then dropToken
    if ← readStart fuel then throw .document else return some n

/-- More steps than reading a document takes. -/
def stepLimit (cs : List Char) : Nat := 16 * cs.length + 64

/-- The node of a document, if it has one. -/
def Node.ofText (cs : List Char) : Except Flaw (Option Node) := do
  let (n, _) ← (readOnly (stepLimit cs)).run ⟨.start cs, [], [], 0⟩
  return n

end LifePlan.Yaml
