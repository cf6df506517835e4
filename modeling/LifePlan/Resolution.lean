import LifePlan.Vocabulary

/-!
# Reading a line as a command on an item

A line is read from its first two words. Their senses select a rule, and the rule decides the command,
the item and how many words it has used; the rest of the line is the remainder. Command and item may
come in either order. After `help` the next two words are read in the same way and name what help is
asked about.
-/

namespace LifePlan

/-! ## Rules on two words -/

/-- What a rule makes of the first two words. -/
structure Match where
  command : Command
  item : Option Item
  /-- How many of the words the rule has used. -/
  consumed : Nat
  deriving DecidableEq, Repr

/-- The words name no command. -/
def Match.unresolved : Match := ⟨.unknown, none, 0⟩

/-- The rules, named for the first word. -/
inductive Rule where
  | commandFirst
  | itemFirst
  | sharedFirst
  | unresolved
  deriving DecidableEq, Repr

namespace Rule

/-- The rule for the senses of two words, the second of which may be missing. -/
def select : Sense → Option Sense → Rule
  | .command _, _ => .commandFirst
  | .kind _, some (.command _) => .itemFirst
  | .kind _, some .shared => .itemFirst
  | .shared, some .shared => .sharedFirst
  | .shared, some (.kind _) => .sharedFirst
  | .shared, some (.command _) => .sharedFirst
  | _, _ => .unresolved

/-- A command word, and after it perhaps the item: `add goal`, `add re`, `show`. Alone, `show` is about
everything. A shared word after a verb means the result. -/
def commandThen (command : Command) (second : Option Sense) : Match :=
  if command.takesItem then
    match second with
    | none => ⟨command, if command = .list then some .all else none, 1⟩
    | some (.kind k) => ⟨command, some (.one k), 2⟩
    | some .shared => ⟨command, some (.one .result), 2⟩
    | some _ => ⟨command, none, 1⟩
  else ⟨command, none, 1⟩

/-- An item word, and after it the command: `goals show`, `goal re`. A shared word after a noun means to
remove. -/
def itemThen (item : Option Item) : Option Sense → Match
  | some (.command c) => if c.takesItem then ⟨c, item, 2⟩ else .unresolved
  | some .shared => ⟨.remove, item, 2⟩
  | _ => .unresolved

/-- A shared word first: `re re`, `re goal`, `re add`. -/
def sharedThen : Option Sense → Match
  | some .shared => ⟨.remove, some (.one .result), 2⟩
  | some (.kind k) => ⟨.remove, some (.one k), 2⟩
  | some (.command c) => if c.takesItem then ⟨c, some (.one .result), 2⟩ else .unresolved
  | _ => .unresolved

/-- Whether the rule can be asked about a first word: the one that is named for a command needs one. -/
def suits (rule : Rule) (first : Sense) : Bool := rule ≠ .commandFirst || first.command?.isSome

/-- What the rule makes of two words. -/
def apply (rule : Rule) (first : Sense) (second : Option Sense) : Match :=
  match rule with
  | .commandFirst => (first.command?.map (commandThen · second)).getD .unresolved
  | .itemFirst => itemThen (first.kind?.map .one) second
  | .sharedFirst => sharedThen second
  | .unresolved => .unresolved

end Rule

/-- What the first two words come to. -/
def resolveWindow : List Sense → Match
  | [] => .unresolved
  | first :: rest => (Rule.select first rest.head?).apply first rest.head?

@[simp] theorem resolveWindow_nil : resolveWindow [] = .unresolved := rfl

/-! ## Lines -/

/-- A line that has been read as a command on an item. -/
structure Query where
  command : Command
  item : Option Item
  /-- How many words have been used for the command and the item; a negative number is for callers who want
  one word from the end of the line. -/
  consumed : Int
  /-- The words as typed. -/
  words : List String
  /-- The line as typed. -/
  line : String
  deriving DecidableEq, Repr

namespace Query

/-- Whether there is a command, with its item where it needs one. -/
def isComplete (q : Query) : Bool :=
  q.command ≠ .unknown && (!q.command.takesItem || q.item.isSome)

/-- The rest of the line after the words that were used. A negative number of words counts from the end and
leaves that word alone, if there are so many. -/
def remainder? (q : Query) : Option String :=
  if 0 ≤ q.consumed then
    some (String.ofList (Text.strip (Text.dropWords q.consumed.toNat q.line.toList)))
  else (Text.words q.line.toList).reverse[(-q.consumed).toNat - 1]?.map String.ofList

/-- The rest of the line, or nothing. -/
def remainder (q : Query) : String := q.remainder?.getD ""

/-- Some number of words from the start always leaves a rest. -/
theorem remainder?_ofNat (command : Command) (item : Option Item) (n : Nat) (words : List String)
    (line : String) :
    remainder? ⟨command, item, n, words, line⟩ =
      some (String.ofList (Text.strip (Text.dropWords n line.toList))) := by
  simp [remainder?]

/-- The words to quote when the line cannot be carried out: the first one if it is unknown, and otherwise
the first two. -/
def offendingWords (q : Query) : List String :=
  match q.words with
  | [] => []
  | w :: ws => if (classify w).sense = .unknown then [w] else w :: ws.take 1

end Query

/-- A line that has been read; a request for help may be about another line. -/
structure Resolution extends Query where
  target : Option Query
  deriving DecidableEq, Repr

/-- The words of a line. -/
def wordsOf (line : String) : List String := (Text.words line.toList).map String.ofList

/-- What a line comes to when its words are read by the rules alone. -/
def Query.ofLine (line : String) : Query :=
  let words := wordsOf line
  let found := resolveWindow ((words.take 2).map fun w => (classify w).sense)
  ⟨found.command, found.item, found.consumed, words, line⟩

/-- Reads a line. -/
def resolve (line : String) : Resolution :=
  let words := wordsOf line
  match words with
  | first :: rest =>
    if (classify first).sense = .command .help then
      if rest.isEmpty then ⟨⟨.help, none, 1, words, line⟩, none⟩
      else
        let target := Query.ofLine (String.ofList (Text.dropWords 1 line.toList))
        ⟨⟨.help, none, 1 + target.consumed, words, line⟩, some target⟩
    else ⟨Query.ofLine line, none⟩
  | [] => ⟨Query.ofLine line, none⟩

end LifePlan
