import LifePlan.Kind
import LifePlan.Text.Blank
import LifePlan.Text.Case

/-!
# The vocabulary

The closed list of words that a command line may start with. Commands and items may be abbreviated. The
two words `r` and `re` are shared: they mean the remove command or the result item, and which of the two
is settled by the neighbouring word. Letter case does not matter, and a word that is not listed is
unknown rather than an error.
-/

namespace LifePlan

/-! ## Words and their senses -/

/-- What a word can mean at the start of a line. -/
inductive Sense where
  | command (command : Command)
  | kind (kind : Kind)
  /-- Remove or result, by the neighbouring word. -/
  | shared
  | unknown
  deriving DecidableEq, Repr

namespace Sense

/-- The command that the word can stand for. -/
def command? : Sense → Option Command
  | .command c => some c
  | .shared => some .remove
  | _ => none

/-- The kind of record that the word can stand for. -/
def kind? : Sense → Option Kind
  | .kind k => some k
  | .shared => some .result
  | _ => none

/-- Whether the word is a command that works on an item. -/
def isItemCommand : Sense → Bool
  | .command c => c.takesItem
  | _ => false

end Sense

/-- A word with its sense. -/
structure Token where
  /-- The word in lower case. -/
  word : String
  sense : Sense
  deriving DecidableEq, Repr

/-! ## Spellings -/

/-- The words for a command, the full one last. -/
def Command.spellings : Command → List String
  | .add => ["a", "ad", "add"]
  | .list => ["s", "sh", "show"]
  | .update => ["u", "up", "update"]
  | .remove => ["remove"]
  | .help => ["h", "he", "?", "help"]
  | .clear => ["c", "cl", "clear"]
  | .erase => ["e", "er", "erase"]
  | .exit => ["x", "ex", "exit"]
  | .abandon => ["x!", "ex!", "exit!"]
  | .unknown => []

/-- The words for a kind of record, the abbreviation first. -/
def Kind.spellings : Kind → List String
  | .goal => ["go", "goal", "goals"]
  | .action => ["ac", "action", "actions"]
  | .agreement => ["ag", "agreement", "agreements"]
  | .alert => ["al", "alert", "alerts"]
  | .result => ["result", "results"]

/-- The words shared by the remove command and the result item. -/
def sharedSpellings : List String := ["r", "re"]

/-- Every known word with its sense. -/
def vocabulary : List Token :=
  (Command.all.flatMap fun c => c.spellings.map fun w => ⟨w, .command c⟩) ++
    (Kind.all.flatMap fun k => k.spellings.map fun w => ⟨w, .kind k⟩) ++
    sharedSpellings.map fun w => ⟨w, .shared⟩

/-- No word is listed twice, so a word has one sense. -/
theorem nodup_vocabulary : (vocabulary.map Token.word).Nodup := by decide +kernel

/-- The sense of a word, in any letter case. -/
def classify (word : String) : Token :=
  let lowered := String.ofList (Text.lower word.toList)
  (vocabulary.find? fun t => t.word == lowered).getD ⟨lowered, .unknown⟩

/-- The full words that completion offers, in alphabetical order. -/
def completionWords : List String :=
  (Command.all.filterMap (·.spellings.getLast?) ++ Kind.all.flatMap (·.spellings.drop 1)).mergeSort

end LifePlan
