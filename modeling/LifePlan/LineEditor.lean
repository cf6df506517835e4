import LifePlan.HistoryFile
import LifePlan.Text.Case
import LifePlan.Vocabulary

/-!
# The line editor

The editor offers words that go on as a text was begun, keeps the history of command lines, and puts a text
into the line that is to be edited. Where there is no editor, words are still offered, but there is no
history and no text to edit.
-/

namespace LifePlan

/-- An editor. -/
structure LineEditor where
  /-- Whether lines can be edited at all. -/
  available : Bool
  words : List String
  /-- The words that were offered last. -/
  matching : List String
  history : List String
  deriving DecidableEq, Repr

namespace LineEditor

/-- An editor without history. -/
def new (available : Bool) (words : List String) : LineEditor := ⟨available, words, [], []⟩

/-! ## Completion -/

/-- The words that start with a text; the case of the text does not matter. -/
def candidates (e : LineEditor) (text : String) : List String :=
  e.words.filter fun w => (Text.lower text.toList).isPrefixOf w.toList

/-- The word at an index; a negative index counts from the end. There is no word beyond the last one, and an
index before the first one is refused. -/
def wordAt (words : List String) (index : Int) : Option (Option String) :=
  if 0 ≤ index then some words[index.toNat]?
  else if -index ≤ words.length then some words[(words.length + index).toNat]?
  else none

/-- The word with a number among those that go on from a text. The text counts when the number is 0; later
numbers are about the same text. -/
def complete (e : LineEditor) (text : String) (number : Int) : LineEditor × Option (Option String) :=
  let e := if number = 0 then { e with matching := e.candidates text } else e
  (e, wordAt e.matching number)

/-! ## History -/

/-- Adds a line to the history, which keeps no line with a null character. -/
def add (e : LineEditor) (line : String) : Except Misuse LineEditor :=
  if !e.available then .ok e
  else if HistoryFile.keeps line then .ok { e with history := e.history ++ [line] }
  else .error .nullInLine

/-- Forgets the history. -/
def clear (e : LineEditor) : LineEditor := { e with history := [] }

/-- Adds the lines of a history file. -/
def load (e : LineEditor) (s : Store) (file : FileName) : Except Escape LineEditor :=
  if e.available then do
    let lines ← HistoryFile.load s file
    return { e with history := e.history ++ lines }
  else .ok e

/-- Writes the history to a file. -/
def save (e : LineEditor) (s : Store) (file : FileName) : Except (Failure × Store) Store :=
  if e.available then HistoryFile.save s file e.history else .ok s

/-! ## Lines -/

/-- The texts that are put into a line before it is edited. -/
def inserted (e : LineEditor) (prefill : String) : List String :=
  if e.available && prefill ≠ "" then [prefill] else []

end LineEditor

end LifePlan
