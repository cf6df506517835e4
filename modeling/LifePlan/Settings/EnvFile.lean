import LifePlan.Bindings
import LifePlan.Text.Blank

/-!
# Environment files

A file of lines `NAME=value`. A line may start with `export`; a name may stand in single quotes; a value may
stand in either quotes, with escapes, or end before a comment. A line that is none of this is passed over. In
a value, a name in braces after a dollar sign stands for the value of that name.
-/

namespace LifePlan.EnvFile

open Text (isBlank)

/-! ## Pieces of a line -/

/-- Whether a character is blank and no line break. -/
def isGap (c : Char) : Bool := isBlank c && c != '\n' && c != '\r'

/-- Whether a character ends a line. -/
def isBreak (c : Char) : Bool := c == '\n' || c == '\r'

/-- The text without the word `export` in front of a name. -/
def dropExport (cs : List Char) : List Char :=
  let word := "export".toList
  let rest := cs.drop word.length
  if cs.take word.length = word ∧ (rest.takeWhile isGap) ≠ [] then rest.dropWhile isGap else cs

/-- The text inside quotes, the first of which has been read, and what comes after the closing one. A backslash
takes the next character with it, be it a quote or not. -/
def quoted (quote : Char) : List Char → Option (List Char × List Char)
  | [] => none
  | '\\' :: c :: cs => (quoted quote cs).map fun (text, rest) => ('\\' :: c :: text, rest)
  | c :: cs =>
    if c = quote then some ([], cs) else (quoted quote cs).map fun (text, rest) => (c :: text, rest)

/-- What a letter stands for after a backslash, in single quotes. -/
def singleEscape? (c : Char) : Option Char := if c = '\\' ∨ c = '\'' then some c else none

/-- What a letter stands for after a backslash, in double quotes. -/
def doubleEscape? (c : Char) : Option Char :=
  match c with
  | '\\' => some '\\'
  | '\'' => some '\''
  | '"' => some '"'
  | 'a' => some '\x07'
  | 'b' => some '\x08'
  | 'f' => some '\x0c'
  | 'n' => some '\n'
  | 'r' => some '\r'
  | 't' => some '\t'
  | 'v' => some '\x0b'
  | _ => none

/-- The text with its escapes replaced; a backslash that starts none stays. -/
def unescape (escape? : Char → Option Char) : List Char → List Char
  | [] => []
  | [c] => [c]
  | c :: d :: cs =>
    if c = '\\' then
      match escape? d with
      | some e => e :: unescape escape? cs
      | none => c :: unescape escape? (d :: cs)
    else c :: unescape escape? (d :: cs)

/-- The text up to a comment, which starts with a blank and a hash mark. -/
def dropComment : List Char → List Char
  | [] => []
  | c :: cs =>
    if isBlank c ∧ (cs.dropWhile isBlank).head? = some '#' then [] else c :: dropComment cs

/-! ## Lines -/

/-- The name at the start of a line, with what follows. A line that is a comment has no name. -/
def name (cs : List Char) : Option (Option (List Char) × List Char) :=
  match cs with
  | '#' :: _ => some (none, cs)
  | '\'' :: rest =>
    match rest.takeWhile (· ≠ '\''), rest.dropWhile (· ≠ '\'') with
    | key@(_ :: _), _ :: after => some (some key, after)
    | _, _ => none
  | _ =>
    let isNameChar (c : Char) : Bool := !(c == '=' || c == '#' || isBlank c)
    match cs.takeWhile isNameChar with
    | [] => none
    | key => some (some key, cs.dropWhile isNameChar)

/-- The value after the equals sign, with what follows. If it cannot be read, only what follows is given. -/
def value (cs : List Char) : Option (List Char) × List Char :=
  let inQuotes (quote : Char) (escape? : Char → Option Char) (rest : List Char) :
      Option (List Char) × List Char :=
    match quoted quote rest with
    | some (text, after) => (some (unescape escape? text), after)
    | none => (none, rest)
  match cs.dropWhile isGap with
  | '\'' :: rest => inQuotes '\'' singleEscape? rest
  | '"' :: rest => inQuotes '"' doubleEscape? rest
  | _ =>
    (some (Text.strip (dropComment (cs.takeWhile fun c => !isBreak c))), cs.dropWhile fun c => !isBreak c)

/-- A line that gives a name a value, or no value. -/
structure Line where
  name : String
  value : Option String
  deriving DecidableEq, Repr

/-- What follows the present line. -/
def nextLine (cs : List Char) : List Char := (cs.dropWhile fun c => !isBreak c).drop 1

/-- What follows a line, if nothing but a comment is left of it. -/
def endOfLine? (cs : List Char) : Option (List Char) :=
  match cs.dropWhile isGap with
  | [] => some []
  | '#' :: rest => some (nextLine rest)
  | c :: rest => if isBreak c then some rest else none

/-- The line at the start of a text that does not start with a blank, and what follows the line. -/
def line (cs : List Char) : Option Line × List Char :=
  match name (dropExport cs) with
  | none => (none, nextLine (dropExport cs))
  | some (key, afterName) =>
    let afterName := afterName.dropWhile isGap
    let (readable, given, rest) : Bool × Option (List Char) × List Char :=
      match afterName with
      | '=' :: after =>
        match value after with
        | (some text, rest) => (true, some text, rest)
        | (none, rest) => (false, none, rest)
      | _ => (true, none, afterName)
    match readable, endOfLine? rest, key with
    | true, some rest, some key => (some ⟨String.ofList key, given.map String.ofList⟩, rest)
    | true, some rest, none => (none, rest)
    | _, _, _ => (none, nextLine rest)

/-- The lines of a text; each of them takes at least one character. -/
def linesFrom : Nat → List Char → List Line
  | 0, _ => []
  | fuel + 1, cs =>
    match cs.dropWhile isBlank with
    | [] => []
    | start =>
      let (found, rest) := line start
      found.toList ++ linesFrom fuel rest

/-- The lines of a text that give a name a value, or no value. A byte order mark at its start is no part of
it. -/
def lines (cs : List Char) : List Line :=
  let cs := if cs.head? = some '\ufeff' then cs.drop 1 else cs
  linesFrom (cs.length + 1) cs

/-! ## References to other names -/

/-- The name and the default of a reference whose dollar sign and brace have been read. -/
def reference? (cs : List Char) : Option (List Char × List Char × List Char) :=
  let isNameChar (c : Char) : Bool := c != '\x7d' && c != ':'
  let key := cs.takeWhile isNameChar
  match cs.dropWhile isNameChar with
  | '\x7d' :: rest => some (key, [], rest)
  | ':' :: '-' :: after =>
    match after.dropWhile (· ≠ '\x7d') with
    | _ :: rest => some (key, after.takeWhile (· ≠ '\x7d'), rest)
    | [] => none
  | _ => none

/-- The text with its references replaced; a text has fewer references than characters. -/
def expandFrom (lookup : String → Option (Option String)) : Nat → List Char → List Char
  | 0, cs => cs
  | _, [] => []
  | fuel + 1, '$' :: '\x7b' :: cs =>
    match reference? cs with
    | some (key, default, rest) =>
      (match lookup (String.ofList key) with
        | some given => (given.getD "").toList
        | none => default) ++ expandFrom lookup fuel rest
    | none => '$' :: expandFrom lookup fuel ('\x7b' :: cs)
  | fuel + 1, c :: cs => c :: expandFrom lookup fuel cs

/-- The text with its references replaced. -/
def expand (lookup : String → Option (Option String)) (text : String) : String :=
  String.ofList (expandFrom lookup text.toList.length text.toList)

/-- The names with their values. A reference means the value of an earlier line, or else of the environment. -/
def bindings (environment : Bindings String) (cs : List Char) : Bindings (Option String) :=
  (lines cs).foldl
    (fun found l =>
      let lookup (name : String) : Option (Option String) :=
        found.get? name <|> (environment.get? name).map some
      found.assign l.name (l.value.map (expand lookup)))
    []

end LifePlan.EnvFile
