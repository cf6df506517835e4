import LifePlan.Help
import LifePlan.Plan.Walk
import LifePlan.Screen

/-!
# What the program shows

Everything that the program prints by itself, as values: notices, listings, help, greetings, the question
before a new file. Each has its lines of markup, in which a text of the user is escaped, and a `Screen`
turns them into characters, without wrapping lines and without putting emoji in the place of their names.
-/

namespace LifePlan

/-- What the program shows. -/
inductive Display where
  /-- An error notice. -/
  | notice (message : String)
  /-- The records of an item. -/
  | listing (item : Item) (entries : List Entry)
  /-- The table of all commands. -/
  | helpTable
  /-- The help on one command. -/
  | help (entry : HelpEntry)
  /-- There is no help on some words. -/
  | noHelp (words : List String)
  /-- The screen is cleared. -/
  | cleared
  /-- An empty line. -/
  | gap
  /-- The greeting for a plan that is still empty, in the usual place. -/
  | welcome
  /-- The greeting with the data file in use. -/
  | database (file : String)
  /-- A file that could not be loaded or saved, which is no reason to stop. -/
  | trouble (message file : String)
  /-- The question before a new data file. -/
  | question (file : String)
  /-- The answer to the question was neither yes nor no. -/
  | yesOrNo
  /-- A plan has been exported. -/
  | exported (data target : String)
  /-- The name and the version of the program. -/
  | version
  /-- How the program is called. -/
  | callUsage
  /-- The run was given up. -/
  | aborted
  deriving DecidableEq, Repr

namespace Display

/-! ## Listings -/

/-- The style of a kind of record. -/
def styleOf : Kind → Style
  | .goal => .cyan
  | .action => .yellow
  | .agreement => .green
  | .alert => .red
  | .result => .blue

/-- The three lines above a listing. -/
def listingHeader : List String :=
  ["=====================", "Item(Id): Description", "====================="]

/-- The numbers of a record, counted from 1 and joined by points, each in the style of its level. -/
def numbersMarkup (kind : Kind) (path : Path) : List Char :=
  ['.'].intercalate <|
    (kind.lineage.zip path).map fun level =>
      (styleOf level.1).on (toString (level.2 + 1)).toList

/-- The line of a record. In a listing of everything deeper records are indented. -/
def entryMarkup (item : Item) (e : Entry) : List Char :=
  (if item = .all then List.replicate (e.kind.depth - 1) ' ' else []) ++
    (styleOf e.kind).on e.kind.label.toList ++ '(' :: numbersMarkup e.kind e.path ++
    ')' :: ':' :: ' ' :: Markup.escape e.node.description.toList

/-! ## Lines and characters -/

/-- A text of the user, in yellow. -/
def quoted (text : String) : List Char := Style.yellow.on (Markup.escape text.toList)

/-- The start of an error notice. -/
def errorMark : List Char := Style.red.on "error".toList ++ [' ']

/-- The program's name and version. -/
def programVersion : String := "lipla 0.1.0"

/-- The lines of markup, for all that is shown as whole lines. -/
def lines : Display → List (List Char)
  | .notice message => [errorMark ++ Markup.escape message.toList]
  | .listing item entries => listingHeader.map String.toList ++ entries.map (entryMarkup item)
  | .helpTable => Help.table.map String.toList
  | .help entry =>
    ("Command ".toList ++ Style.yellow.on entry.name.toList ++ ": ".toList ++ entry.summary.toList) ::
      match entry.usage with
      | some usage => ["Usage: ".toList ++ quoted usage]
      | none => []
  | .noHelp words => [errorMark ++ "No help for ".toList ++ quoted (" ".intercalate words)]
  | .gap => [[]]
  | .welcome =>
    ["Welcome to Lipla! Use ".toList ++ Style.yellow.on "help".toList ++
      " for a list of commands".toList]
  | .database file => ["Welcome to Lipla! Using ".toList ++ quoted file ++ " as database".toList]
  | .trouble message file =>
    [errorMark ++ Markup.escape message.toList ++ ' ' :: quoted file]
  | .yesOrNo => [Style.red.on "Please enter Y or N".toList]
  | .exported data target =>
    ["Exported ".toList ++ quoted data ++ " to ".toList ++ quoted target]
  | .version => [programVersion.toList]
  | .callUsage => ["Usage: lipla \\[--export] \\[--version] \\[FILE \\[XMLFILE]]".toList]
  | .aborted => ["Aborted.".toList]
  | .cleared | .question _ => []

/-- The runs of the question before a new data file. -/
def questionRuns (file : String) : List Run :=
  Run.ofMarkup ("Create and use ".toList ++ quoted file ++ " as database".toList) ++
    [⟨none, [' ']⟩, ⟨some .choices, "[y/n]".toList⟩, ⟨none, [' ']⟩, ⟨some .preset, "(y)".toList⟩,
      ⟨none, ": ".toList⟩]

/-- The characters that are printed. -/
def print (screen : Screen) : Display → List Char
  | .cleared => screen.clearing
  | .question file => screen.print (questionRuns file)
  | d => d.lines.flatMap screen.printLine

/-- The text that is printed. -/
def text (screen : Screen) (d : Display) : String := String.ofList (d.print screen)

end Display

end LifePlan
