import LifePlan.Markup

/-!
# From markup to the console

A line of markup is shown as runs of text, each in one style. A few control characters are dropped, tabs
are widened to the next multiple of eight columns, and on a screen with colour each run is put between
control codes, separately on each line it covers and anew after each tab.

The screen is taken to be wide enough for every line, so that none is wrapped. Names of emoji between colons,
in whose place a console may put the emoji, are left as they are: what is said of a text here holds of texts
without such names.
-/

namespace LifePlan

/-! ## Styles -/

/-- The styles that are used. -/
inductive Style where
  | red
  | yellow
  | green
  | blue
  | cyan
  /-- The choices of a question. -/
  | choices
  /-- The answer that is taken when none is given. -/
  | preset
  deriving DecidableEq, Repr

namespace Style

/-- The name that stands for the style in markup. -/
def name : Style → String
  | .red => "red"
  | .yellow => "yellow"
  | .green => "green"
  | .blue => "blue"
  | .cyan => "cyan"
  | .choices => "prompt.choices"
  | .preset => "prompt.default"

/-- The console's code of the style. -/
def code : Style → String
  | .red => "31"
  | .yellow => "33"
  | .green => "32"
  | .blue => "34"
  | .cyan => "36"
  | .choices => "1;35"
  | .preset => "1;36"

/-- Every style. -/
def all : List Style := [.red, .yellow, .green, .blue, .cyan, .choices, .preset]

/-- The style of a name. -/
def ofName? (name : List Char) : Option Style := all.find? fun s => s.name.toList = name

/-- The markup of a text in the style. -/
def on (s : Style) (text : List Char) : List Char := Markup.styled s.name.toList text

end Style

/-! ## Runs -/

/-- A piece of text in one style. -/
structure Run where
  style : Option Style
  text : List Char
  deriving DecidableEq, Repr

namespace Run

/-- The names of the tags that are on, innermost first, after one more tag. A closing tag takes off the
innermost tag of its name, or the innermost one if it has no name. -/
def toggle (names : List (List Char)) : List Char → List (List Char)
  | '/' :: name => if name = [] then names.drop 1 else names.erase name
  | name => name :: names

/-- The style of a text inside some tags: that of the innermost tag which names one. -/
def styleOf (names : List (List Char)) : Option Style := names.findSome? Style.ofName?

/-- The runs of some atoms inside some tags; a tag starts a new run. -/
def ofAtoms (names : List (List Char)) : List Markup.Atom → List Run
  | [] => [⟨styleOf names, []⟩]
  | .glyph c :: rest =>
    match ofAtoms names rest with
    | [] => [⟨styleOf names, [c]⟩]
    | r :: rs => ⟨r.style, c :: r.text⟩ :: rs
  | .tag body :: rest => ⟨styleOf names, []⟩ :: ofAtoms (toggle names body) rest

/-- The runs of a line of markup. -/
def ofMarkup (markup : List Char) : List Run := ofAtoms [] (Markup.read markup)

/-- The text of some runs, without their styles. -/
def plain (rs : List Run) : List Char := rs.flatMap Run.text

end Run

/-! ## Control characters and tabs -/

/-- The control characters that are never shown: bell, backspace, vertical tab, form feed, carriage
return. -/
def isDropped (c : Char) : Bool :=
  c.toNat == 7 || c.toNat == 8 || c.toNat == 11 || c.toNat == 12 || c.toNat == 13

/-- How many columns a character takes; control characters take none. Wide characters, which take two on a console,
and combining ones, which take none, are counted as one; only the tabs behind them would tell. -/
def columns (c : Char) : Nat :=
  if c.toNat < 32 || (127 ≤ c.toNat && c.toNat < 160) then 0 else 1

/-- The text with its tabs widened, and the column after it; the text starts at a column. A tab is at least
one space. -/
def widen (column : Nat) : List Char → List Char × Nat
  | [] => ([], column)
  | c :: cs =>
    if c = '\t' then
      let width := 8 - column % 8
      let (rest, final) := widen (column + width) cs
      (List.replicate width ' ' ++ rest, final)
    else
      let (rest, final) := widen (if c = '\n' then 0 else column + columns c) cs
      (c :: rest, final)

/-- The runs with their tabs widened. -/
def widenRuns (column : Nat) : List Run → List Run
  | [] => []
  | r :: rs =>
    let (text, final) := widen column r.text
    ⟨r.style, text⟩ :: widenRuns final rs

/-- The text cut behind each of its tabs. -/
def tabPieces : List Char → List (List Char)
  | [] => []
  | c :: cs =>
    if c = '\t' then [c] :: tabPieces cs
    else
      match tabPieces cs with
      | [] => [[c]]
      | p :: ps => (c :: p) :: ps

/-- Cutting a text loses nothing. -/
theorem flatten_tabPieces (cs : List Char) : (tabPieces cs).flatten = cs := by
  induction cs with
  | nil => rfl
  | cons c cs ih =>
    unfold tabPieces
    split
    · simp [ih]
    · split
      · next h => rw [h] at ih; simp [← ih]
      · next h => rw [h] at ih; simp [← ih]

/-- The pieces of a run that are laid out, each a run of its own. -/
def pieces (r : Run) : List Run :=
  (tabPieces (r.text.filter fun c => !isDropped c)).map (Run.mk r.style)

/-- The runs as they are laid out. -/
def layOut (rs : List Run) : List Run := widenRuns 0 (rs.flatMap pieces)

/-! ## The screen -/

/-- Where the program prints. -/
structure Screen where
  /-- Whether it understands control codes. -/
  terminal : Bool
  /-- Whether styles show. -/
  colour : Bool
  deriving DecidableEq, Repr

namespace Screen

/-- A console code that starts with the escape character. -/
def control (code : String) : List Char := '\x1b' :: '[' :: code.toList

/-- A piece of a line between the codes of its style. -/
def paint (style : Style) (piece : List Char) : List Char :=
  if piece = [] then [] else control style.code ++ 'm' :: piece ++ control "0m"

/-- A text painted line by line. The line that is being gathered is given backwards. -/
def paintLines (style : Style) (line : List Char) : List Char → List Char
  | [] => paint style line.reverse
  | c :: cs =>
    if c = '\n' then paint style line.reverse ++ '\n' :: paintLines style [] cs
    else paintLines style (c :: line) cs

/-- The characters of a run. -/
def runText (screen : Screen) (r : Run) : List Char :=
  match r.style with
  | some style => if screen.colour then paintLines style [] r.text else r.text
  | none => r.text

/-- The characters of some runs. -/
def print (screen : Screen) (rs : List Run) : List Char := (layOut rs).flatMap screen.runText

/-- A line of markup with the line break after it. -/
def printLine (screen : Screen) (markup : List Char) : List Char :=
  screen.print (Run.ofMarkup markup) ++ ['\n']

/-- What clears the screen. -/
def clearing (screen : Screen) : List Char :=
  if screen.terminal then control "2J" ++ control "H" else []

end Screen

end LifePlan
