import LifePlan.Text.CaseTable

/-!
# Letter case

Full lower and upper case of a text. Lower case depends on the neighbours in one place only: a capital
sigma that closes a word becomes the final sigma. Upper case may lengthen a text, and so may lower case
(the dotted capital I).
-/

namespace LifePlan.Text

/-- The first mapping that a table of shifts gives, and otherwise the character itself. -/
def shifted (shifts : List Shift) (c : Char) : Char :=
  match shifts.findSome? (·.of? c.toNat) with
  | some n => Char.ofNat n
  | none => c

/-- The lower case of a character by itself. -/
def lowerChar (c : Char) : Char :=
  if c.toNat < 128 then c.toLower else shifted lowerShifts c

/-- Whether letter case looks past the character. -/
def isCaseIgnorable (c : Char) : Bool := inRuns caseIgnorableRuns c.toNat

/-- Whether the character has a letter case. -/
def isCased (c : Char) : Bool := inRuns casedRuns c.toNat

/-- Whether a sigma closes its word: looking past the ignorable characters, a cased one stands before it
and none after it. The text before it is given backwards. -/
def closesWord (before after : List Char) : Bool :=
  (match before.dropWhile isCaseIgnorable with
    | c :: _ => isCased c
    | [] => false) &&
  (match after.dropWhile isCaseIgnorable with
    | c :: _ => !isCased c
    | [] => true)

/-- The lower case of a text whose preceding characters are given backwards. -/
def lowerAfter (before : List Char) : List Char → List Char
  | [] => []
  | c :: cs =>
    (if c = 'Σ' then [if closesWord before cs then 'ς' else 'σ']
      else if c = 'İ' then ['i', '\u0307']
      else [lowerChar c]) ++ lowerAfter (c :: before) cs

/-- The lower case of a text. -/
def lower (cs : List Char) : List Char := lowerAfter [] cs

/-- The upper case of a character, which may be several characters. -/
def upperChar (c : Char) : List Char :=
  if c.toNat < 128 then [c.toUpper]
  else
    match upperExpansions.lookup c.toNat with
    | some ns => ns.map Char.ofNat
    | none => [shifted upperShifts c]

/-- The upper case of a text. -/
def upper (cs : List Char) : List Char := cs.flatMap upperChar

@[simp] theorem lower_nil : lower [] = [] := rfl

@[simp] theorem upper_nil : upper [] = [] := rfl

end LifePlan.Text
