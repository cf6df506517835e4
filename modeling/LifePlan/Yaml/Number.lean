import LifePlan.Text.Case
import LifePlan.Text.Numeral
import LifePlan.Yaml.Flaw
import LifePlan.Yaml.Fraction

/-!
# Numbers of a YAML document

Which words are numbers, and which numbers they are. Whole numbers have four bases, and groups of sixty as in
times of day; between digits there may be underscores.
-/

namespace LifePlan.Yaml

/-! ## Words that are numbers -/

/-- Whether a character is a digit of a base, or the mark that may stand between digits. -/
def isDigit (base : Nat) (c : Char) : Bool :=
  c == '_' || (('0'.toNat ≤ c.toNat && c.toNat < '0'.toNat + min base 10) ||
    (base == 16 && (('a' ≤ c && c ≤ 'f') || ('A' ≤ c && c ≤ 'F'))))

/-- Whether the text is made of groups of sixty, each behind a colon. -/
def isSixties : List Char → Bool
  | [':', d] => d.isDigit
  | [':', d, e] => '0' ≤ d && d ≤ '5' && e.isDigit
  | ':' :: d :: ':' :: cs => d.isDigit && isSixties (':' :: cs)
  | ':' :: d :: e :: ':' :: cs => '0' ≤ d && d ≤ '5' && e.isDigit && isSixties (':' :: cs)
  | _ => false

/-- The text without its sign. -/
def unsigned : List Char → List Char
  | '-' :: cs => cs
  | '+' :: cs => cs
  | cs => cs

/-- Whether the word is a whole number. -/
def isWhole (cs : List Char) : Bool :=
  match unsigned cs with
  | '0' :: 'b' :: ds => !ds.isEmpty && ds.all (isDigit 2)
  | '0' :: 'x' :: ds => !ds.isEmpty && ds.all (isDigit 16)
  | '0' :: ds => ds.all (isDigit 8)
  | c :: ds =>
    let rest := ds.dropWhile (isDigit 10)
    c.isDigit && (rest.isEmpty || isSixties rest)
  | [] => false

/-- Whether the text is empty or an exponent with its sign. -/
def isExponent : List Char → Bool
  | [] => true
  | e :: s :: ds => (e == 'e' || e == 'E') && (s == '-' || s == '+') && !ds.isEmpty && ds.all Char.isDigit
  | _ => false

/-- Whether the word is a fraction, or beyond all numbers. -/
def isFraction (cs : List Char) : Bool :=
  match unsigned cs with
  | '.' :: ds =>
    [".inf", ".Inf", ".INF"].contains (String.ofList (unsigned cs)) ||
      [".nan", ".NaN", ".NAN"].contains (String.ofList cs) ||
      (cs.head? = some '.' && (ds.head?.map Char.isDigit).getD false &&
        isExponent (ds.dropWhile (isDigit 10)))
  | c :: ds =>
    let rest := ds.dropWhile (isDigit 10)
    c.isDigit &&
      match rest with
      | '.' :: places => isExponent (places.dropWhile (isDigit 10))
      | _ =>
        isSixties (rest.takeWhile (· ≠ '.')) &&
          match rest.dropWhile (· ≠ '.') with
          | '.' :: places => places.all (isDigit 10)
          | _ => false
  | [] => false

/-! ## Whole numbers -/

/-- The value of a digit. -/
def digitValue (c : Char) : Nat :=
  if c ≤ '9' then c.toNat - '0'.toNat else if c ≤ 'F' then c.toNat - 55 else c.toNat - 87

/-- The letter that may stand behind a zero in front of the digits of a base. -/
def baseLetter? (base : Nat) : Option Char :=
  match base with
  | 2 => some 'b'
  | 8 => some 'o'
  | 16 => some 'x'
  | _ => none

/-- The text without the zero and the letter that name its base, if it starts with them. -/
def dropBase (base : Nat) (cs : List Char) : List Char :=
  match cs with
  | '0' :: c :: ds => if baseLetter? base = some c.toLower then ds else cs
  | _ => cs

/-- The number that a numeral of a base spells. Blanks around it and one more sign are allowed. The digits
at its start are counted before it is looked at what follows them. -/
def numeral (base : Nat) (cs : List Char) : Except Flaw Int :=
  let bare := Text.bareNumeral cs
  let body := dropBase base (unsigned bare)
  let digits := body.takeWhile fun c => c != '_' && isDigit base c
  if base = 10 ∧ digitLimit < digits.length then .error (.tooManyDigits digits.length)
  else if digits = [] ∨ digits.length < body.length then .error (.numeral base (String.ofList cs))
  else
    let n : Int := (digits.foldl (fun n c => n * base + digitValue c) 0 : Nat)
    .ok (if bare.head? = some '-' then -n else n)

/-- The pieces of a text between colons. -/
def colonPieces : List Char → List (List Char)
  | [] => [[]]
  | c :: cs =>
    match colonPieces cs with
    | p :: ps => if c = ':' then [] :: p :: ps else (c :: p) :: ps
    | [] => [[c]]

/-- The whole number that a text without a sign spells. -/
def magnitude (cs : List Char) : Except Flaw Int :=
  match cs with
  | [] => .error .emptyNumeral
  | ['0'] => .ok 0
  | '0' :: 'b' :: ds => numeral 2 ds
  | '0' :: 'x' :: ds => numeral 16 ds
  | '0' :: _ => numeral 8 cs
  | _ => do
    let groups ← (colonPieces cs).mapM (numeral 10)
    return groups.foldl (fun n g => n * 60 + g) 0

/-- The whole number that a text spells. -/
def whole (cs : List Char) : Except Flaw Int := do
  let cs := cs.filter (· ≠ '_')
  let n ← magnitude (unsigned cs)
  return if cs.head? = some '-' then -n else n

/-! ## Fractions -/

/-- The number that an exponent with its letter spells, if it is none or a whole number. -/
def exponentOf? : List Char → Option Int
  | [] => some 0
  | e :: cs =>
    let digits := unsigned cs
    if e = 'e' ∧ digits ≠ [] ∧ digits.all Char.isDigit then
      let n : Int := (digits.foldl (fun n c => n * 10 + digitValue c) 0 : Nat)
      some (if cs.head? = some '-' then -n else n)
    else none

/-- The fraction that a text in small letters spells. Blanks around it and one more sign are allowed. -/
def fractionPart (cs : List Char) : Except Flaw Fraction :=
  let bare := Text.bareNumeral cs
  let body := unsigned bare
  let before := body.takeWhile Char.isDigit
  let rest := body.dropWhile Char.isDigit
  let (behind, rest) : List Char × List Char :=
    match rest with
    | '.' :: ds => (ds.takeWhile Char.isDigit, ds.dropWhile Char.isDigit)
    | ds => ([], ds)
  let digits := before ++ behind
  let flaw := Flaw.fraction (String.ofList cs)
  let signed (f : Fraction) : Fraction := if bare.head? = some '-' then f.opposite else f
  if String.ofList body = "nan" then .ok .undefined
  else if String.ofList body = "inf" ∨ String.ofList body = "infinity" then .ok (signed (.infinite false))
  else if digits = [] then .error flaw
  else
    match exponentOf? rest with
    | some exponent =>
      .ok (signed (.ofDecimal (digits.foldl (fun n c => n * 10 + digitValue c) 0) (exponent - behind.length)))
    | none => .error flaw

/-- The sum of some fractions, from the last group of sixty on, each of which counts sixty times as much as
the one before it. What a group counts must not be too great itself. -/
def sixtiesFrom (sum : Fraction) (count : Nat) : List Fraction → Except Flaw Fraction
  | [] => .ok sum
  | f :: fs =>
    let kept := Rounding.kept count 1
    if Rounding.limit ≤ kept then .error .tooGreat
    else sixtiesFrom (sum.plus (f.times kept)) (count * 60) fs

/-- The fraction that a text spells. -/
def fraction (cs : List Char) : Except Flaw Fraction := do
  let cs := Text.lower (cs.filter (· ≠ '_'))
  if cs = [] then .error .emptyNumeral
  let bare := unsigned cs
  let f ←
    if bare = ".inf".toList then pure (.infinite false)
    else if bare = ".nan".toList then pure .undefined
    else if bare.contains ':' then do
      sixtiesFrom .zero 1 (← (colonPieces bare).mapM fractionPart).reverse
    else fractionPart bare
  return if cs.head? = some '-' then f.opposite else f

end LifePlan.Yaml
