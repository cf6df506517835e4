import LifePlan.Yaml.Flaw

/-!
# Dates of a YAML document

A date has a year, a month and a day, and after it there may be a time of day with its distance from
universal time. Which date it is does not matter, but it must exist.
-/

namespace LifePlan.Yaml

/-- A distance from universal time, in minutes. -/
structure Offset where
  behind : Bool
  minutes : Nat
  deriving DecidableEq, Repr

/-- How many seconds an offset is ahead of universal time. -/
def Offset.seconds (o : Offset) : Int := if o.behind then -60 * o.minutes else 60 * o.minutes

/-- A time of day. -/
structure TimeOfDay where
  hour : Nat
  minute : Nat
  second : Nat
  offset : Option Offset
  deriving DecidableEq, Repr

/-- A date as it is written. -/
structure Date where
  year : Nat
  month : Nat
  day : Nat
  /-- Whether the month and the day have two digits each. -/
  isFull : Bool
  time : Option TimeOfDay
  deriving DecidableEq, Repr

namespace Date

/-! ## Reading -/

/-- The number of some digits, as many as are allowed, and what follows. -/
def number? (least most : Nat) (cs : List Char) : Option (Nat × List Char) :=
  let digits := cs.takeWhile Char.isDigit
  if least ≤ digits.length ∧ digits.length ≤ most then
    some (digits.foldl (fun n c => n * 10 + (c.toNat - 48)) 0, cs.dropWhile Char.isDigit)
  else none

/-- A number behind a mark. -/
def numberAfter? (mark : Char) (least most : Nat) : List Char → Option (Nat × List Char)
  | c :: cs => if c = mark then number? least most cs else none
  | [] => none

/-- Whether a character is a blank inside a date. -/
def isGap (c : Char) : Bool := c == ' ' || c == '\t'

/-- The text without the part of a second that it starts with. -/
def dropFraction : List Char → List Char
  | '.' :: cs => cs.dropWhile Char.isDigit
  | cs => cs

/-- A distance from universal time at the end of a text, without the blanks before it. -/
def offset? (cs : List Char) : Option Offset := do
  match cs with
  | ['Z'] => some ⟨false, 0⟩
  | sign :: rest =>
    if sign = '-' ∨ sign = '+' then
      let (hours, rest) ← number? 1 2 rest
      if rest = [] then some ⟨sign = '-', hours * 60⟩
      else
        let (minutes, rest) ← numberAfter? ':' 2 2 rest
        if rest = [] then some ⟨sign = '-', hours * 60 + minutes⟩ else none
    else none
  | [] => none

/-- A time of day at the end of a text. -/
def time? (cs : List Char) : Option TimeOfDay := do
  let (hour, rest) ← number? 1 2 cs
  let (minute, rest) ← numberAfter? ':' 2 2 rest
  let (second, rest) ← numberAfter? ':' 2 2 rest
  match dropFraction rest with
  | [] => some ⟨hour, minute, second, none⟩
  | rest =>
    let offset ← offset? (rest.dropWhile isGap)
    some ⟨hour, minute, second, some offset⟩

/-- The date that a text spells. -/
def ofText? (cs : List Char) : Option Date := do
  let (year, rest) ← number? 4 4 cs
  let (month, afterMonth) ← numberAfter? '-' 1 2 rest
  let (day, afterDay) ← numberAfter? '-' 1 2 afterMonth
  let isFull : Bool := rest.length - afterDay.length = 6
  match afterDay with
  | [] => some ⟨year, month, day, isFull, none⟩
  | c :: rest =>
    if c = 'T' ∨ c = 't' then
      let time ← time? rest
      some ⟨year, month, day, isFull, some time⟩
    else if isGap c then
      let time ← time? (rest.dropWhile isGap)
      some ⟨year, month, day, isFull, some time⟩
    else none

/-- Whether a word is a date. A month or day of one digit is allowed only with a time of day. -/
def isWord (cs : List Char) : Bool :=
  match ofText? cs with
  | some d => d.isFull || d.time.isSome
  | none => false

/-! ## Existence -/

/-- What is wrong with a time of day, but for its distance from universal time. -/
def timeFlaw? (t : TimeOfDay) : Option DateFlaw := Calendar.timeFlaw? t.hour t.minute t.second 0

/-- What is wrong with a date; of several flaws the distance from universal time comes first. -/
def flaw? (d : Date) : Option DateFlaw :=
  ((d.time.bind (·.offset)).bind fun o => Calendar.offsetFlaw? o.seconds) <|>
    Calendar.dayFlaw? d.year d.month d.day <|> d.time.bind timeFlaw?

end Date

end LifePlan.Yaml
