import LifePlan.Calendar

/-!
# Instants and the clock

An instant is a local time with its distance from universal time, to the second. The clock gives out
instants as texts, and here each reading is one second after the reading before it. A real clock may give the
same time twice, or an earlier one after it was set back; nothing is concluded from the second in between.
-/

namespace LifePlan

/-! ## Instants -/

/-- A local time, in seconds from the start of 1970, and how many seconds it is ahead of universal time. -/
structure Instant where
  seconds : Int
  offset : Int
  deriving DecidableEq, Repr

namespace Instant

/-- The instant of a date and time of day. -/
def ofCivil (year month day hour minute second offset : Int) : Instant :=
  ⟨Calendar.dayNumber year month day * 86400 + hour * 3600 + minute * 60 + second, offset⟩

/-- The instant of a date and time of day, if there can be such. Parts of a second do not count. -/
def ofCivil? (year month day hour minute second microsecond offset : Int) : Except DateFlaw Instant :=
  match Calendar.dayFlaw? year month day <|> Calendar.timeFlaw? hour minute second microsecond <|>
      Calendar.offsetFlaw? offset with
  | some flaw => .error flaw
  | none => .ok (ofCivil year month day hour minute second offset)

/-- A number in decimal digits, with zeros in front up to the width. -/
def padded (width : Nat) (n : Int) : String :=
  let digits := toString n.natAbs
  String.ofList (List.replicate (width - digits.length) '0') ++ digits

/-- The offset as sign, hours and minutes, and the seconds if there are any. -/
def offsetText (offset : Int) : String :=
  let size := (offset.natAbs : Int)
  (if offset < 0 then "-" else "+") ++ padded 2 (size / 3600) ++ ":" ++ padded 2 (size / 60 % 60) ++
    if size % 60 = 0 then "" else ":" ++ padded 2 (size % 60)

/-- The instant as date, time of day and offset. -/
def text (t : Instant) : String :=
  let day := t.seconds.fdiv 86400
  let time := t.seconds - day * 86400
  let (year, month, dayOfMonth) := Calendar.dateOfDay day
  padded 4 year ++ "-" ++ padded 2 month ++ "-" ++ padded 2 dayOfMonth ++ "T" ++
    padded 2 (time / 3600) ++ ":" ++ padded 2 (time / 60 % 60) ++ ":" ++ padded 2 (time % 60) ++
    offsetText t.offset

end Instant

/-! ## The clock -/

/-- A clock, by the instant of its next reading. -/
structure Clock where
  next : Instant
  deriving DecidableEq, Repr

namespace Clock

/-- The next reading. -/
def now (c : Clock) : String := c.next.text

/-- The clock after a reading: a second later, whatever a real clock would show. -/
def tick (c : Clock) : Clock := ⟨{ c.next with seconds := c.next.seconds + 1 }⟩

end Clock

end LifePlan
