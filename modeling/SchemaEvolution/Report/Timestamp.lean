import SchemaEvolution.Decimal.Positional

/-! # Timestamps
An instant is counted in Coordinated Universal Time, and comes with the offset of the clock of the
place where it was taken. It is written as that clock shows it: in full, with the offset, or as a
**stamp** of digits only. -/

namespace SchemaEvolution

/-- The date of a day counted from the first of January 1970: year, month and day. The count is
moved to the first of March of the year 0, where eras of 400 years and years of 365.2425 days
start. -/
def dateOfDay (day : Int) : Int × Nat × Nat :=
  let shifted := day + 719468
  let era := shifted / 146097
  let dayOfEra := (shifted % 146097).toNat
  let yearOfEra := (dayOfEra - dayOfEra / 1460 + dayOfEra / 36524 - dayOfEra / 146096) / 365
  let dayOfYear := dayOfEra - (365 * yearOfEra + yearOfEra / 4 - yearOfEra / 100)
  let monthFromMarch := (5 * dayOfYear + 2) / 153
  let dayOfMonth := dayOfYear - (153 * monthFromMarch + 2) / 5 + 1
  let month := if monthFromMarch < 10 then monthFromMarch + 3 else monthFromMarch - 9
  let year := Int.ofNat yearOfEra + era * 400
  (if month ≤ 2 then year + 1 else year, month, dayOfMonth)

/-- A number with at least the given number of digits. -/
def padded (width n : Nat) : String :=
  let digits := toString n
  zeros (width - digits.length) ++ digits

/-! ## What a clock shows -/

/-- A date and a time of day, as a clock shows them. -/
structure ClockTime where
  /-- The year; zero and negative years count back from the first one. -/
  year : Int
  /-- The month, from 1. -/
  month : Nat
  /-- The day of the month, from 1. -/
  day : Nat
  /-- The hour. -/
  hour : Nat
  /-- The minute. -/
  minute : Nat
  /-- The second; a leap second is the one after 59. -/
  second : Nat
  /-- The nanosecond within the second. -/
  nanosecond : Nat
  deriving DecidableEq, Repr, Inhabited

namespace ClockTime

/-- What a clock shows so many seconds and nanoseconds after it showed the start of 1970. A whole
second of nanoseconds is a leap second: it lengthens the second in which it falls. -/
def ofSeconds (seconds : Int) (nanoseconds : Nat) : ClockTime :=
  let (year, month, day) := dateOfDay (seconds / 86400)
  let secondOfDay := (seconds % 86400).toNat
  ⟨year, month, day, secondOfDay / 3600, secondOfDay / 60 % 60,
    secondOfDay % 60 + nanoseconds / 1000000000, nanoseconds % 1000000000⟩

/-- The year with at least four digits; years beyond 9999 and before 0 have a sign. -/
def yearText (year : Int) : String :=
  match year with
  | .ofNat n => if n ≤ 9999 then padded 4 n else "+" ++ padded 4 n
  | .negSucc n => "-" ++ padded 4 (n + 1)

/-- The digits of date and time of day, from year to second. -/
def stamp (time : ClockTime) : String :=
  yearText time.year ++ padded 2 time.month ++ padded 2 time.day ++ padded 2 time.hour ++
    padded 2 time.minute ++ padded 2 time.second

/-- Date and time of day to the second, with marks between the numbers. -/
def text (time : ClockTime) : String :=
  yearText time.year ++ "-" ++ padded 2 time.month ++ "-" ++ padded 2 time.day ++ "T" ++
    padded 2 time.hour ++ ":" ++ padded 2 time.minute ++ ":" ++ padded 2 time.second

/-- The fraction of the second with a point before it, in the least number of groups of three digits
that is exact; nothing for a whole second. -/
def fractionText (nanosecond : Nat) : String :=
  if nanosecond = 0 then ""
  else if nanosecond % 1000000 = 0 then "." ++ padded 3 (nanosecond / 1000000)
  else if nanosecond % 1000 = 0 then "." ++ padded 6 (nanosecond / 1000)
  else "." ++ padded 9 nanosecond

end ClockTime

/-! ## Instants -/

/-- An instant, and how far the clock of the place where it was taken is ahead. -/
structure Instant where
  /-- The whole seconds since the start of 1970 in Coordinated Universal Time, leap seconds left
  out. -/
  seconds : Int
  /-- The nanoseconds after that; from a whole second on, they are in a leap second. -/
  nanoseconds : Nat
  /-- The seconds by which the local clock is ahead of Coordinated Universal Time; negative where it
  is behind. -/
  offset : Int
  deriving DecidableEq, Repr, Inhabited

namespace Instant

/-- What a clock in Coordinated Universal Time shows. -/
def utcTime (instant : Instant) : ClockTime := .ofSeconds instant.seconds instant.nanoseconds

/-- What the **local clock** shows. -/
def localTime (instant : Instant) : ClockTime :=
  .ofSeconds (instant.seconds + instant.offset) instant.nanoseconds

/-- The digits of the local date and time of day, from year to second. -/
def stamp (instant : Instant) : String := instant.localTime.stamp

/-- An offset in hours and minutes, with its sign; it is rounded to the nearest minute. -/
def offsetText (offset : Int) : String :=
  let minutes := (offset.natAbs + 30) / 60
  (if offset < 0 then "-" else "+") ++ padded 2 (minutes / 60) ++ ":" ++ padded 2 (minutes % 60)

/-- The instant in full: the local date and time of day, and the offset. -/
def full (instant : Instant) : String :=
  instant.localTime.text ++ ClockTime.fractionText instant.localTime.nanosecond ++
    offsetText instant.offset

end Instant

end SchemaEvolution
