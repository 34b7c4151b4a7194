/-! # Calendar

Times are kept as milliseconds since the beginning of 1970 and written as dates of the Gregorian
calendar in universal time, which is continued in both directions without regard to history. Only
times within some 262 thousand years have a date.

A year is counted from March here, so that the leap day is the last day of a year: then neither the
length of a month nor the number of days before it depends on the year. -/

namespace Cohort

/-- A time in parts. -/
structure Moment where
  year : Int
  month : Nat
  day : Nat
  hour : Nat
  minute : Nat
  second : Nat
  milli : Nat
deriving Repr, DecidableEq

namespace Calendar

/-- The days of four hundred years, after which the calendar repeats. -/
def daysPerCycle : Nat := 146097

/-- The days from the first of March of the year 0 to the beginning of 1970. -/
def daysTo1970 : Int := 719468

/-- The year within a cycle, counted from March, and the day within that year. -/
def yearOfDay (day : Nat) : Nat × Nat :=
  let year := (day - day / 1460 + day / 36524 - day / 146096) / 365
  (year, day - (365 * year + year / 4 - year / 100))

/-- The month, counted from March, and the day of the month of a day of the year. -/
def monthOfDay (day : Nat) : Nat × Nat :=
  let month := (5 * day + 2) / 153
  (month, day - (153 * month + 2) / 5 + 1)

/-- Year, month and day of a day since the beginning of 1970. -/
def dateOfDay (day : Int) : Int × Nat × Nat :=
  let shifted := day + daysTo1970
  let (year, dayOfYear) := yearOfDay (shifted % daysPerCycle).toNat
  let (month, dayOfMonth) := monthOfDay dayOfYear
  let year := shifted / daysPerCycle * 400 + year
  if month < 10 then (year, month + 3, dayOfMonth) else (year + 1, month - 9, dayOfMonth)

/-- The milliseconds of a day. -/
def millisPerDay : Nat := 86400000

/-- The earliest time that has a date. -/
def earliest : Int := -8334601228800000

/-- The latest time that has a date. -/
def latest : Int := 8210266876799999

end Calendar

namespace Moment

open Calendar

/-- The moment of a time in milliseconds. -/
def ofMillis? (millis : Int) : Option Moment :=
  if millis < earliest ∨ latest < millis then none
  else
    let (year, month, day) := dateOfDay (millis / millisPerDay)
    let rest := (millis % millisPerDay).toNat
    some ⟨year, month, day, rest / 3600000, rest / 60000 % 60, rest / 1000 % 60, rest % 1000⟩

/-- A number with zeros in front, up to so many digits. -/
def padded (width n : Nat) : String :=
  let digits := toString n
  String.ofList (List.replicate (width - digits.length) '0') ++ digits

/-- A year has four digits at least, and a sign when four digits do not hold it. -/
def yearText (year : Int) : String :=
  if year < 0 then "-" ++ padded 4 year.natAbs
  else if 9999 < year then "+" ++ padded 4 year.natAbs
  else padded 4 year.natAbs

/-- The moment as one row of digits, to the second. -/
def compactText (m : Moment) : String :=
  yearText m.year ++ padded 2 m.month ++ padded 2 m.day ++ padded 2 m.hour ++ padded 2 m.minute ++
    padded 2 m.second

/-- The moment as date and time of day, with a fraction of a second if there is one. -/
def text (m : Moment) : String :=
  yearText m.year ++ "-" ++ padded 2 m.month ++ "-" ++ padded 2 m.day ++ "T" ++ padded 2 m.hour ++
    ":" ++ padded 2 m.minute ++ ":" ++ padded 2 m.second ++
    (if m.milli = 0 then "" else "." ++ padded 3 m.milli) ++ "+00:00"

end Moment

end Cohort
