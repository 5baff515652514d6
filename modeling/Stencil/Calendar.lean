import Stencil.Number

/-!
# Instants

Points in time, counted in milliseconds from the start of 1970, and their
text in the proleptic Gregorian calendar.

A calendar repeats every 400 years, which is 146097 days. Counting years from
March puts the leap day at the end of a year, so the day of the year is found
by division alone and no table of months is needed.

## Main definitions

* `Instant`: A point in time within 100 million days of 1970.
* `Instant.ofNumber?`: The instant that a count of milliseconds stands for.
* `Instant.text`: Date and time in the extended format, to the millisecond.
* `Instant.longText`: Date and time as a sentence.
-/

namespace Stencil

/-- A point in time, in milliseconds from the start of 1970. -/
abbrev Instant := Int

/-- A day of the calendar. -/
structure CivilDate where
  year : Int
  month : Nat
  day : Nat
deriving DecidableEq

namespace Instant

/-- How far instants reach from 1970, in milliseconds: 100 million days. -/
def reach : Int := 8640000000000000

/-- The instant that a count of milliseconds stands for, fractions dropped
    toward zero. -/
def ofNumber? (n : Number) : Option Instant :=
  match n.truncate? with
  | some ms => if -reach ≤ ms ∧ ms ≤ reach then some ms else none
  | none => none

/-- The calendar day that is so many days after the first of 1970. -/
def civil (days : Int) : CivilDate :=
  let shifted := days + 719468
  let era := shifted / 146097
  let dayOfEra := (shifted % 146097).toNat
  let yearOfEra :=
    (dayOfEra - dayOfEra / 1460 + dayOfEra / 36524 - dayOfEra / 146096) / 365
  let dayOfYear := dayOfEra - (365 * yearOfEra + yearOfEra / 4 - yearOfEra / 100)
  let shiftedMonth := (5 * dayOfYear + 2) / 153
  let day := dayOfYear - (153 * shiftedMonth + 2) / 5 + 1
  let month := if shiftedMonth < 10 then shiftedMonth + 3 else shiftedMonth - 9
  let year := (yearOfEra : Int) + 400 * era + if month ≤ 2 then 1 else 0
  ⟨year, month, day⟩

/-- Decimal digits with zeros in front, up to a width. -/
def padded (width n : Nat) : String :=
  let digits := Nat.toDigits 10 n
  String.ofList (List.replicate (width - digits.length) '0' ++ digits)

/-- A year: four digits from 0 to 9999, otherwise a sign and six. -/
def yearText (year : Int) : String :=
  if 0 ≤ year ∧ year ≤ 9999 then padded 4 year.toNat
  else (if year < 0 then "-" else "+") ++ padded 6 year.natAbs

/-- Milliseconds since midnight. -/
def timeOfDay (t : Instant) : Nat :=
  (t % 86400000).toNat

/-- Hours, minutes and seconds since midnight. -/
def clockText (t : Instant) : String :=
  let ms := timeOfDay t
  padded 2 (ms / 3600000) ++ ":" ++ padded 2 (ms / 60000 % 60) ++ ":"
    ++ padded 2 (ms / 1000 % 60)

/-- Date and time in the extended format, to the millisecond, in UTC. -/
def text (t : Instant) : String :=
  let date := civil (t / 86400000)
  yearText date.year ++ "-" ++ padded 2 date.month ++ "-" ++ padded 2 date.day ++ "T"
    ++ clockText t ++ "." ++ padded 3 (timeOfDay t % 1000) ++ "Z"

/-- The names of the days, from the first of 1970 on. -/
def dayNames : List String :=
  ["Thu", "Fri", "Sat", "Sun", "Mon", "Tue", "Wed"]

/-- The names of the months. -/
def monthNames : List String :=
  ["Jan", "Feb", "Mar", "Apr", "May", "Jun", "Jul", "Aug", "Sep", "Oct", "Nov", "Dec"]

/-- Date and time with the names of day and month, in UTC. -/
def longText (t : Instant) : String :=
  let days := t / 86400000
  let date := civil days
  let sign := if date.year < 0 then "-" else ""
  dayNames.getD (days % 7).toNat "" ++ " " ++ monthNames.getD (date.month - 1) "" ++ " "
    ++ padded 2 date.day ++ " " ++ sign ++ padded 4 date.year.natAbs ++ " " ++ clockText t
    ++ " GMT+0000 (Coordinated Universal Time)"

end Instant

end Stencil
