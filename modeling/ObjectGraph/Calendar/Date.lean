import ObjectGraph.Text.Numeral

/-!
Dates of the proleptic Gregorian calendar: days of a year, days of a week, weeks of a year.
-/

namespace ObjectGraph

/-- The days of the week. -/
inductive Weekday
  | monday
  | tuesday
  | wednesday
  | thursday
  | friday
  | saturday
  | sunday
deriving DecidableEq

namespace Weekday

/-- The days of the week in order, from Monday. -/
def all : List Weekday := [.monday, .tuesday, .wednesday, .thursday, .friday, .saturday, .sunday]

/-- The place of a day in the week, with Monday at `0`. -/
def index : Weekday → Nat
  | .monday => 0
  | .tuesday => 1
  | .wednesday => 2
  | .thursday => 3
  | .friday => 4
  | .saturday => 5
  | .sunday => 6

/-- The day at a place counted from Monday, around the week. -/
def ofIndex (n : Nat) : Weekday := all.getD (n % 7) .monday

/-- How many days a day comes after the last `start`. -/
def daysSince (d start : Weekday) : Nat := (d.index + 7 - start.index) % 7

end Weekday

namespace Calendar

/-- Whether a year has a 29th of February. -/
def isLeap (y : Int) : Bool := y % 4 == 0 && (y % 100 != 0 || y % 400 == 0)

/-- The number of days of a year. -/
def daysInYear (y : Int) : Nat := if isLeap y then 366 else 365

/-- The number of days of a month; there are none in a month that is not from 1 to 12. -/
def daysInMonth (y : Int) (m : Nat) : Nat :=
  match m with
  | 2 => if isLeap y then 29 else 28
  | 4 | 6 | 9 | 11 => 30
  | 1 | 3 | 5 | 7 | 8 | 10 | 12 => 31
  | _ => 0

/-- The days of a year that come before a month. -/
def daysBeforeMonth (y : Int) (m : Nat) : Nat := (List.range m).foldr (fun i days => daysInMonth y i + days) 0

/-- The days from the first of January of the year 1 to that of another year. -/
def daysBeforeYear (y : Int) : Int :=
  let p := y - 1
  365 * p + Int.fdiv p 4 - Int.fdiv p 100 + Int.fdiv p 400

/-- The first year that a date may have. -/
def minYear : Int := -262143

/-- The last year that a date may have. -/
def maxYear : Int := 262142

end Calendar

/-- A date that exists, in a year of the supported range. -/
structure Date where
  year : Int
  month : Nat
  day : Nat
  inYears : Calendar.minYear ≤ year ∧ year ≤ Calendar.maxYear
  inMonth : 1 ≤ day ∧ day ≤ Calendar.daysInMonth year month
deriving DecidableEq

namespace Date
open Calendar

/-- The date with a year, a month and a day, if there is one. -/
def ofYmd? (y : Int) (m d : Nat) : Option Date :=
  if hy : minYear ≤ y ∧ y ≤ maxYear then
    if hd : 1 ≤ d ∧ d ≤ daysInMonth y m then some ⟨y, m, d, hy, hd⟩ else none
  else none

/-- Finds the month of a day counted from the start of month `m`; at most `fuel` months are looked at. -/
def monthOf (y : Int) : (fuel m rest : Nat) → Nat × Nat
  | 0, m, rest => (m, rest)
  | fuel + 1, m, rest =>
    if rest ≤ daysInMonth y m then (m, rest) else monthOf y fuel (m + 1) (rest - daysInMonth y m)

/-- The date with a year and a day of that year, if there is one. -/
def ofYearDay? (y : Int) (n : Nat) : Option Date :=
  let (m, d) := monthOf y 12 1 n
  ofYmd? y m d

/-- The day of the year, from 1. -/
def yearDay (t : Date) : Nat := daysBeforeMonth t.year t.month + t.day

/-- The number of the day, with the first of January of the year 1 at `0`. -/
def dayNumber (t : Date) : Int := daysBeforeYear t.year + t.yearDay - 1

/-- The day of the week of a day number: the first of January of the year 1 is a Monday. -/
def weekdayOfNumber (n : Int) : Weekday := Weekday.ofIndex (n % 7).toNat

/-- The day of the week. -/
def weekday (t : Date) : Weekday := weekdayOfNumber t.dayNumber

/-- The date with a day number, if its year is supported. -/
def ofDayNumber? (n : Int) : Option Date :=
  -- A cycle of 400 years has 146097 days; the estimate is the year or the one after it.
  let guess := Int.fdiv (n * 400) 146097 + 1
  let y := if n < daysBeforeYear guess then guess - 1 else if daysBeforeYear (guess + 1) ≤ n then guess + 1 else guess
  ofYearDay? y (n - daysBeforeYear y + 1).toNat

/-- The quarter of the year, from 1. -/
def quarter (t : Date) : Nat := (t.month - 1) / 3 + 1

/-- The number of the week when weeks begin on `start` and days before the first `start` are in week 0. -/
def weekFrom (t : Date) (start : Weekday) : Int :=
  (t.yearDay + 6 - t.weekday.daysSince start : Int) / 7

/-- The number of ISO weeks of a year. -/
def isoWeeks (y : Int) : Nat :=
  let first := weekdayOfNumber (daysBeforeYear y)
  if first = .thursday ∨ (first = .wednesday ∧ isLeap y) then 53 else 52

/-- The ISO year and week. -/
def isoWeek (t : Date) : Int × Nat :=
  let w := ((t.yearDay : Int) - t.weekday.index + 9) / 7
  if w < 1 then (t.year - 1, isoWeeks (t.year - 1))
  else if (isoWeeks t.year : Int) < w then (t.year + 1, 1)
  else (t.year, w.toNat)

/-- The date with an ISO year, a week and a day of the week, if there is one. -/
def ofIsoWeek? (y : Int) (w : Nat) (d : Weekday) : Option Date :=
  if w = 0 ∨ isoWeeks y < w then none
  else
    -- The fourth of January is in the first week.
    let fourth := daysBeforeYear y + 3
    let monday := fourth - (weekdayOfNumber fourth).index
    ofDayNumber? (monday + 7 * (w - 1) + d.index)

/-- The text of a year: four digits, or a sign and at least four digits for a year outside of 0 to 9999. -/
def yearText (y : Int) : String :=
  if 0 ≤ y ∧ y ≤ 9999 then Numeral.padded 4 y.natAbs
  else (if y < 0 then "-" else "+") ++ Numeral.padded 4 y.natAbs

/-- The text of a date, year first. -/
def text (t : Date) : String :=
  yearText t.year ++ "-" ++ Numeral.padded 2 t.month ++ "-" ++ Numeral.padded 2 t.day

end Date

end ObjectGraph
