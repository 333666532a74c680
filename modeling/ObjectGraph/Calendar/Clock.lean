import ObjectGraph.Calendar.Date

/-!
Times of a day with nanoseconds, in which a leap second may follow any second 59, and dates with a
time.
-/

namespace ObjectGraph

/-- A time of day.  In a leap second `second` is 59 and `nano` is a billion or more. -/
structure Clock where
  hour : Nat
  minute : Nat
  second : Nat
  nano : Nat
  inDay : hour < 24 ∧ minute < 60 ∧ second < 60
  inSecond : nano < 1000000000 ∨ (second = 59 ∧ nano < 2000000000)
deriving DecidableEq

namespace Clock

/-- The time with an hour, a minute, a second and nanoseconds, if there is one. -/
def ofParts? (h m s n : Nat) : Option Clock :=
  if hd : h < 24 ∧ m < 60 ∧ s < 60 then
    if hs : n < 1000000000 ∨ (s = 59 ∧ n < 2000000000) then some ⟨h, m, s, n, hd, hs⟩ else none
  else none

/-- The start of a day. -/
def midnight : Clock := ⟨0, 0, 0, 0, by decide, by decide⟩

/-- The seconds since midnight. -/
def secondOfDay (t : Clock) : Nat := t.hour * 3600 + t.minute * 60 + t.second

/-- The text of a fraction of a second: nothing, or 3, 6 or 9 digits after a point. -/
def fractionText (nano : Nat) : String :=
  if nano = 0 then ""
  else if nano % 1000000 = 0 then "." ++ Numeral.padded 3 (nano / 1000000)
  else if nano % 1000 = 0 then "." ++ Numeral.padded 6 (nano / 1000)
  else "." ++ Numeral.padded 9 nano

/-- The text of a time; a leap second is written as second 60. -/
def text (t : Clock) : String :=
  Numeral.padded 2 t.hour ++ ":" ++ Numeral.padded 2 t.minute ++ ":" ++
    Numeral.padded 2 (t.second + t.nano / 1000000000) ++ fractionText (t.nano % 1000000000)

end Clock

/-- A date with a time of that day. -/
structure DateTime where
  date : Date
  time : Clock
deriving DecidableEq

namespace DateTime

/-- The text of a date, the letter `T` and the text of a time. -/
def text (t : DateTime) : String := t.date.text ++ "T" ++ t.time.text

/-- The seconds since the start of the year 1970. -/
def timestamp (t : DateTime) : Int :=
  (t.date.dayNumber - Calendar.daysBeforeYear 1970) * 86400 + t.time.secondOfDay

/-- The date and time of a number of seconds since the start of the year 1970. -/
def ofTimestamp? (n : Int) : Option DateTime := do
  let date ← Date.ofDayNumber? (Int.fdiv n 86400 + Calendar.daysBeforeYear 1970)
  let s := (n % 86400).toNat
  let time ← Clock.ofParts? (s / 3600) (s / 60 % 60) (s % 60) 0
  some ⟨date, time⟩

end DateTime

end ObjectGraph
