import ObjectGraph.Calendar.Clock

/-!
Fields of dates and times, as they are read one after the other from a text, and the date or the
time that a set of them determines.  Fields that determine nothing more have to agree with it.
-/

namespace ObjectGraph

/-- What one number of a text can say about a date or a time. -/
inductive DateField
  | year
  | century
  | yearOfCentury
  | isoYear
  | isoCentury
  | isoYearOfCentury
  | quarter
  | month
  | day
  | weekFromSunday
  | weekFromMonday
  | isoWeek
  | weekday
  | yearDay
  | halfDay
  | hourOfHalfDay
  | minute
  | second
  | nano
  | timestamp
  | offset
deriving DecidableEq

/-- Why fields determine no date or time. -/
inductive DateFault
  | missing
  | impossible
  | outOfRange
deriving DecidableEq

/-- The fields read so far. -/
structure DateFields where
  entries : List (DateField × Int)

namespace DateFields

/-- No field has been read. -/
def empty : DateFields := ⟨[]⟩

/-- The value of a field that has been read. -/
def get? (s : DateFields) (k : DateField) : Option Int := s.entries.lookup k

/-- Adds a field; one that has been read before has to have the same value. -/
def put (s : DateFields) (k : DateField) (n : Int) : Except DateFault DateFields :=
  match s.get? k with
  | some m => if m = n then .ok s else .error .impossible
  | none => .ok ⟨(k, n) :: s.entries⟩

/-- Adds a field whose value has to lie between bounds. -/
def putIn (s : DateFields) (k : DateField) (low high n : Int) : Except DateFault DateFields :=
  if low ≤ n ∧ n ≤ high then s.put k n else .error .outOfRange

/-- Adds an hour of 24. -/
def putHour (s : DateFields) (n : Int) : Except DateFault DateFields :=
  if 0 ≤ n ∧ n ≤ 23 then do (← s.put .halfDay (n / 12)).put .hourOfHalfDay (n % 12)
  else .error .outOfRange

/-- Whether a field is absent or has a value. -/
def agrees (s : DateFields) (k : DateField) (n : Int) : Bool := (s.get? k).all (· == n)

/-- The year that a year, its century and its place in the century determine. -/
def resolveYear (whole high low : Option Int) : Except DateFault (Option Int) :=
  match whole, high, low with
  | y, none, none => .ok y
  | some y, c, r =>
    if 0 ≤ y ∧ c.all (· == y / 100) ∧ r.all (· == y % 100) then .ok (some y) else .error .impossible
  | none, some c, some r =>
    let y := c * 100 + r
    if y ≤ 2147483647 then .ok (some y) else .error .outOfRange
  | none, none, some r => .ok (some (if r < 70 then 2000 + r else 1900 + r))
  | none, some _, none => .error .missing

/-- Whether a century and a place in it, as far as they are given, are those of a year. -/
def centuryAgrees (s : DateFields) (high low : DateField) (y : Int) : Bool :=
  if 0 ≤ y then s.agrees high (y / 100) && s.agrees low (y % 100)
  else (s.get? high).isNone && (s.get? low).isNone

/-- Whether year, month and day, as far as they are given, are those of a date. -/
def ymdAgrees (s : DateFields) (t : Date) : Bool :=
  s.agrees .year t.year && s.centuryAgrees .century .yearOfCentury t.year && s.agrees .month t.month &&
    s.agrees .day t.day

/-- Whether ISO year, week and weekday, as far as they are given, are those of a date. -/
def isoAgrees (s : DateFields) (t : Date) : Bool :=
  let (y, w) := t.isoWeek
  s.agrees .isoYear y && s.centuryAgrees .isoCentury .isoYearOfCentury y && s.agrees .isoWeek w &&
    s.agrees .weekday t.weekday.index

/-- Whether the day and the weeks of the year, as far as they are given, are those of a date. -/
def yearDayAgrees (s : DateFields) (t : Date) : Bool :=
  s.agrees .yearDay t.yearDay && s.agrees .weekFromSunday (t.weekFrom .sunday) &&
    s.agrees .weekFromMonday (t.weekFrom .monday)

/-- The date in a week counted from the first `start` of a year. -/
def ofWeek (y week : Int) (d start : Weekday) : Except DateFault Date :=
  match Date.ofYearDay? y 1 with
  | none => .error .outOfRange
  | some first =>
    let n : Int := 1 + start.daysSince first.weekday + (week - 1) * 7 + d.daysSince start
    if n ≤ 0 then .error .impossible
    else
      match Date.ofYearDay? y n.toNat with
      | some t => .ok t
      | none => .error .impossible

/-- A date that has to exist. -/
def existing (t : Option Date) : Except DateFault Date :=
  match t with
  | some t => .ok t
  | none => .error .outOfRange

/-- The date that the fields determine, from the first sufficient choice of them. -/
def candidate (s : DateFields) (year isoYear : Option Int) : Except DateFault (Date × Bool) := do
  let weekday := (s.get? .weekday).map fun n => Weekday.ofIndex n.toNat
  match year, s.get? .month, s.get? .day with
  | some y, some m, some d =>
    let t ← existing (Date.ofYmd? y m.toNat d.toNat)
    return (t, s.isoAgrees t && s.yearDayAgrees t)
  | _, _, _ =>
  match year, s.get? .yearDay with
  | some y, some n =>
    let t ← existing (Date.ofYearDay? y n.toNat)
    return (t, s.ymdAgrees t && s.isoAgrees t && s.yearDayAgrees t)
  | _, _ =>
  match year, s.get? .weekFromSunday, weekday with
  | some y, some w, some d =>
    let t ← ofWeek y w d .sunday
    return (t, s.ymdAgrees t && s.isoAgrees t && s.yearDayAgrees t)
  | _, _, _ =>
  match year, s.get? .weekFromMonday, weekday with
  | some y, some w, some d =>
    let t ← ofWeek y w d .monday
    return (t, s.ymdAgrees t && s.isoAgrees t && s.yearDayAgrees t)
  | _, _, _ =>
  match isoYear, s.get? .isoWeek, weekday with
  | some y, some w, some d =>
    let t ← existing (Date.ofIsoWeek? y w.toNat d)
    return (t, s.ymdAgrees t && s.yearDayAgrees t)
  | _, _, _ => .error .missing

/-- The date that the fields determine. -/
def date (s : DateFields) : Except DateFault Date := do
  let year ← resolveYear (s.get? .year) (s.get? .century) (s.get? .yearOfCentury)
  let isoYear ← resolveYear (s.get? .isoYear) (s.get? .isoCentury) (s.get? .isoYearOfCentury)
  let (t, agrees) ← s.candidate year isoYear
  if agrees && s.agrees .quarter t.quarter then .ok t else .error .impossible

/-- The time that the fields determine; without a second it is the start of the minute. -/
def time (s : DateFields) : Except DateFault Clock :=
  match s.get? .halfDay, s.get? .hourOfHalfDay, s.get? .minute with
  | some half, some hour, some minute =>
    let second := s.get? .second
    if second.isNone && (s.get? .nano).isSome then .error .missing
    else
      let nano := ((s.get? .nano).getD 0).toNat
      let parts := if second = some 60 then (59, 1000000000 + nano) else ((second.getD 0).toNat, nano)
      match Clock.ofParts? (half * 12 + hour).toNat minute.toNat parts.1 parts.2 with
      | some t => .ok t
      | none => .error .outOfRange
  | _, _, _ => .error .missing

/-- Fills in the fields of a date and time, which have to agree with those that are there. -/
def fill (s : DateFields) (t : DateTime) : Except DateFault DateFields := do
  let s ← s.put .year t.date.year
  let s ← s.put .yearDay t.date.yearDay
  let s ← s.putHour t.time.hour
  s.put .minute t.time.minute

/-- The date and time of a timestamp, with which all other fields have to agree. -/
def ofTimestamp (s : DateFields) (n : Int) : Except DateFault DateTime := do
  match DateTime.ofTimestamp? n, DateTime.ofTimestamp? (n - 1) with
  | some t, before =>
    let s ←
      if s.get? .second = some 60 then
        -- The text names a leap second, which a timestamp counts as the second before or after it.
        if t.time.second = 59 then s.fill t
        else if t.time.second = 0 then
          match before with
          | some t => s.fill t
          | none => .error .outOfRange
        else .error .impossible
      else (← s.put .second t.time.second).fill t
    return ⟨← s.date, ← s.time⟩
  | none, _ => .error .outOfRange

/-- The date and time that the fields determine. -/
def dateTime (s : DateFields) : Except DateFault DateTime :=
  match s.date, s.time, s.get? .timestamp with
  | .ok date, .ok time, n =>
    let t : DateTime := ⟨date, time⟩
    let leap := 1000000000 ≤ time.nano
    if n.all fun n => n == t.timestamp || (leap && n == t.timestamp + 1) then .ok t else .error .impossible
  | date, time, some n =>
    if date matches .error .outOfRange || time matches .error .outOfRange then .error .outOfRange
    else if date matches .error .impossible || time matches .error .impossible then .error .impossible
    else s.ofTimestamp n
  | .error e, _, none => .error e
  | .ok _, .error e, none => .error e

end DateFields

end ObjectGraph
