import ObjectGraph.Calendar.Fields
import ObjectGraph.Text.Blank

/-!
Patterns of dates and times: a letter after `%` stands for a field, blanks stand for any blanks, and
all else for itself.  A pattern is a list of pieces, and each piece reads a part of a text.
-/

namespace ObjectGraph

/-- The numbers that a pattern may ask for. -/
inductive DateNumber
  | field (k : DateField) (width : Nat) (low high : Int)
  | year (k : DateField)
  | hour
  | hourOfHalfDay
  | weekdayFromSunday
  | weekdayFromMonday
  | timestamp
deriving DecidableEq

/-- The parts of a pattern. -/
inductive DatePiece
  | literal (c : Char)
  | blanks
  | number (n : DateNumber)
  | monthName (long : Bool)
  | weekdayName (long : Bool)
  | halfDay
  /-- A point and digits, or nothing. -/
  | fraction (digits : Option Nat)
  /-- Digits of a fraction without a point. -/
  | bareFraction (digits : Nat)
  | zoneName
  | zone (zulu minutesOptional : Bool)
  /-- The letter or the blank between a date and a time. -/
  | dateTimeMark
  | zoneOrUtc
  | fault
deriving DecidableEq

namespace DatePattern
open DatePiece

/-- A number of at most two digits. -/
def two (k : DateField) (low high : Int) : DatePiece := number (.field k 2 low high)

def yearPiece : DatePiece := number (.year .year)
def monthPiece : DatePiece := two .month 1 12
def dayPiece : DatePiece := two .day 1 31
def hourPiece : DatePiece := number .hour
def minutePiece : DatePiece := two .minute 0 59
def secondPiece : DatePiece := two .second 0 60
def yearOfCenturyPiece : DatePiece := two .yearOfCentury 0 99

/-- The pieces of a letter after `%`. -/
def ofLetter (c : Char) : List DatePiece :=
  match c with
  | 'A' => [weekdayName true]
  | 'a' => [weekdayName false]
  | 'B' => [monthName true]
  | 'b' | 'h' => [monthName false]
  | 'C' => [two .century 0 2147483647]
  | 'c' =>
    [weekdayName false, blanks, monthName false, blanks, dayPiece, blanks, hourPiece, literal ':', minutePiece,
      literal ':', secondPiece, blanks, yearPiece]
  | 'D' | 'x' => [monthPiece, literal '/', dayPiece, literal '/', yearOfCenturyPiece]
  | 'd' | 'e' => [dayPiece]
  | 'F' => [yearPiece, literal '-', monthPiece, literal '-', dayPiece]
  | 'f' => [number (.field .nano 9 0 999999999)]
  | 'G' => [number (.year .isoYear)]
  | 'g' => [two .isoYearOfCentury 0 99]
  | 'H' | 'k' => [hourPiece]
  | 'I' | 'l' => [number .hourOfHalfDay]
  | 'j' => [number (.field .yearDay 3 1 366)]
  | 'M' => [minutePiece]
  | 'm' => [monthPiece]
  | 'n' | 't' => [blanks]
  | 'P' | 'p' => [halfDay]
  | 'q' => [number (.field .quarter 1 1 4)]
  | 'R' => [hourPiece, literal ':', minutePiece]
  | 'r' =>
    [number .hourOfHalfDay, literal ':', minutePiece, literal ':', secondPiece, blanks, halfDay]
  | 'S' => [secondPiece]
  | 's' => [number .timestamp]
  | 'T' | 'X' => [hourPiece, literal ':', minutePiece, literal ':', secondPiece]
  | 'U' => [two .weekFromSunday 0 53]
  | 'u' => [number .weekdayFromMonday]
  | 'V' => [two .isoWeek 1 53]
  | 'v' => [dayPiece, literal '-', monthName false, literal '-', yearPiece]
  | 'W' => [two .weekFromMonday 0 53]
  | 'w' => [number .weekdayFromSunday]
  | 'Y' => [yearPiece]
  | 'y' => [yearOfCenturyPiece]
  | 'Z' => [zoneName]
  | 'z' => [zone false false]
  | '+' =>
    [yearPiece, literal '-', monthPiece, literal '-', dayPiece, dateTimeMark, hourPiece, literal ':', minutePiece,
      literal ':', secondPiece, fraction none, blanks, zoneOrUtc]
  | '%' => [literal '%']
  | _ => [fault]

/-- The pieces of a letter after `%` and a mark of padding, which only a single number may have. -/
def ofPaddedLetter (c : Char) : List DatePiece :=
  match ofLetter c with
  | [number n] => [number n]
  | _ => [fault]

/-- The pieces of a pattern. -/
def pieces : List Char → List DatePiece
  | [] => []
  | '%' :: '.' :: 'f' :: cs => fraction none :: pieces cs
  | '%' :: '.' :: '3' :: 'f' :: cs => fraction (some 3) :: pieces cs
  | '%' :: '.' :: '6' :: 'f' :: cs => fraction (some 6) :: pieces cs
  | '%' :: '.' :: '9' :: 'f' :: cs => fraction (some 9) :: pieces cs
  | '%' :: '3' :: 'f' :: cs => bareFraction 3 :: pieces cs
  | '%' :: '6' :: 'f' :: cs => bareFraction 6 :: pieces cs
  | '%' :: '9' :: 'f' :: cs => bareFraction 9 :: pieces cs
  | '%' :: ':' :: 'z' :: cs => zone false false :: pieces cs
  | '%' :: ':' :: ':' :: 'z' :: cs => zone false false :: pieces cs
  | '%' :: ':' :: ':' :: ':' :: 'z' :: cs => zone false false :: pieces cs
  | '%' :: '#' :: 'z' :: cs => zone true true :: pieces cs
  | '%' :: '-' :: c :: cs => ofPaddedLetter c ++ pieces cs
  | '%' :: '0' :: c :: cs => ofPaddedLetter c ++ pieces cs
  | '%' :: '_' :: c :: cs => ofPaddedLetter c ++ pieces cs
  | '%' :: c :: cs => ofLetter c ++ pieces cs
  | ['%'] => [fault]
  | c :: cs => (if isBlank c then blanks else literal c) :: pieces cs

/-- The number of at most `width` digits at the start of a text; without a width of any length. -/
def readNumber? (width : Option Nat) (cs : List Char) : Option (Int × List Char) :=
  let run := cs.takeWhile Char.isDigit
  let ds := match width with
    | some w => run.take w
    | none => run
  let n := Numeral.ofDigits ds
  if ds.isEmpty || 9223372036854775807 < n then none else some (n, cs.drop ds.length)

/-- The digits of a fraction of a second at the start of a text, as nanoseconds; digits beyond nine are passed over. -/
def readNanos? (cs : List Char) : Option (Int × List Char) :=
  (readNumber? (some 9) cs).map fun (n, rest) =>
    (n * Nat.pow 10 (9 - (cs.length - rest.length)), rest.dropWhile Char.isDigit)

/-- The given number of digits of a fraction of a second at the start of a text, as nanoseconds. -/
def readFixedNanos? (count : Nat) (cs : List Char) : Option (Int × List Char) :=
  (readNumber? (some count) cs).bind fun (n, rest) =>
    if cs.length - rest.length = count then some (n * Nat.pow 10 (9 - count), rest) else none

/-- What is left of a text after a word, in which the case of letters does not count. -/
def afterWord? : (word cs : List Char) → Option (List Char)
  | [], cs => some cs
  | _ :: _, [] => none
  | w :: ws, c :: cs => if w = c.toLower then afterWord? ws cs else none

/-- The first name of a list at the start of a text, with its place; a name is a word and an optional rest. -/
def readName? (long : Bool) (names : List (String × String)) (cs : List Char) : Option (Nat × List Char) :=
  names.zipIdx.findSome? fun ((short, tail), i) =>
    (afterWord? short.toList cs).map fun rest =>
      (i, if long then (afterWord? tail.toList rest).getD rest else rest)

/-- The names of the months, cut after three letters. -/
def months : List (String × String) :=
  [("jan", "uary"), ("feb", "ruary"), ("mar", "ch"), ("apr", "il"), ("may", ""), ("jun", "e"), ("jul", "y"),
    ("aug", "ust"), ("sep", "tember"), ("oct", "ober"), ("nov", "ember"), ("dec", "ember")]

/-- The names of the days of the week, cut after three letters. -/
def weekdays : List (String × String) :=
  [("mon", "day"), ("tue", "sday"), ("wed", "nesday"), ("thu", "rsday"), ("fri", "day"), ("sat", "urday"),
    ("sun", "day")]

/-- Two digits at the start of a text. -/
def readTwo? : List Char → Option (Int × List Char)
  | a :: b :: cs => if a.isDigit && b.isDigit then some (Numeral.ofDigits [a, b], cs) else none
  | _ => none

/-- The distance from universal time at the start of a text, in seconds. -/
def readZone? (zulu minutesOptional : Bool) (cs : List Char) : Option (Int × List Char) :=
  let signed (sign : Int) (cs : List Char) : Option (Int × List Char) := do
    let (hours, cs) ← readTwo? cs
    let cs := cs.dropWhile fun c => c == ':' || isBlank c
    if cs.isEmpty && minutesOptional then return (sign * (hours * 3600), cs)
    let (minutes, cs) ← readTwo? cs
    if 59 < minutes then none else return (sign * (hours * 3600 + minutes * 60), cs)
  match cs with
  | '+' :: rest => signed 1 rest
  | '-' :: rest => signed (-1) rest
  | '\u2212' :: rest => signed (-1) rest
  | c :: rest => if zulu && (c == 'Z' || c == 'z') then some (0, rest) else none
  | [] => none

/-- Adds what a number says to the fields. -/
def putNumber (s : DateFields) (n : Int) : DateNumber → Except DateFault DateFields
  | .field k _ low high => s.putIn k low high n
  | .year k => s.putIn k (-2147483648) 2147483647 n
  | .hour => s.putHour n
  | .hourOfHalfDay => if 1 ≤ n ∧ n ≤ 12 then s.put .hourOfHalfDay (n % 12) else .error .outOfRange
  | .weekdayFromSunday => if 0 ≤ n ∧ n ≤ 6 then s.put .weekday ((n + 6) % 7) else .error .outOfRange
  | .weekdayFromMonday => if 1 ≤ n ∧ n ≤ 7 then s.put .weekday (n - 1) else .error .outOfRange
  | .timestamp => s.put .timestamp n

/-- The number at the start of a text; only a year may have a sign, and then any number of digits. -/
def readFor? (n : DateNumber) (cs : List Char) : Option (Int × List Char) :=
  match n with
  | .field _ width _ _ => readNumber? (some width) cs
  | .year _ =>
    match cs with
    | '-' :: rest => (readNumber? none rest).map fun (n, rest) => (-n, rest)
    | '+' :: rest => readNumber? none rest
    | _ => readNumber? (some 4) cs
  | .hour | .hourOfHalfDay => readNumber? (some 2) cs
  | .weekdayFromSunday | .weekdayFromMonday => readNumber? (some 1) cs
  | .timestamp => readNumber? none cs

/-- Reads one piece: the fields after it and the rest of the text, or nothing if the text does not fit. -/
def readPiece? (s : DateFields) (cs : List Char) : DatePiece → Option (DateFields × List Char)
  | .literal c =>
    match cs with
    | d :: rest => if c = d then some (s, rest) else none
    | [] => none
  | .blanks => some (s, dropBlanks cs)
  | .number n => do
    let (v, rest) ← readFor? n (dropBlanks cs)
    return (← (putNumber s v n).toOption, rest)
  | .monthName long => do
    let (i, rest) ← readName? long months cs
    return (← (s.put .month (i + 1)).toOption, rest)
  | .weekdayName long => do
    let (i, rest) ← readName? long weekdays cs
    return (← (s.put .weekday i).toOption, rest)
  | .halfDay => do
    let (i, rest) ← readName? false [("am", ""), ("pm", "")] cs
    return (← (s.put .halfDay i).toOption, rest)
  | .fraction digits =>
    match cs with
    | '.' :: rest => do
      let (n, rest) ← match digits with
        | some count => readFixedNanos? count rest
        | none => readNanos? rest
      return (← (s.putIn .nano 0 999999999 n).toOption, rest)
    | _ => some (s, cs)
  | .bareFraction count => do
    let (n, rest) ← readFixedNanos? count cs
    return (← (s.putIn .nano 0 999999999 n).toOption, rest)
  | .zoneName => some (s, cs.dropWhile fun c => !isBlank c)
  | .zone zulu minutesOptional => do
    let (n, rest) ← readZone? zulu minutesOptional (dropBlanks cs)
    return (← (s.put .offset n).toOption, rest)
  | .dateTimeMark =>
    match cs with
    | c :: rest => if c = 't' ∨ c = 'T' ∨ c = ' ' then some (s, rest) else none
    | [] => none
  | .zoneOrUtc => do
    let (n, rest) ← match afterWord? ['u', 't', 'c'] cs with
      | some rest => some (0, rest)
      | none => readZone? true false cs
    return (← (s.put .offset n).toOption, rest)
  | .fault => none

/-- Reads pieces one after the other. -/
def readPieces? : List DatePiece → DateFields → List Char → Option (DateFields × List Char)
  | [], s, cs => some (s, cs)
  | p :: ps, s, cs => (readPiece? s cs p).bind fun (s, cs) => readPieces? ps s cs

/-- The fields of a text that pieces read to its end. -/
def fields? (ps : List DatePiece) (cs : List Char) : Option DateFields :=
  match readPieces? ps .empty cs with
  | some (s, []) => some s
  | _ => none

/-- The pieces of a date as it is written without a pattern. -/
def isoDate : List DatePiece :=
  [yearPiece, blanks, literal '-', monthPiece, blanks, literal '-', dayPiece, blanks]

/-- The pieces of an hour and a minute. -/
def isoMinute : List DatePiece := [hourPiece, blanks, literal ':', minutePiece]

/-- The pieces of a second with an optional fraction. -/
def isoSecond : List DatePiece := [blanks, literal ':', secondPiece, fraction none, blanks]

/-- The pieces of a date and a time with a second. -/
def isoDateTime : List DatePiece := isoDate ++ [literal 'T'] ++ isoMinute ++ isoSecond

/-- The pieces of a date and a time with blanks between them. -/
def spacedDateTime : List DatePiece := pieces "%Y-%m-%d %H:%M:%S%.f".toList

end DatePattern

namespace Date

/-- The date that a text and a pattern determine. -/
def read? (pattern text : String) : Option Date :=
  (DatePattern.fields? (DatePattern.pieces pattern.toList) text.toList).bind fun s => s.date.toOption

/-- The date of a text with the year first. -/
def parse? (text : String) : Option Date :=
  (DatePattern.fields? DatePattern.isoDate text.toList).bind fun s => s.date.toOption

end Date

namespace Clock

/-- The time that a text and a pattern determine. -/
def read? (pattern text : String) : Option Clock :=
  (DatePattern.fields? (DatePattern.pieces pattern.toList) text.toList).bind fun s => s.time.toOption

/-- The time of a text with an hour and a minute, and a second if there is one. -/
def parse? (text : String) : Option Clock :=
  let cs := text.toList
  let whole := DatePattern.fields? (DatePattern.isoMinute ++ DatePattern.isoSecond) cs
  let short := DatePattern.fields? (DatePattern.isoMinute ++ [.blanks]) cs
  (whole <|> short).bind fun s => s.time.toOption

end Clock

namespace DateTime

/-- The date and time that a text and a pattern determine. -/
def read? (pattern text : String) : Option DateTime :=
  (DatePattern.fields? (DatePattern.pieces pattern.toList) text.toList).bind fun s => s.dateTime.toOption

/-- The date and time of a text with the letter `T` between them. -/
def parse? (text : String) : Option DateTime :=
  (DatePattern.fields? DatePattern.isoDateTime text.toList).bind fun s => s.dateTime.toOption

/-- The date and time of a text with blanks, or nothing, between them. -/
def parseSpaced? (text : String) : Option DateTime :=
  (DatePattern.fields? DatePattern.spacedDateTime text.toList).bind fun s => s.dateTime.toOption

end DateTime

end ObjectGraph
