import Nesting.Text.Quoted

/-!
# Dates and times

Configuration files can hold dates, times of day, and moments, which are a date and a time of day in
a time zone. No setting takes one, so all that is done with them is to show them in messages. The
calendar is the Gregorian one, also before it was introduced.
-/

namespace Nesting

/-- The decimal digits of a number, with zeros in front up to the given width. -/
def zeroPadded (width n : Nat) : String :=
  let digits := Nat.toDigits 10 n
  String.ofList (List.replicate (width - digits.length) '0' ++ digits)

/-! ## Dates -/

/-- A day of the calendar. -/
structure Date where
  year : Nat
  month : Nat
  day : Nat
  deriving DecidableEq

namespace Date

/-- Whether a year has a leap day. -/
def isLeap (year : Nat) : Bool :=
  year % 4 = 0 && (year % 100 ≠ 0 || year % 400 = 0)

/-- The number of days of a month. -/
def daysIn (year month : Nat) : Nat :=
  if month = 2 then if isLeap year then 29 else 28
  else if month ∈ [4, 6, 9, 11] then 30
  else 31

/-- Whether the calendar has such a day. -/
def isValid (d : Date) : Bool :=
  1 ≤ d.month && d.month ≤ 12 && 1 ≤ d.day && d.day ≤ daysIn d.year d.month

/-- The day after. -/
def next (d : Date) : Date :=
  if d.day < daysIn d.year d.month then { d with day := d.day + 1 }
  else if d.month < 12 then { d with month := d.month + 1, day := 1 }
  else ⟨d.year + 1, 1, 1⟩

/-- A date as it is shown. -/
def plain (d : Date) : String :=
  zeroPadded 4 d.year ++ "-" ++ zeroPadded 2 d.month ++ "-" ++ zeroPadded 2 d.day

/-- A date with the names of its parts. -/
def literal (d : Date) : String :=
  "toml.LocalDate\x7bYear:" ++ toString d.year ++ ", Month:" ++ toString d.month
    ++ ", Day:" ++ toString d.day ++ "\x7d"

end Date

/-- The name of a month. -/
def monthName (month : Nat) : String :=
  ["January", "February", "March", "April", "May", "June", "July", "August", "September",
    "October", "November", "December"].getD (month - 1) ""

/-! ## Times of day -/

/-- A time of day. The last second of a day can be the 61st of its minute. -/
structure TimeOfDay where
  hour : Nat
  minute : Nat
  second : Nat
  nanosecond : Nat := 0
  /-- How many digits of a fraction of a second are given. -/
  precision : Nat := 0
  deriving DecidableEq

namespace TimeOfDay

/-- Hours, minutes and seconds. -/
def clock (t : TimeOfDay) : String :=
  zeroPadded 2 t.hour ++ ":" ++ zeroPadded 2 t.minute ++ ":" ++ zeroPadded 2 t.second

/-- The nine digits of the fraction of a second. -/
def fractionDigits (t : TimeOfDay) : Text :=
  (zeroPadded 9 t.nanosecond).toList

/-- A time as it is shown, with the digits that are given. -/
def plain (t : TimeOfDay) : String :=
  t.clock
    ++ if t.precision = 0 then "" else String.ofList ('.' :: t.fractionDigits.take t.precision)

/-- A time with the names of its parts. -/
def literal (t : TimeOfDay) : String :=
  "toml.LocalTime\x7bHour:" ++ toString t.hour ++ ", Minute:" ++ toString t.minute
    ++ ", Second:" ++ toString t.second ++ ", Nanosecond:" ++ toString t.nanosecond
    ++ ", Precision:" ++ toString t.precision ++ "\x7d"

end TimeOfDay

/-! ## Moments -/

/-- A time zone. -/
inductive Zone where
  | utc
  /-- The zone of the place where the program runs, which counts as UTC. -/
  | here
  /-- So many minutes ahead of UTC. -/
  | offset (minutes : Int)
  deriving DecidableEq

namespace Zone

/-- A number of minutes in hours and minutes, with its sign. -/
def hoursAndMinutes (minutes : Int) : String :=
  (if minutes < 0 then "-" else "+") ++ zeroPadded 2 (minutes.natAbs / 60)
    ++ zeroPadded 2 (minutes.natAbs % 60)

/-- A zone as it is shown: its distance from UTC, and its name; without a name the distance
again. -/
def plain : Zone → String
  | utc | here => "+0000 UTC"
  | offset minutes => hoursAndMinutes minutes ++ " " ++ hoursAndMinutes minutes

/-- A zone in the literal form of a moment. -/
def literal : Zone → String
  | utc => "time.UTC"
  | here => "time.Local"
  | offset _ => "time.Location(\"\")"

end Zone

/-- A moment: date and time of day at a place. -/
structure Moment where
  date : Date
  time : TimeOfDay
  zone : Zone
  deriving DecidableEq

namespace Moment

/-- The moment with a second that its minute has: the 61st is the first of the next one. -/
def normal (m : Moment) : Moment :=
  if m.time.second < 60 then m
  else if m.time.minute < 59 then
    { m with time := { m.time with minute := m.time.minute + 1, second := 0 } }
  else if m.time.hour < 23 then
    { m with time := { m.time with hour := m.time.hour + 1, minute := 0, second := 0 } }
  else
    { m with date := m.date.next, time := { m.time with hour := 0, minute := 0, second := 0 } }

/-- The fraction of the second, without zeros at its end. -/
def fraction (m : Moment) : String :=
  if m.time.nanosecond = 0 then ""
  else String.ofList ('.' :: (m.time.fractionDigits.reverse.dropWhile (· = '0')).reverse)

/-- A moment as it is shown. -/
def plain (m : Moment) : String :=
  m.date.plain ++ " " ++ m.time.clock ++ m.fraction ++ " " ++ m.zone.plain

/-- A moment with its parts one after the other. -/
def literal (m : Moment) : String :=
  "time.Date(" ++ ", ".intercalate
    [toString m.date.year, "time." ++ monthName m.date.month, toString m.date.day,
      toString m.time.hour, toString m.time.minute, toString m.time.second,
      toString m.time.nanosecond, m.zone.literal] ++ ")"

end Moment

/-! ## Values of the calendar -/

/-- A date, a time of day, or both, at no place or at some. -/
inductive CalendarValue where
  | date (d : Date)
  | time (t : TimeOfDay)
  | dateTime (d : Date) (t : TimeOfDay)
  | moment (m : Moment)
  deriving DecidableEq

namespace CalendarValue

/-- The name of a value's type. -/
def typeName : CalendarValue → String
  | date _ => "toml.LocalDate"
  | time _ => "toml.LocalTime"
  | dateTime _ _ => "toml.LocalDateTime"
  | moment _ => "time.Time"

/-- A value as it is shown. -/
def plain : CalendarValue → String
  | date d => d.plain
  | time t => t.plain
  | dateTime d t => d.plain ++ "T" ++ t.plain
  | moment m => m.plain

/-- A value in its literal form. -/
def literal : CalendarValue → String
  | date d => d.literal
  | time t => t.literal
  | dateTime d t =>
    "toml.LocalDateTime\x7bLocalDate:" ++ d.literal ++ ", LocalTime:" ++ t.literal ++ "\x7d"
  | moment m => m.literal

end CalendarValue

end Nesting
