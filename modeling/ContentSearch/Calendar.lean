import ContentSearch.Text.Digits

/-!
# Dates and times of day

Dates are those of the proleptic Gregorian calendar, which has a year zero and
leap years in both directions.  The years are bounded; within the bounds every
day of every month is a date, and nothing else is.  A time of day counts
nanoseconds within its second.  A second of nanoseconds or more marks a leap
second, which can follow any second and is written as the second after it:
second sixty, if it follows second fifty-nine.

Years from zero to 9999 are written with four digits.  All other years carry a
sign, so that the text shows where the year ends and which era it belongs to.
-/

namespace ContentSearch

/-- Every fourth year is a leap year, except full centuries whose number is
not divisible by four. -/
def isLeapYear (year : Int) : Bool :=
  year % 4 == 0 && (year % 100 != 0 || year % 400 == 0)

/-- The number of days of a month, counted from one; zero for a month that
does not exist. -/
def daysInMonth (year : Int) (month : Nat) : Nat :=
  match month with
  | 1 | 3 | 5 | 7 | 8 | 10 | 12 => 31
  | 4 | 6 | 9 | 11 => 30
  | 2 => if isLeapYear year then 29 else 28
  | _ => 0

def firstYear : Int := -262143

def lastYear : Int := 262142

structure Date where
  year : Int
  month : Nat
  day : Nat
  firstYear_le : firstYear ≤ year
  le_lastYear : year ≤ lastYear
  day_pos : 1 ≤ day
  day_le : day ≤ daysInMonth year month
  deriving DecidableEq

namespace Date

/-- The date with these fields, if the calendar has it. -/
def of? (year : Int) (month day : Nat) : Option Date :=
  if valid : firstYear ≤ year ∧ year ≤ lastYear ∧ 1 ≤ day ∧
      day ≤ daysInMonth year month then
    some ⟨year, month, day, valid.1, valid.2.1, valid.2.2.1, valid.2.2.2⟩
  else
    none

/-- A year: four digits, with a sign outside the years zero to 9999. -/
def yearCharacters (year : Int) : List Char :=
  if 0 ≤ year ∧ year ≤ 9999 then
    Text.padded 4 year.natAbs
  else
    (if year < 0 then '-' else '+') :: Text.padded 4 year.natAbs

/-- Year, month and day, with hyphens between them. -/
def characters (date : Date) : List Char :=
  yearCharacters date.year ++ '-' :: Text.padded 2 date.month ++
    '-' :: Text.padded 2 date.day

end Date

def nanosecondsPerSecond : Nat := 1000000000

/-- A time of day.  A second of nanoseconds or more marks the leap second that
follows the second. -/
structure TimeOfDay where
  hour : Nat
  minute : Nat
  second : Nat
  nanosecond : Nat
  hour_lt : hour < 24
  minute_lt : minute < 60
  second_lt : second < 60
  nanosecond_lt : nanosecond < 2 * nanosecondsPerSecond
  deriving DecidableEq

namespace TimeOfDay

def of? (hour minute second nanosecond : Nat) : Option TimeOfDay :=
  if valid : hour < 24 ∧ minute < 60 ∧ second < 60 ∧
      nanosecond < 2 * nanosecondsPerSecond then
    some ⟨hour, minute, second, nanosecond, valid.1, valid.2.1, valid.2.2.1,
      valid.2.2.2⟩
  else
    none

/-- The second as it is written; one more in a leap second. -/
def shownSecond (time : TimeOfDay) : Nat :=
  time.second + time.nanosecond / nanosecondsPerSecond

/-- The full milliseconds of the second that is shown. -/
def millisecond (time : TimeOfDay) : Nat :=
  time.nanosecond % nanosecondsPerSecond / 1000000

/-- Hour, minute and second, with colons between them. -/
def characters (time : TimeOfDay) : List Char :=
  Text.padded 2 time.hour ++ ':' :: Text.padded 2 time.minute ++
    ':' :: Text.padded 2 time.shownSecond

end TimeOfDay

structure Moment where
  date : Date
  time : TimeOfDay
  deriving DecidableEq

namespace Moment

/-- Date and time to the second, with a `T` between them. -/
def characters (moment : Moment) : List Char :=
  moment.date.characters ++ 'T' :: moment.time.characters

/-- Date and time to the millisecond, marked as universal time. -/
def universalCharacters (moment : Moment) : List Char :=
  moment.characters ++ '.' :: Text.padded 3 moment.time.millisecond ++ ['Z']

end Moment

end ContentSearch
