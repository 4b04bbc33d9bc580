import RowSql.Number.Whole
/-!
# Date — days and moments

Dates of the Gregorian calendar, extended to all years, and moments within a day.  A date is counted in days from
1970-01-01, a moment in seconds.
-/
namespace RowSql
namespace Calendar

/-- The first and the last year that a date may have. -/
def firstYear : Int := -262143

@[inherit_doc firstYear] def lastYear : Int := 262142

def isLeap (year : Int) : Bool := year % 4 == 0 && (year % 100 != 0 || year % 400 == 0)

def monthLength (year : Int) (month : Nat) : Nat :=
  if month = 2 then (if isLeap year then 29 else 28)
  else if month = 4 ∨ month = 6 ∨ month = 9 ∨ month = 11 then 30
  else 31

/-- **A date.** -/
structure Date where
  year : Int
  month : Nat
  day : Nat
deriving DecidableEq, Repr, Inhabited

namespace Date

/-- The date of a year, a month and a day, if the calendar has it. -/
def make? (year : Int) (month day : Nat) : Option Date :=
  if firstYear ≤ year ∧ year ≤ lastYear ∧ 1 ≤ month ∧ month ≤ 12 ∧ 1 ≤ day ∧ day ≤ monthLength year month then
    some ⟨year, month, day⟩
  else none

/-- The number of days from 1970-01-01.  Years are counted from March on, so that the leap day is their last one. -/
def toDays (d : Date) : Int :=
  let y := if d.month ≤ 2 then d.year - 1 else d.year
  let era := y / 400
  let yearOfEra := y % 400
  let monthFromMarch : Int := (d.month + 9) % 12
  let dayOfYear := (153 * monthFromMarch + 2) / 5 + d.day - 1
  era * 146097 + (yearOfEra * 365 + yearOfEra / 4 - yearOfEra / 100 + dayOfYear) - 719468

/-- The date at a number of days from 1970-01-01. -/
def ofDays (n : Int) : Date :=
  let z := n + 719468
  let era := z / 146097
  let dayOfEra := z % 146097
  let yearOfEra := (dayOfEra - dayOfEra / 1460 + dayOfEra / 36524 - dayOfEra / 146096) / 365
  let dayOfYear := dayOfEra - (365 * yearOfEra + yearOfEra / 4 - yearOfEra / 100)
  let monthFromMarch := (5 * dayOfYear + 2) / 153
  let day := dayOfYear - (153 * monthFromMarch + 2) / 5 + 1
  let month := (monthFromMarch + 2) % 12 + 1
  ⟨yearOfEra + era * 400 + (if month ≤ 2 then 1 else 0), month.toNat, day.toNat⟩

/-- The date at a number of days from 1970-01-01, unless its year is out of range. -/
def ofDays? (n : Int) : Option Date :=
  let d := ofDays n
  if firstYear ≤ d.year ∧ d.year ≤ lastYear then some d else none

/-- The date some days later. -/
def addDays? (d : Date) (n : Int) : Option Date := ofDays? (d.toDays + n)

/-- The day of the year, from one on. -/
def ordinal (d : Date) : Nat := (d.toDays - toDays ⟨d.year, 1, 1⟩ + 1).toNat

/-- The date of a day of a year. -/
def ofOrdinal? (year : Int) (n : Nat) : Option Date :=
  if firstYear ≤ year ∧ year ≤ lastYear ∧ 1 ≤ n ∧ n ≤ (if isLeap year then 366 else 365) then
    some (ofDays (toDays ⟨year, 1, 1⟩ + n - 1))
  else none

/-- The day of the week, from Monday, zero, to Sunday, six. -/
def weekday (d : Date) : Nat := ((d.toDays + 3) % 7).toNat

def quarter (d : Date) : Nat := (d.month - 1) / 3 + 1

/-- The number of weeks of a year: a week belongs to the year of its Thursday. -/
def weeksOfYear (year : Int) : Nat :=
  let first := weekday ⟨year, 1, 1⟩
  if first = 3 ∨ (first = 2 ∧ isLeap year) then 53 else 52

/-- The week of the year. -/
def week (d : Date) : Nat :=
  let w := (d.ordinal + 9 - d.weekday) / 7
  if w = 0 then weeksOfYear (d.year - 1)
  else if weeksOfYear d.year < w then 1
  else w

end Date

/-- **A moment**: a date, a second of the day and a fraction of the second in nanoseconds.  A leap second counts as a
fraction beyond the last second. -/
structure Moment where
  date : Date
  second : Nat
  nanosecond : Nat
deriving DecidableEq, Repr, Inhabited

namespace Moment

/-- The seconds of a day. -/
def daySeconds : Nat := 86400

/-- A billion nanoseconds are a second. -/
def secondNanos : Nat := 1000000000

def midnight (d : Date) : Moment := ⟨d, 0, 0⟩

/-- **The number of seconds from 1970-01-01 00:00:00.** -/
def toSeconds (t : Moment) : Int := t.date.toDays * daySeconds + t.second

/-- **The moment at a number of seconds**, unless its year is out of range. -/
def ofSeconds? (n : Int) : Option Moment :=
  (Date.ofDays? (n / daySeconds)).map fun d => ⟨d, (n % daySeconds).toNat, 0⟩

/-- The moment some seconds earlier, with the same fraction. -/
def sub? (t : Moment) (seconds : Int) : Option Moment :=
  (ofSeconds? (t.toSeconds - seconds)).map fun u => { u with nanosecond := t.nanosecond }

def hour (t : Moment) : Nat := t.second / 3600

def minute (t : Moment) : Nat := t.second / 60 % 60

def secondOfMinute (t : Moment) : Nat := t.second % 60

end Moment
end Calendar
end RowSql
