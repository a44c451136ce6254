/-!
# Dates

Days of the proleptic Gregorian calendar, within the years that a timestamp can hold.

* `Date` — year, month and day that name an existing day.
* `Date.ofYmd?` — the date of three numbers, if they name one.
* `Date.next?`, `Date.previous?` — the neighbouring days, if they are within range.
-/

namespace Conveyor

/-- Leap years: every fourth, but of the full centuries only every fourth. -/
def isLeapYear (year : Int) : Bool :=
  year % 4 == 0 && (year % 100 != 0 || year % 400 == 0)

/-- The number of days of a month; months count from one. -/
def daysInMonth (year : Int) (month : Nat) : Nat :=
  match month with
  | 2 => if isLeapYear year then 29 else 28
  | 4 | 6 | 9 | 11 => 30
  | _ => 31

/-- The earliest and the latest year of a date. -/
def minYear : Int := -262143
def maxYear : Int := 262142

/-- Whether three numbers name a day. -/
abbrev IsDate (year : Int) (month day : Nat) : Prop :=
  minYear ≤ year ∧ year ≤ maxYear ∧ 1 ≤ month ∧ month ≤ 12 ∧ 1 ≤ day ∧
    day ≤ daysInMonth year month

/-- A day. -/
structure Date where
  year : Int
  month : Nat
  day : Nat
  isDate : IsDate year month day
deriving DecidableEq, Repr

namespace Date

def ofYmd? (year : Int) (month day : Nat) : Option Date :=
  if h : IsDate year month day then some ⟨year, month, day, h⟩ else none

/-- The day after: in this month, else the first of the next month, else the first of the year. -/
def next? (d : Date) : Option Date :=
  ofYmd? d.year d.month (d.day + 1) <|> ofYmd? d.year (d.month + 1) 1 <|> ofYmd? (d.year + 1) 1 1

/-- The day before: in this month, else the last of the month before, else the last of the year. -/
def previous? (d : Date) : Option Date :=
  if 1 < d.day then ofYmd? d.year d.month (d.day - 1)
  else if 1 < d.month then ofYmd? d.year (d.month - 1) (daysInMonth d.year (d.month - 1))
  else ofYmd? (d.year - 1) 12 31

@[simp] theorem ofYmd?_self (d : Date) : ofYmd? d.year d.month d.day = some d :=
  dif_pos d.isDate

end Date

end Conveyor
