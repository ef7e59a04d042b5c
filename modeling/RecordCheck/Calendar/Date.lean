import RecordCheck.Text.Digit

/-!
# Calendar dates

Dates of the proleptic Gregorian calendar in the years 1 to 9999.  A date is also the number of its day,
counted from the first of January of year 1; weeks begin on Monday, and week 1 of a year is the one that
holds its first Thursday.
-/

set_option autoImplicit false

namespace RecordCheck.Calendar

/-- Whether a year has 366 days. -/
def isLeap (year : Nat) : Bool := year % 4 == 0 && (year % 100 != 0 || year % 400 == 0)

/-- The number of days of a month, 1 to 12, of a year. -/
def daysInMonth (year month : Nat) : Nat :=
  if month = 2 then (if isLeap year then 29 else 28)
  else if month = 4 ∨ month = 6 ∨ month = 9 ∨ month = 11 then 30
  else 31

/-- The days of a year before a month. -/
def daysBeforeMonth (year : Nat) : Nat → Nat
  | 0 => 0
  | 1 => 0
  | month + 1 => daysBeforeMonth year month + daysInMonth year month

/-- The days before a year. -/
def daysBeforeYear (year : Nat) : Nat :=
  let y := year - 1
  y * 365 + y / 4 - y / 100 + y / 400

/-- The last year of the calendar. -/
def lastYear : Nat := 9999

/-- A date of the years 1 to 9999. -/
structure Date where
  year : Nat
  month : Nat
  day : Nat
  year_mem : 1 ≤ year ∧ year ≤ lastYear
  month_mem : 1 ≤ month ∧ month ≤ 12
  day_mem : 1 ≤ day ∧ day ≤ daysInMonth year month
  deriving DecidableEq, Repr

namespace Date

/-- The date with these parts, if there is one. -/
def ofParts? (year month day : Nat) : Option Date :=
  if h : (1 ≤ year ∧ year ≤ lastYear) ∧ (1 ≤ month ∧ month ≤ 12) ∧
      (1 ≤ day ∧ day ≤ daysInMonth year month) then
    some ⟨year, month, day, h.1, h.2.1, h.2.2⟩
  else none

/-- The first day of the calendar. -/
def first : Date := ⟨1, 1, 1, by decide, by decide, by decide⟩

instance : Inhabited Date := ⟨first⟩

/-- The number of the day; the first day of the calendar is day 0. -/
def dayNumber (d : Date) : Nat :=
  daysBeforeYear d.year + daysBeforeMonth d.year d.month + (d.day - 1)

/-- The month and day of the month of the day `rest` of a year, searched from `month` on; `count`
months follow it. -/
def monthFrom (year : Nat) : (month count rest : Nat) → Nat × Nat
  | month, 0, rest => (month, rest + 1)
  | month, count + 1, rest =>
    if rest < daysInMonth year month then (month, rest + 1)
    else monthFrom year (month + 1) count (rest - daysInMonth year month)

/-- The year of a day: the day lies in a cycle of 400 years, in a century of it, in a cycle of four
years and in a year.  The last day of a leap cycle closes its last year. -/
def yearOf (day : Nat) : Nat :=
  let n := day % 146097
  let century := min (n / 36524) 3
  let c := n - century * 36524
  let four := c / 1461
  let f := c % 1461
  let one := min (f / 365) 3
  400 * (day / 146097) + 100 * century + 4 * four + one + 1

/-- The date of a day, if it lies in the calendar. -/
def ofDayNumber? (day : Int) : Option Date :=
  if day < 0 then none
  else
    let year := yearOf day.toNat
    let (month, dayOfMonth) := monthFrom year 1 11 (day.toNat - daysBeforeYear year)
    ofParts? year month dayOfMonth

/-- The weekday of a day number, Monday being 0. -/
def weekday (day : Nat) : Nat := day % 7

/-- The Monday of week 1 of a year, as a day number. -/
def firstMonday (year : Nat) : Int :=
  let newYear := daysBeforeYear year
  let weekday := weekday newYear
  if weekday ≤ 3 then (newYear : Int) - weekday else (newYear : Int) - weekday + 7

/-- Whether a year has 53 weeks: it begins on a Thursday, or on a Wednesday and is a leap year. -/
def hasLongYear (year : Nat) : Bool :=
  let weekday := weekday (daysBeforeYear year)
  weekday == 3 || (weekday == 2 && isLeap year)

/-- The date of a day, 1 to 7, of a week of a year. -/
def ofWeek? (year week day : Nat) : Option Date :=
  if year = 0 ∨ week = 0 ∨ 53 < week ∨ (week = 53 ∧ hasLongYear year = false) ∨ day = 0 ∨ 7 < day then
    none
  else ofDayNumber? (firstMonday year + 7 * (week - 1) + (day - 1))

/-- A date as year, month and day joined by hyphens, the year in four digits. -/
def text (d : Date) : List Char :=
  Text.paddedDigits 4 d.year ++ '-' :: Text.paddedDigits 2 d.month ++
    '-' :: Text.paddedDigits 2 d.day

end Date

end RecordCheck.Calendar
