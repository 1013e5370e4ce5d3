/-!
# The calendar

The Gregorian calendar, followed back to the year 1, with the leap years divisible by four but not
by a hundred unless by four hundred.  Days are numbered from 0 for the first day of the year 1;
the first of January 1970 is day `epochDay`.  `Date.dayNumber` counts up to a date and
`Date.ofDayNumber` finds the date again:

    dayNumber (ofDayNumber n) = n.

Weeks begin on Monday, as day 0 does.
-/

namespace StorageMetadata

/-- Has the year a twenty-ninth of February? -/
def isLeapYear (year : Nat) : Bool := year % 4 = 0 && (year % 100 ≠ 0 || year % 400 = 0)

/-- The lengths of the twelve months of a year. -/
def monthLengths (leap : Bool) : List Nat :=
  [31, if leap then 29 else 28, 31, 30, 31, 30, 31, 31, 30, 31, 30, 31]

/-- The number of days in a month, the first being 1. -/
def daysInMonth (year month : Nat) : Nat := (monthLengths (isLeapYear year)).getD (month - 1) 0

/-- The last year that can be written with four digits. -/
def lastYear : Nat := 9999

/-- A day of the calendar by year, month and day of the month. -/
structure Date where
  year : Nat
  month : Nat
  day : Nat
  deriving DecidableEq, Repr

/-- Does the calendar have this day, in the years from 1 to the last one? -/
def Date.Exists (d : Date) : Prop :=
  1 ≤ d.year ∧ d.year ≤ lastYear ∧ 1 ≤ d.month ∧ d.month ≤ 12 ∧ 1 ≤ d.day ∧
    d.day ≤ daysInMonth d.year d.month

instance (d : Date) : Decidable d.Exists := by unfold Date.Exists; infer_instance

/-- The days of all years before `year`. -/
def daysBeforeYear (year : Nat) : Nat :=
  let y := year - 1
  365 * y + y / 4 + y / 400 - y / 100

/-- The days of the months before `month` in its year. -/
def daysBeforeMonth (year month : Nat) : Nat :=
  ((monthLengths (isLeapYear year)).take (month - 1)).foldl (· + ·) 0

/-- The number of a date, counted from 0 for the first day of the year 1. -/
def Date.dayNumber (d : Date) : Nat :=
  daysBeforeYear d.year + daysBeforeMonth d.year d.month + (d.day - 1)

/-- The number of the first of January 1970. -/
def epochDay : Nat := 719162

/-- The number of the first day after the last year. -/
def endOfDays : Nat := 3652059

/-- The year that holds a day, and the days of that year before it: whole cycles of 400, 100, 4
and one year are taken off in turn. -/
def yearOfDay (n : Nat) : Nat × Nat :=
  let in400 := n % 146097
  let centuries := min (in400 / 36524) 3
  let in100 := in400 - 36524 * centuries
  let in4 := in100 % 1461
  let years := min (in4 / 365) 3
  (400 * (n / 146097) + 100 * centuries + 4 * (in100 / 1461) + years + 1, in4 - 365 * years)

/-- The month and the day of the month of the `n`-th day after the first, through months of the
given lengths; months are counted from `month`. -/
def monthOfDay (month n : Nat) : List Nat → Nat × Nat
  | [] => (month, n + 1)
  | length :: rest =>
    if n < length then (month, n + 1) else monthOfDay (month + 1) (n - length) rest

/-- The date with the given number. -/
def Date.ofDayNumber (n : Nat) : Date :=
  let (year, inYear) := yearOfDay n
  let (month, day) := monthOfDay 1 inYear (monthLengths (isLeapYear year))
  ⟨year, month, day⟩

/-! ### Weeks -/

/-- The number of the Monday on which the first week of a year begins: the week that holds the first
Thursday. -/
def firstMonday (year : Nat) : Nat :=
  let first := daysBeforeYear year
  let weekday := first % 7
  if weekday > 3 then first + 7 - weekday else first - weekday

/-- The number of weeks of a year, counted by their Thursdays. -/
def weeksInYear (year : Nat) : Nat :=
  let weekday := daysBeforeYear year % 7
  if weekday = 3 ∨ weekday = 2 ∧ isLeapYear year then 53 else 52

/-- The number of a day given by year, week and day of the week, if the year has that week and the
day lies before the end of the last year. -/
def dayOfWeekDate? (year week weekday : Nat) : Option Nat :=
  let n := firstMonday year + 7 * (week - 1) + (weekday - 1)
  if 1 ≤ year ∧ year ≤ lastYear ∧ 1 ≤ week ∧ week ≤ weeksInYear year ∧ 1 ≤ weekday ∧ weekday ≤ 7 ∧
      n < endOfDays then some n else none

/-- The number of a day given by year, month and day, if the calendar has it. -/
def dayOfDate? (year month day : Nat) : Option Nat :=
  let d : Date := ⟨year, month, day⟩
  if d.Exists then some d.dayNumber else none

end StorageMetadata
