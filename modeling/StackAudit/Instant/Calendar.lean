/-!
# The Gregorian calendar

Dates of the Gregorian calendar, continued without end in both directions with a year 0, and their
day numbers. Day 0 is the first of January of the year 0.
-/

namespace StackAudit

/-- A date. It is a day of the calendar if `IsValid` holds. -/
structure Date where
  year : Int
  month : Nat
  day : Nat
  deriving DecidableEq

namespace Date

/-- Every fourth year is a leap year, except for the hundredth ones that are not four-hundredth. -/
def isLeapYear (year : Int) : Bool := year % 4 = 0 && (year % 100 ≠ 0 || year % 400 = 0)

/-- The lengths of the months. -/
def monthLengths (year : Int) : List Nat :=
  [31, if isLeapYear year then 29 else 28, 31, 30, 31, 30, 31, 31, 30, 31, 30, 31]

/-- The month exists, and the day exists in it. -/
def IsValid (d : Date) : Prop :=
  1 ≤ d.month ∧ 1 ≤ d.day ∧ d.day ≤ (monthLengths d.year).getD (d.month - 1) 0

instance (d : Date) : Decidable d.IsValid := inferInstanceAs (Decidable (_ ∧ _))

/-- The days before the first of January of a year. -/
def daysBeforeYear (year : Int) : Int :=
  365 * year + (year + 3) / 4 - (year + 99) / 100 + (year + 399) / 400

/-- The days of a year before the first of a month. -/
def daysBeforeMonth (year : Int) (month : Nat) : Nat :=
  ((monthLengths year).take (month - 1)).foldl (· + ·) 0

/-- The number of a date. -/
def dayNumber (d : Date) : Int :=
  daysBeforeYear d.year + daysBeforeMonth d.year d.month + d.day - 1

/-- The year of a day: the quotient by the mean length of a year, or a neighbour of it. -/
def yearOfDay (day : Int) : Int :=
  let guess := day * 400 / 146097
  if day < daysBeforeYear guess then guess - 1
  else if daysBeforeYear (guess + 1) ≤ day then guess + 1
  else guess

/-- Counts a day of the year, from 0, into its month and its day of the month, both from 1. -/
def splitMonths (month : Nat) : List Nat → Nat → Nat × Nat
  | [], day => (month, day + 1)
  | length :: rest, day =>
    if day < length then (month, day + 1) else splitMonths (month + 1) rest (day - length)

/-- The date of a day number. -/
def ofDayNumber (day : Int) : Date :=
  let year := yearOfDay day
  let (month, day) := splitMonths 1 (monthLengths year) (day - daysBeforeYear year).toNat
  { year, month, day }

end Date

end StackAudit
