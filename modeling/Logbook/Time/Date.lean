namespace Logbook

/-- A day of the calendar. Months and days count from one. -/
structure Date where
  year : Int
  month : Nat
  day : Nat
deriving DecidableEq, Repr

namespace Date

/-- Every fourth year has a leap day, but of the years that end a century only every fourth. -/
def isLeap (year : Int) : Bool :=
  year % 4 = 0 && (year % 100 ≠ 0 || year % 400 = 0)

def monthLengths (leap : Bool) : List Nat :=
  [31, if leap then 29 else 28, 31, 30, 31, 30, 31, 31, 30, 31, 30, 31]

/-- Days from 1 January of year 0 to 1 January of `year`: 365 for each year between, and one for each
leap day. -/
def daysBeforeYear (year : Int) : Int :=
  365 * year + (year + 3) / 4 - (year + 99) / 100 + (year + 399) / 400

/-- The year in which a day lies, counted from 1 January of year 0. The mean year of 146097 / 400
days is off by one year at most. -/
def yearOfDay (n : Int) : Int :=
  let guess := n * 400 / 146097
  if n < daysBeforeYear guess then guess - 1
  else if daysBeforeYear (guess + 1) ≤ n then guess + 1
  else guess

/-- How many of the given months have passed after `n` days, and the days into the next. -/
def monthAndDay : List Nat → Nat → Nat × Nat
  | [], n => (0, n)
  | length :: rest, n =>
    if n < length then (0, n)
    else
      let (months, days) := monthAndDay rest (n - length)
      (months + 1, days)

def epochDay : Int := 719528

def ofEpochDay (n : Int) : Date :=
  let day := n + epochDay
  let year := yearOfDay day
  let (months, days) := monthAndDay (monthLengths (isLeap year)) (day - daysBeforeYear year).toNat
  { year, month := months + 1, day := days + 1 }

/-- Days of a year before a month, counted from zero, of the months with the given lengths. -/
def daysBeforeMonth : List Nat → Nat → Nat
  | length :: rest, months + 1 => length + daysBeforeMonth rest months
  | _, _ => 0

def toEpochDay (d : Date) : Int :=
  daysBeforeYear d.year + daysBeforeMonth (monthLengths (isLeap d.year)) (d.month - 1) + (d.day - 1 : Nat)
    - epochDay

def isValid (d : Date) : Bool :=
  1 ≤ d.month && 1 ≤ d.day
    && match (monthLengths (isLeap d.year))[d.month - 1]? with
      | some length => d.day ≤ length
      | none => false

end Date

end Logbook
