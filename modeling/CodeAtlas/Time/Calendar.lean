/-! The calendar: leap years, the lengths of months, and days counted from the first day of year 1. -/

namespace CodeAtlas.Time

def isLeap (year : Nat) : Bool := year % 4 = 0 && (year % 100 ≠ 0 || year % 400 = 0)

def daysInMonth (year month : Nat) : Nat :=
  if month = 2 then if isLeap year then 29 else 28
  else if month = 4 || month = 6 || month = 9 || month = 11 then 30
  else 31

def daysInYear (year : Nat) : Nat := if isLeap year then 366 else 365

/-- The days of all years before `year`, which is at least 1. -/
def daysBeforeYear (year : Nat) : Nat :=
  let y := year - 1
  y * 365 + y / 4 - y / 100 + y / 400

def daysBeforeMonth (year : Nat) : Nat → Nat
  | 0 => 0
  | 1 => 0
  | month + 1 => daysBeforeMonth year month + daysInMonth year month

/-- The number of a day, the first of January of year 1 being day 1. -/
def dayNumber (year month day : Nat) : Nat := daysBeforeYear year + daysBeforeMonth year month + day

/-- The month and day of the month reached `left` days after the start of `month`. -/
def monthDay (year : Nat) : Nat → Nat → Nat → Nat × Nat
  | 0, month, left => (month, left + 1)
  | fuel + 1, month, left =>
    if left < daysInMonth year month then (month, left + 1)
    else monthDay year fuel (month + 1) (left - daysInMonth year month)

/-- The year that is `left` days after the start of `year`, and the days into it. At most `fuel` years
    are passed. -/
def yearDay : Nat → Nat → Nat → Nat × Nat
  | 0, year, left => (year, left)
  | fuel + 1, year, left =>
    if left < daysInYear year then (year, left) else yearDay fuel (year + 1) (left - daysInYear year)

/-- The year, month and day of a day number. Whole periods of 400 years are equally long. -/
def dateOfDay (n : Nat) : Nat × Nat × Nat :=
  let periods := (n - 1) / 146097
  let (year, left) := yearDay 400 (400 * periods + 1) ((n - 1) % 146097)
  let (month, day) := monthDay year 11 1 left
  (year, month, day)

/-- The day of the week of a day number, counted from Monday as 0. -/
def weekday (n : Nat) : Nat := (n + 6) % 7

/-- The day number of the Monday on which the first week of `year` begins: the week that holds the
    first Thursday of the year. -/
def firstMonday (year : Nat) : Int :=
  let first := dayNumber year 1 1
  let w := weekday first
  if 3 < w then (first : Int) + 7 - w else (first : Int) - w

/-- A year has a week 53 when it begins on a Thursday, or on a Wednesday and is a leap year. -/
def weeksInYear (year : Nat) : Nat :=
  let w := weekday (dayNumber year 1 1)
  if w = 3 || (w = 2 && isLeap year) then 53 else 52

end CodeAtlas.Time
