/-!
The calendar: days counted from the first of January of the year one, month lengths, and the
weeks of the year that start on Monday.
-/

namespace ParamRules.Calendar

def isLeap (year : Nat) : Bool :=
  year % 4 = 0 && (year % 100 ≠ 0 || year % 400 = 0)

/-- The number of days in a month, none outside the twelve months. -/
def daysInMonth (year month : Nat) : Nat :=
  match month with
  | 1 | 3 | 5 | 7 | 8 | 10 | 12 => 31
  | 4 | 6 | 9 | 11 => 30
  | 2 => if isLeap year then 29 else 28
  | _ => 0

def daysBeforeYear (year : Nat) : Nat :=
  let y := year - 1
  y * 365 + y / 4 - y / 100 + y / 400

def daysBeforeMonth (year : Nat) : Nat → Nat
  | 0 | 1 => 0
  | month + 1 => daysBeforeMonth year month + daysInMonth year month

/-- The number of a day, one for the first day of the year one. -/
def dayNumber (year month day : Nat) : Nat :=
  daysBeforeYear year + daysBeforeMonth year month + day

/-- Whether the three numbers name a day of the years 1 to 9999. -/
def isDate (year month day : Nat) : Bool :=
  1 ≤ year && year ≤ 9999 && 1 ≤ month && month ≤ 12 && 1 ≤ day && day ≤ daysInMonth year month

/-- The month and day of the `n`-th day of a year, counted from zero. -/
def monthAndDay (year n : Nat) : Nat × Nat :=
  go n 1 12
where
  go (n month : Nat) : Nat → Nat × Nat
    | 0 => (month, n + 1)
    | fuel + 1 =>
      if n < daysInMonth year month then (month, n + 1)
      else go (n - daysInMonth year month) (month + 1) fuel

/-- The weekday of a day number, zero for Monday. -/
def weekday (dayNumber : Nat) : Nat :=
  (dayNumber + 6) % 7

/-- The day number of the Monday of the year's first week, which holds its first Thursday. -/
def firstMonday (year : Nat) : Int :=
  let first := dayNumber year 1 1
  let w := weekday first
  if w ≤ 3 then (first : Int) - w else (first : Int) + (7 - w : Nat)

def hasLongYear (year : Nat) : Bool :=
  let w := weekday (dayNumber year 1 1)
  w = 3 || (w = 2 && isLeap year)

/-- The year that holds a day number of the years 0 to 10000. -/
def yearOf (n : Int) : Nat :=
  let guess := (n.toNat / 366)
  let candidates := (List.range 30).map (guess + ·)
  ((candidates.filter fun y => 1 ≤ y && (daysBeforeYear y : Int) < n).getLast?).getD 0

/-- The day named by a year, one of its weeks and a weekday from one for Monday. -/
def ofWeek? (year week day : Nat) : Option (Nat × Nat × Nat) :=
  if ¬ (1 ≤ week ∧ (week ≤ 52 ∨ (week = 53 ∧ hasLongYear year))) then none
  else if ¬ (1 ≤ day ∧ day ≤ 7) then none
  else
    let n := firstMonday year + (week - 1 : Nat) * 7 + (day - 1 : Nat)
    let y := yearOf n
    if n < 1 ∨ y < 1 ∨ y > 9999 then none
    else
      let (m, d) := monthAndDay y (n.toNat - daysBeforeYear y - 1)
      some (y, m, d)

end ParamRules.Calendar
