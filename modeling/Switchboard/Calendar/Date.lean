/-!
# Calendar dates

Days of the Gregorian calendar from year 1 to 9999: their ordinal number, weekday, day of the
year and week, and the day of a week date.
-/

namespace Switchboard
namespace Calendar

def isLeap (year : Nat) : Bool :=
  year % 4 == 0 && (year % 100 != 0 || year % 400 == 0)

def daysInMonth (year month : Nat) : Nat :=
  match month with
  | 2 => if isLeap year then 29 else 28
  | 4 => 30
  | 6 => 30
  | 9 => 30
  | 11 => 30
  | _ => 31

def daysBeforeMonth (year : Nat) : Nat → Nat
  | 0 => 0
  | 1 => 0
  | month + 2 => daysBeforeMonth year (month + 1) + daysInMonth year (month + 1)

/-- The days before a year, counted from the first day of year 1. -/
def daysBeforeYear (year : Nat) : Nat :=
  let y := year - 1
  y * 365 + y / 4 - y / 100 + y / 400

/-- The number of a day; the first day of year 1 has number 1. -/
def ordinal (year month day : Nat) : Nat :=
  daysBeforeYear year + daysBeforeMonth year month + day

/-- The day of the year, counted from 1. -/
def dayOfYear (year month day : Nat) : Nat :=
  daysBeforeMonth year month + day

/-- The weekday, Monday being 0. -/
def weekday (year month day : Nat) : Nat :=
  (ordinal year month day + 6) % 7

/-- The number of the Monday that starts the first week of a year: the week that holds the
year's first Thursday. -/
def firstMonday (year : Nat) : Int :=
  let first : Int := ordinal year 1 1
  let day : Int := weekday year 1 1
  if 3 < day then first - day + 7 else first - day

/-- The year and week number of a day by the week calendar. -/
def weekOf (year month day : Nat) : Nat × Nat :=
  let today : Int := ordinal year month day
  if today < firstMonday year then (year - 1, ((today - firstMonday (year - 1)) / 7).toNat + 1)
  else if firstMonday (year + 1) ≤ today then (year + 1, 1)
  else (year, ((today - firstMonday year) / 7).toNat + 1)

def isDate (year month day : Nat) : Bool :=
  1 ≤ year && year ≤ 9999 && 1 ≤ month && month ≤ 12 && 1 ≤ day && day ≤ daysInMonth year month

/-- The month and day for a day of a year, from `month` on. -/
def monthDay (year : Nat) : Nat → Nat → Nat → Nat × Nat
  | 0, month, day => (month, day)
  | fuel + 1, month, day =>
    if daysInMonth year month < day then monthDay year fuel (month + 1) (day - daysInMonth year month)
    else (month, day)

/-- The year, month and day with a number, searched from `year` on. -/
def ofOrdinal (number : Nat) : Nat → Nat → Nat × Nat × Nat
  | 0, year => (year, 1, 1)
  | fuel + 1, year =>
    if daysBeforeYear (year + 1) < number then ofOrdinal number fuel (year + 1)
    else
      let (month, day) := monthDay year 11 1 (number - daysBeforeYear year)
      (year, month, day)

def ofWeekDate? (year week day : Nat) : Option (Nat × Nat × Nat) :=
  if year = 0 ∨ 9999 < year ∨ week = 0 ∨ 53 < week ∨ day = 0 ∨ 7 < day then none
  else
    let long := weekday year 1 1 = 3 ∨ (weekday year 1 1 = 2 ∧ isLeap year)
    if week = 53 ∧ ¬ long then none
    else
      let number := firstMonday year + ((week - 1) * 7 + (day - 1) : Nat)
      if number < 1 then none
      else some (ofOrdinal number.toNat 3 (year - 1))

end Calendar
end Switchboard
