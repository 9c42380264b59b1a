/-! # Civil dates

Dates of the Gregorian calendar, counted back before its start as well, and their distance from
1 January 1970 in days.

* **`isLeap y`**, **`daysIn y m`** — the calendar.
* **`daysFromEpoch y m d`** — the number of the day, zero for 1 January 1970. -/

namespace SeriesBridge.Time

/-- Whether a year has a 29 February. -/
def isLeap (year : Int) : Bool := year % 4 = 0 && (year % 100 ≠ 0 || year % 400 = 0)

/-- The number of days in a month, counted from one. -/
def daysIn (year : Int) (month : Nat) : Nat :=
  match month with
  | 2 => if isLeap year then 29 else 28
  | 4 | 6 | 9 | 11 => 30
  | _ => 31

/-- Whether a date is one of the calendar. -/
def isDate (year : Int) (month day : Nat) : Bool :=
  1 ≤ month && month ≤ 12 && 1 ≤ day && day ≤ daysIn year month

/-- **The number of a day.** Years are counted from March, so that the day a leap year adds is its
last; 400 of them are 146097 days. -/
def daysFromEpoch (year : Int) (month day : Nat) : Int :=
  let y := if month ≤ 2 then year - 1 else year
  let era := y / 400
  let yearOfEra := y % 400
  -- From March on, five months in a row always have 153 days.
  let monthFromMarch : Int := ((month : Int) + 9) % 12
  let dayOfYear := (153 * monthFromMarch + 2) / 5 + (day : Int) - 1
  let dayOfEra := yearOfEra * 365 + yearOfEra / 4 - yearOfEra / 100 + dayOfYear
  era * 146097 + dayOfEra - 719468

/-- The count starts on 1 January 1970. -/
example : daysFromEpoch 1970 1 1 = 0 := by decide

/-- The last day of 1969 is the day before. -/
example : daysFromEpoch 1969 12 31 = -1 := by decide

/-- A leap day has a number of its own. -/
example : daysFromEpoch 2000 3 1 - daysFromEpoch 2000 2 28 = 2 := by decide

end SeriesBridge.Time
