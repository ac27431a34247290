/-!
# Dates

The Gregorian calendar, carried back before its introduction, for the years 1 to 9999.  A `Date` is a day that
exists.  Days are counted from 1 January of year 1, which is day 0: `dayNumber` counts, `Date.ofDayNumber?` finds
the day again.  Day 0 is a Monday (`Date.onOrAfter?`).
-/

namespace ParamQuery.Calendar

def isLeap (year : Nat) : Bool :=
  year % 4 = 0 ∧ (year % 100 ≠ 0 ∨ year % 400 = 0)

def daysInMonth (year month : Nat) : Nat :=
  match month with
  | 2 => if isLeap year then 29 else 28
  | 4 | 6 | 9 | 11 => 30
  | _ => 31

theorem daysInMonth_le (year month : Nat) : daysInMonth year month ≤ 31 := by
  unfold daysInMonth
  split
  · split <;> omega
  · omega
  · omega
  · omega
  · omega
  · omega

def IsDate (year month day : Nat) : Prop :=
  (1 ≤ year ∧ year ≤ 9999) ∧ (1 ≤ month ∧ month ≤ 12) ∧ 1 ≤ day ∧ day ≤ daysInMonth year month

instance (year month day : Nat) : Decidable (IsDate year month day) :=
  inferInstanceAs (Decidable (_ ∧ _ ∧ _ ∧ _))

structure Date where
  year : Nat
  month : Nat
  day : Nat
  valid : IsDate year month day
  deriving DecidableEq, Repr

def Date.of? (year month day : Nat) : Option Date :=
  if h : IsDate year month day then some ⟨year, month, day, h⟩ else none

theorem Date.of?_self (d : Date) : of? d.year d.month d.day = some d :=
  dif_pos d.valid

/-- The days of the years before `year`. -/
def daysBeforeYear (year : Nat) : Nat :=
  let past := year - 1
  365 * past + past / 4 - past / 100 + past / 400

/-- The days of the first `count` months of a year. -/
def daysInMonths (year count : Nat) : Nat :=
  match count with
  | 0 => 0
  | k + 1 => daysInMonths year k + daysInMonth year (k + 1)

def Date.dayNumber (d : Date) : Nat :=
  daysBeforeYear d.year + daysInMonths d.year (d.month - 1) + (d.day - 1)

/-- The year that holds a day, and the days of that year before it: the day lies so many whole periods of 400,
100, 4 and 1 years after day 0, where the last century of four and the last year of four may be a day longer. -/
def yearOfDay (n : Nat) : Nat × Nat :=
  let cycles := n / 146097
  let centuries := min (n % 146097 / 36524) 3
  let inCentury := n % 146097 - centuries * 36524
  let fours := inCentury / 1461
  let years := min (inCentury % 1461 / 365) 3
  (400 * cycles + 100 * centuries + 4 * fours + years + 1, inCentury % 1461 - years * 365)

/-- The month that holds a day of the year, and the days of that month before it, from `month` on. -/
def monthOfDay (year : Nat) : (months month n : Nat) → Nat × Nat
  | 0, month, n => (month, n)
  | months + 1, month, n =>
    if n < daysInMonth year month then (month, n)
    else monthOfDay year months (month + 1) (n - daysInMonth year month)

def Date.ofDayNumber? (n : Nat) : Option Date :=
  let (year, inYear) := yearOfDay n
  let (month, inMonth) := monthOfDay year 11 1 inYear
  Date.of? year month (inMonth + 1)

/-- The first such day of the week, counted from Monday on, that is no earlier than the date. -/
def Date.onOrAfter? (d : Date) (weekday : Nat) : Option Date :=
  Date.ofDayNumber? (d.dayNumber + (7 + weekday - d.dayNumber % 7) % 7)

end ParamQuery.Calendar
