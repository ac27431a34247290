import ParamQuery.Calendar.Date

/-!
# Moments

A moment is a wall time, to the microsecond, with the offset of its clock from universal time in seconds.

* `Moment.ofMicros?` is the moment so many microseconds after the start of 1970, on a clock of offset 0;
* `Moment.micros` counts them for any moment;
* `Moment.offset?` is the offset if it is one that clocks have, less than a day either way.
-/

namespace ParamQuery.Calendar

def IsTime (hour minute second microsecond : Nat) : Prop :=
  hour < 24 ∧ minute < 60 ∧ second < 60 ∧ microsecond < 1000000

instance (hour minute second microsecond : Nat) : Decidable (IsTime hour minute second microsecond) :=
  inferInstanceAs (Decidable (_ ∧ _ ∧ _ ∧ _))

/-- A time of the day. -/
structure Time where
  hour : Nat
  minute : Nat
  second : Nat
  microsecond : Nat
  valid : IsTime hour minute second microsecond
  deriving DecidableEq, Repr

namespace Time

def of? (hour minute second microsecond : Nat) : Option Time :=
  if h : IsTime hour minute second microsecond then some ⟨hour, minute, second, microsecond, h⟩ else none

/-- Microseconds since midnight. -/
def micros (t : Time) : Nat :=
  ((t.hour * 60 + t.minute) * 60 + t.second) * 1000000 + t.microsecond

/-- The time so many microseconds after a midnight. -/
def ofMicros (n : Nat) : Time where
  hour := n / 3600000000 % 24
  minute := n / 60000000 % 60
  second := n / 1000000 % 60
  microsecond := n % 1000000
  valid := by unfold IsTime; omega

theorem micros_ofMicros {n : Nat} (h : n < 86400000000) : (ofMicros n).micros = n := by
  simp only [micros, ofMicros]
  omega

theorem micros_lt (t : Time) : t.micros < 86400000000 := by
  have h := t.valid
  unfold IsTime at h
  simp only [micros]
  omega

end Time

structure Moment where
  date : Date
  time : Time
  offset : Int
  deriving DecidableEq, Repr

namespace Moment

def offset? (m : Moment) : Option Int :=
  if m.offset.natAbs < 86400 then some m.offset else none

def microsPerDay : Int := 86400000000

/-- The day number of 1 January 1970. -/
def epochDay : Int := 719162

/-- Microseconds since the start of 1970 in universal time. -/
def micros (m : Moment) : Int :=
  (m.date.dayNumber - epochDay) * microsPerDay + m.time.micros - m.offset * 1000000

def ofMicros? (n : Int) : Option Moment :=
  let day := n / microsPerDay + epochDay
  if day < 0 then none
  else (Date.ofDayNumber? day.toNat).map fun date => ⟨date, .ofMicros (n % microsPerDay).toNat, 0⟩

/-- The wall time as `YYYY-MM-DDTHH:MM:SS.ffffff`. -/
def wallText (m : Moment) : String :=
  String.ofList (digits 4 m.date.year ++ '-' :: digits 2 m.date.month ++ '-' :: digits 2 m.date.day ++
    'T' :: digits 2 m.time.hour ++ ':' :: digits 2 m.time.minute ++ ':' :: digits 2 m.time.second ++
    '.' :: digits 6 m.time.microsecond)
where
  /-- The last `width` decimal digits of `n`. -/
  digits (width n : Nat) : List Char :=
    match width with
    | 0 => []
    | k + 1 => digits k (n / 10) ++ [Nat.digitChar (n % 10)]

end Moment

end ParamQuery.Calendar
