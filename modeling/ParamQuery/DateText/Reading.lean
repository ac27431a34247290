import ParamQuery.Calendar.Moment
import ParamQuery.DateText.YearMonthDay

/-!
# What has been read of a date text

A `Reading` collects what the words have said so far.  At the end of the text it is a moment, if it says anything and
its date and its time exist: a part of the time that was not said is zero, and so is the offset of a clock whose zone
was not said or is known by name only.
-/

namespace ParamQuery.DateText

open ParamQuery.Calendar

structure Reading where
  parts : Parts
  /-- The day of the week, counted from Monday on. -/
  weekday : Option Nat
  hour : Option Nat
  minute : Option Nat
  second : Option Nat
  microsecond : Option Nat
  zoneName : Option Word
  /-- Seconds ahead of universal time. -/
  zoneOffset : Option Int
  deriving DecidableEq, Repr

namespace Reading

def empty : Reading := ⟨.empty, none, none, none, none, none, none, none⟩

/-- Seconds, with their microseconds. -/
def setSeconds (r : Reading) (seconds : Nat × Nat) : Reading :=
  { r with second := some seconds.1, microsecond := some seconds.2 }

/-- Minutes with their fraction, which is the seconds. -/
def setMinutes (r : Reading) (n : Numeral) : Except Failure Reading := do
  return { r with minute := some n.whole, second := ← n.sixtieths? }

/-- Sets a unit of the clock to the number that the word writes. -/
def setUnit (r : Reading) (unit : ClockUnit) (w : Word) (n : Numeral) : Except Failure Reading :=
  match unit with
  | .hour => do return { r with hour := some n.whole, minute := (← n.sixtieths?).or r.minute }
  | .minute => r.setMinutes n
  | .second => required ((secondsOf? w).map r.setSeconds)

/-- Whether a word would be the name of the time zone: the hour is known and the zone is not. -/
def awaitsZone (r : Reading) (w : Word) : Bool :=
  r.hour.isSome && r.zoneName.isNone && isZoneName w

/-- Offsets are counted in days that have nine digits at most. -/
def offsetLimit : Nat := 999999999

/-- The offset from universal time: a name of universal time prevails over a number. -/
def offset? (r : Reading) : Option Int :=
  let offset := if r.zoneName.any isUniversal then 0 else r.zoneOffset.getD 0
  if (offset / 86400).natAbs ≤ offsetLimit then some offset else none

def moment? (clock? : Option Clock) (r : Reading) : Option Moment := do
  if r = empty then none
  let date ← r.parts.date? clock? r.weekday
  let time ← Time.of? (r.hour.getD 0) (r.minute.getD 0) (r.second.getD 0) (r.microsecond.getD 0)
  return ⟨date, time, ← r.offset?⟩

end Reading

end ParamQuery.DateText
