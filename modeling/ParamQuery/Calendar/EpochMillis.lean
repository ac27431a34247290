import ParamQuery.Calendar.Moment
import ParamQuery.Number.Binary64

/-!
# Milliseconds since 1970

A floating-point number of milliseconds is turned into seconds by a rounded division.  The whole seconds are kept;
their fraction, times a million, is rounded to a floating-point number and then to an even-handed whole number of
microseconds, which may carry into the seconds.  The sign goes along with both parts.
-/

namespace ParamQuery.Calendar

open ParamQuery.Number

/-- The whole microseconds of `rest` units, less than a second. -/
def microsOfUnits (rest : Nat) : Nat :=
  ((Binary64.ofUnits false (rest * 1000000) 1).units?.map (roundHalfEven · Binary64.unitsPerOne)).getD 0

/-- The moment so many milliseconds after the start of 1970, none outside the years of the calendar. -/
def Moment.ofMillis? (millis : Binary64) : Option Moment :=
  let seconds := millis.divNat 1000
  seconds.units?.bind fun units =>
    let micros := units / Binary64.unitsPerOne * 1000000 + microsOfUnits (units % Binary64.unitsPerOne)
    Moment.ofMicros? (if seconds.isNegative then -(micros : Int) else micros)

end ParamQuery.Calendar
