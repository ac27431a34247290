import ParamQuery.Conversion
import ParamQuery.Proofs.Calendar.EpochMillis
import ParamQuery.Proofs.DateText.Refusal
import ParamQuery.Proofs.Number.LeadingFloat
import ParamQuery.Proofs.Number.LeadingInt

/-!
# Conversion gives a value or a problem

`Unreadable` lists why a text is no value of a type, in terms of the text: there are no digits or too many, there is no
numeral, the milliseconds lie outside the calendar, or the words of a date text make no sense.  For texts and booleans
there is no reason.

A text that is not unreadable is converted to a value of the type, which is never null, and no problem is noted.  One
that is unreadable gives no value and one more problem, which names the field and the text.  The problems that were
noted before stay.

Date texts are the exception: one whose numbers are too long to be computed with (`BreaksDown`) gives neither
(`convert_value_or_problem`).
-/

namespace ParamQuery

open ParamQuery.Calendar ParamQuery.Number

namespace Calendar

/-- Milliseconds whose instant is in none of the years 1 to 9999: they are infinite, or the number nearest to their
seconds has microseconds that no clock shows. -/
inductive BeyondCalendar (millis : Binary64) : Prop
  | infinite (h : millis.units? = none)
  | outside {seconds : Binary64} {units : Nat} (hnegative : seconds.isNegative = millis.isNegative)
      (hnearest : seconds.IsNearest (millis.magnitude / (1000 : Nat))) (hunits : seconds.units? = some units)
      (h : ¬ ∃ m : Moment, m.offset = 0 ∧ m.micros = signed millis.isNegative (microsOfSeconds units))

theorem ofMicros?_eq_none_iff {n : Int} :
    Moment.ofMicros? n = none ↔ ¬ ∃ m : Moment, m.offset = 0 ∧ m.micros = n := by
  rw [Moment.exists_micros_iff]
  constructor
  · rintro hnone ⟨hfirst, hend⟩
    obtain ⟨m, hm, -⟩ := Moment.exists_ofMicros? hfirst hend
    rw [hnone] at hm
    cases hm
  · intro houtside
    exact Moment.ofMicros?_eq_none (by omega)

theorem ofMillis?_eq_none_iff {millis : Binary64} :
    Moment.ofMillis? millis = none ↔ BeyondCalendar millis := by
  rw [Moment.ofMillis?_eq, Binary64.isNegative_divNat]
  cases hmillis : millis.units? with
  | none =>
    rw [Binary64.divNat_of_units?_eq_none hmillis, hmillis]
    exact iff_of_true rfl (.infinite hmillis)
  | some v =>
    obtain ⟨u, hu⟩ := Binary64.exists_units?_divNat hmillis (show 0 < 1000 by decide)
    have hnearest := Binary64.isNearest_divNat hmillis (show 0 < 1000 by decide)
    rw [hu, Option.bind_some, ofMicros?_eq_none_iff]
    constructor
    · exact .outside (Binary64.isNegative_divNat millis 1000) hnearest hu
    · intro hbeyond
      cases hbeyond with
      | infinite hnone =>
        rw [hmillis] at hnone
        cases hnone
      | outside hnegative' hnearest' hunits h =>
        have heq := hnearest'.unique hnearest (hnegative'.trans (Binary64.isNegative_divNat millis 1000).symm)
        rw [heq, hu] at hunits
        cases hunits
        exact h

end Calendar

/-- The reasons why a text is no value of a type, at the time that a clock shows. -/
inductive Unreadable (clock? : Option DateText.Clock) (s : String) : DataType → Prop
  | noDigits (h : ¬ ∃ negative digits, SignedDigits s negative digits) : Unreadable clock? s .integer
  | tooManyDigits {negative : Bool} {digits : List Char} (hdigits : SignedDigits s negative digits)
      (hlength : maxDigits < digits.length) : Unreadable clock? s .integer
  | noNumeral (h : ¬ ∃ w v, IsNumeral w v ∧ w <+: s.toList.dropWhile isGap) : Unreadable clock? s .number
  | noMillis (hcolon : ':' ∉ s.toList) (h : ¬ ∃ w v, IsNumeral w v ∧ w <+: s.toList.dropWhile isGap) :
      Unreadable clock? s .datetime
  | beyondCalendar (hcolon : ':' ∉ s.toList) {w : List Char} {v : SignedValue} {millis : Binary64}
      (hw : IsNumeralOf s w v) (hmillis : millis.Reads v) (h : BeyondCalendar millis) : Unreadable clock? s .datetime
  | dateText (hcolon : ':' ∈ s.toList) (h : DateText.Fails clock? s .noValue) : Unreadable clock? s .datetime

/-- The numbers of a date text are too long to be computed with. -/
inductive BreaksDown (clock? : Option DateText.Clock) (s : String) : DataType → Prop
  | dateText (hcolon : ':' ∈ s.toList) (h : DateText.Fails clock? s .beyondPrecision) : BreaksDown clock? s .datetime

namespace DataType

variable {clock? : Option DateText.Clock} {s : String}

theorem read_integer_eq_noValue_iff :
    integer.read clock? s = .error .noValue ↔ Unreadable clock? s .integer := by
  rw [read, DateText.required_eq_error_iff, and_iff_left rfl, Option.map_eq_none_iff, leadingInt_eq_none_iff]
  constructor
  · rintro (hno | ⟨negative, digits, hdigits, hlength⟩)
    · exact .noDigits hno
    · exact .tooManyDigits hdigits hlength
  · intro h
    cases h with
    | noDigits hno => exact .inl hno
    | tooManyDigits hdigits hlength => exact .inr ⟨_, _, hdigits, hlength⟩

theorem read_number_eq_noValue_iff :
    number.read clock? s = .error .noValue ↔ Unreadable clock? s .number := by
  rw [read, DateText.required_eq_error_iff, and_iff_left rfl, Option.map_eq_none_iff, leadingFloat_eq_none_iff]
  constructor
  · exact .noNumeral
  · intro h
    cases h with
    | noNumeral hno => exact hno

theorem read_datetime_eq_error_iff {failure : DateText.Failure} :
    datetime.read clock? s = .error failure ↔ readMoment clock? s = .error failure :=
  map_eq_error_iff

theorem read_datetime_eq_noValue_iff :
    datetime.read clock? s = .error .noValue ↔ Unreadable clock? s .datetime := by
  rw [read_datetime_eq_error_iff, readMoment]
  by_cases hcolon : ':' ∈ s.toList
  · rw [if_pos hcolon, DateText.read_eq_error_iff]
    constructor
    · exact .dateText hcolon
    · intro h
      cases h with
      | noMillis hno => exact absurd hcolon hno
      | beyondCalendar hno => exact absurd hcolon hno
      | dateText _ hfails => exact hfails
  · rw [if_neg hcolon, DateText.required_eq_error_iff, and_iff_left rfl]
    cases hmillis : leadingFloat s with
    | none => exact iff_of_true rfl (.noMillis hcolon (leadingFloat_eq_none_iff.1 hmillis))
    | some millis =>
      rw [Option.bind_some, ofMillis?_eq_none_iff]
      constructor
      · intro hbeyond
        obtain ⟨w, v, hw, hreads⟩ := leadingFloat_eq_some_iff.1 hmillis
        exact .beyondCalendar hcolon hw hreads hbeyond
      · intro h
        cases h with
        | noMillis _ hno =>
          rw [leadingFloat_eq_none_iff.2 hno] at hmillis
          cases hmillis
        | beyondCalendar _ hw hreads hbeyond =>
          have hsome := leadingFloat_eq_some_iff.2 ⟨_, _, hw, hreads⟩
          rw [hmillis] at hsome
          cases hsome
          exact hbeyond
        | dateText hyes => exact absurd hyes hcolon

theorem read_eq_noValue_iff {type : DataType} :
    type.read clock? s = .error .noValue ↔ Unreadable clock? s type := by
  cases type with
  | integer => exact read_integer_eq_noValue_iff
  | number => exact read_number_eq_noValue_iff
  | datetime => exact read_datetime_eq_noValue_iff
  | string => exact iff_of_false (fun h => nomatch h) (fun h => nomatch h)
  | boolean => exact iff_of_false (fun h => nomatch h) (fun h => nomatch h)

theorem read_eq_beyondPrecision_iff {type : DataType} :
    type.read clock? s = .error .beyondPrecision ↔ BreaksDown clock? s type := by
  cases type with
  | integer => exact iff_of_false (fun h => nomatch (DateText.required_eq_error_iff.1 h).2) (fun h => nomatch h)
  | number => exact iff_of_false (fun h => nomatch (DateText.required_eq_error_iff.1 h).2) (fun h => nomatch h)
  | string => exact iff_of_false (fun h => nomatch h) (fun h => nomatch h)
  | boolean => exact iff_of_false (fun h => nomatch h) (fun h => nomatch h)
  | datetime =>
    rw [read_datetime_eq_error_iff]
    constructor
    · intro h
      have hcolon := mem_colon_of_beyondPrecision h
      rw [readMoment, if_pos hcolon, DateText.read_eq_error_iff] at h
      exact .dateText hcolon h
    · intro h
      cases h with
      | dateText hcolon hfails => rw [readMoment, if_pos hcolon, DateText.read_eq_error_iff.2 hfails]

end DataType

/-- The type of a value; null has none. -/
def BoundValue.type? : BoundValue → Option DataType
  | null => none
  | int _ => some .integer
  | float _ => some .number
  | bool _ => some .boolean
  | text _ => some .string
  | moment _ => some .datetime

theorem DataType.type?_of_read {clock? : Option DateText.Clock} {type : DataType} {s : String} {value : BoundValue}
    (h : type.read clock? s = .ok value) : value.type? = some type := by
  cases type with
  | integer =>
    obtain ⟨n, -, rfl⟩ := Option.map_eq_some_iff.1 (DateText.required_eq_ok_iff.1 h)
    rfl
  | number =>
    obtain ⟨x, -, rfl⟩ := Option.map_eq_some_iff.1 (DateText.required_eq_ok_iff.1 h)
    rfl
  | string =>
    cases h
    rfl
  | boolean =>
    cases h
    rfl
  | datetime =>
    rw [read] at h
    cases hmoment : readMoment clock? s with
    | error failure =>
      rw [hmoment] at h
      cases h
    | ok m =>
      rw [hmoment] at h
      cases h
      rfl

/-- A day in the middle of the year 2024. -/
def midsummer : DateText.Clock :=
  ⟨⟨2024, 6, 15, by decide⟩, 2024, by decide⟩

end ParamQuery
