import ParamQuery.Calendar.EpochMillis
import ParamQuery.DataType
import ParamQuery.DateText.WordRule
import ParamQuery.Number.Leading
import ParamQuery.Text.Case

/-!
# Bound values

The values that go with the placeholders of a statement, and how a text becomes one.

* an integer or a number is read from the start of the text;
* a date-time with a colon is a date text, one without is a number of milliseconds since 1970;
* a boolean is true for `true`, `yes`, `on` and `1` in any case, and false for anything else.
-/

namespace ParamQuery

inductive BoundValue where
  | null
  | int (n : Int)
  | float (x : Number.Binary64)
  | bool (b : Bool)
  | text (s : String)
  | moment (m : Calendar.Moment)
  deriving DecidableEq, Repr

def affirmatives : List String :=
  ["true", "yes", "on", "1"]

def isAffirmative (s : String) : Bool :=
  Text.lower s ∈ affirmatives

/-- The moment that a text stands for at the time that a clock shows. -/
def readMoment (clock? : Option DateText.Clock) (s : String) : Except DateText.Failure Calendar.Moment :=
  if ':' ∈ s.toList then DateText.read clock? s
  else DateText.required ((Number.leadingFloat s).bind Calendar.Moment.ofMillis?)

theorem mem_colon_of_beyondPrecision {clock? : Option DateText.Clock} {s : String}
    (h : readMoment clock? s = .error .beyondPrecision) : ':' ∈ s.toList := by
  unfold readMoment at h
  split at h
  · next hcolon => exact hcolon
  · cases (DateText.required_eq_error_iff.1 h).2

/-- The value of the type that a text stands for at the time that a clock shows. -/
def DataType.read (clock? : Option DateText.Clock) (type : DataType) (s : String) :
    Except DateText.Failure BoundValue :=
  match type with
  | .integer => DateText.required ((Number.leadingInt s).map .int)
  | .number => DateText.required ((Number.leadingFloat s).map .float)
  | .string => .ok (.text s)
  | .datetime => (readMoment clock? s).map .moment
  | .boolean => .ok (.bool (isAffirmative s))

/-- The moment that a text stands for at any time. -/
def readMoment? (s : String) : Option Calendar.Moment :=
  (readMoment none s).toOption

/-- The value of the type that a text stands for at any time. -/
def DataType.convert? (type : DataType) (s : String) : Option BoundValue :=
  (type.read none s).toOption

theorem DataType.convert?_eq (type : DataType) (s : String) :
    type.convert? s =
      match type with
      | .integer => (Number.leadingInt s).map .int
      | .number => (Number.leadingFloat s).map .float
      | .string => some (.text s)
      | .datetime => (readMoment? s).map .moment
      | .boolean => some (.bool (isAffirmative s)) := by
  unfold convert? read readMoment?
  cases type with
  | integer => exact DateText.toOption_required _
  | number => exact DateText.toOption_required _
  | string => rfl
  | boolean => rfl
  | datetime => cases readMoment none s <;> rfl

end ParamQuery
