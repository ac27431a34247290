import ParamQuery.BoundValue
import ParamQuery.Issue

/-!
# Conversion with a note of failure

A value that is none of its field's type is noted as a problem, and the request goes on (`DataType.convertNoting`).
Only a number that is too long for the arithmetic of date texts is not provided for, and ends the conversion.

A request is compiled as if at any time (`DataType.convert`): what it comes to is noted as a problem if it depends on
the day or cannot be computed.
-/

namespace ParamQuery

/-- Whether a failure is turned into a problem. -/
def DateText.Failure.isNoted : Failure → Bool
  | noValue => true
  | beyondPrecision => false

namespace DataType

/-- Converts the text `s` of a field when the problems `noted` have been found; gives the problems found then and the
value, none if the text has none. -/
def convertNoting (clock? : Option DateText.Clock) (type : DataType) (field s : String) (noted : List Problem) :
    List Problem × Except DateText.Failure (Option BoundValue) :=
  match type.read clock? s with
  | .ok value => (noted, .ok (some value))
  | .error failure =>
    if failure.isNoted then (noted ++ [.unconvertible s field type], .ok none) else (noted, .error failure)

section Noting

variable {clock? : Option DateText.Clock} {type : DataType} {s : String}

theorem convertNoting_of_ok {value : BoundValue} (h : type.read clock? s = .ok value) (field : String)
    (noted : List Problem) : type.convertNoting clock? field s noted = (noted, .ok (some value)) := by
  rw [convertNoting, h]

theorem convertNoting_of_noValue (h : type.read clock? s = .error .noValue) (field : String)
    (noted : List Problem) :
    type.convertNoting clock? field s noted = (noted ++ [.unconvertible s field type], .ok none) := by
  rw [convertNoting, h]
  rfl

theorem convertNoting_of_beyondPrecision (h : type.read clock? s = .error .beyondPrecision) (field : String)
    (noted : List Problem) : type.convertNoting clock? field s noted = (noted, .error .beyondPrecision) := by
  rw [convertNoting, h]
  rfl

end Noting

/-- The value of the text `s` of a field, and the problems with it. -/
def convert (type : DataType) (field s : String) : Option BoundValue × List Problem :=
  match type.convert? s with
  | some value => (some value, [])
  | none => (none, [.unconvertible s field type])

end DataType

end ParamQuery
