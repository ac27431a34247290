import ParamQuery.DataType
import ParamQuery.Operator
import ParamQuery.RawValue

/-!
# Problems of a request, and how they are told

* `Problem` lists what can be wrong with the parameters of a request;
* `Issue` is the form in which it is told: a message and the data it speaks of.
-/

namespace ParamQuery

structure Issue where
  message : String
  data : Option (List (String × RawValue))
  deriving Repr

inductive Problem where
  /-- The text is no value of the field's type. -/
  | unconvertible (value field : String) (type : DataType)
  /-- The field is never null. -/
  | notNullable (field : String)
  /-- Nothing but equality may be asked of a null. -/
  | nullOperator (op : Operator) (field : String)
  /-- The text, in upper case, names no join. -/
  | unknownJoin (word : String)
  deriving DecidableEq, Repr

/-- A value of the type, as messages call it. -/
def DataType.noun : DataType → String
  | integer => "an integer"
  | number => "a number"
  | string => "a string"
  | datetime => "a datetime"
  | boolean => "a boolean"

namespace Problem

def message : Problem → String
  | unconvertible value field type =>
    "Failed to convert the value '" ++ value ++ "' of field '" ++ field ++ "' to " ++ type.noun
  | notNullable field => "Field '" ++ field ++ "' cannot be compared with NULL"
  | nullOperator op _ =>
    "Invalid WHERE operator '" ++ op.symbol ++ "' when comparing with NULL.  Must be '=' or '<>'."
  | unknownJoin word => "Invalid whereJoin value '" ++ word ++ "'.  Must be one of: AND,OR"

def data : Problem → List (String × RawValue)
  | unconvertible value field _ => [("field", .text field), ("value", .text value)]
  | notNullable field => [("field", .text field)]
  | nullOperator op field => [("field", .text field), ("operator", .text op.symbol)]
  | unknownJoin word => [("whereJoin", .text word)]

def issue (p : Problem) : Issue :=
  ⟨p.message, some p.data⟩

end Problem

end ParamQuery
