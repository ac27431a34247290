import ParamQuery.Number.Written

/-!
# Data types of fields

A field may declare the type of the values it is compared with, by name or by any scalar whose text is such a name
up to case and surrounding white space.
-/

namespace ParamQuery

inductive DataType where
  | integer
  | number
  | string
  | datetime
  | boolean
  deriving DecidableEq, Repr

namespace DataType

def all : List DataType :=
  [integer, number, string, datetime, boolean]

def name : DataType → String
  | integer => "INTEGER"
  | number => "NUMBER"
  | string => "STRING"
  | datetime => "DATETIME"
  | boolean => "BOOLEAN"

def ofName? (s : String) : Option DataType :=
  all.find? (·.name = s)

theorem ofName?_name (t : DataType) : ofName? t.name = some t := by
  cases t <;> decide

end DataType

/-- What may be given for a data type. -/
inductive TypeLabel where
  | text (s : String)
  | int (n : Int)
  | float (x : Number.Binary64)
  | bool (b : Bool)
  deriving DecidableEq, Repr

/-- The text of a label; an integer may be too long to be written. -/
def TypeLabel.text? : TypeLabel → Option String
  | text s => some s
  | int n => Number.intText? n
  | float x => some x.floatText
  | bool true => some "True"
  | bool false => some "False"

end ParamQuery
