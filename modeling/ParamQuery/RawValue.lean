import ParamQuery.Number.Binary64

/-!
# Raw parameter values

What a caller may hand over for a parameter, before anything is known about its shape.
-/

namespace ParamQuery

inductive RawValue where
  | null
  | bool (b : Bool)
  | int (n : Int)
  | float (x : Number.Binary64)
  | text (s : String)
  | list (items : List RawValue)
  | tuple (items : List RawValue)
  | map (entries : List (String × RawValue))
  | bytes (octets : List UInt8)
  /-- A value of another class, of which nothing but the name is looked at. -/
  | other (className : String)
  deriving Inhabited, Repr

/-- The kinds of raw values, as they are named in reports. -/
inductive Kind where
  | null
  | bool
  | int
  | float
  | text
  | list
  | tuple
  | map
  | bytes
  | other (className : String)
  deriving DecidableEq, Repr

def Kind.name : Kind → String
  | .null => "NoneType"
  | .bool => "bool"
  | .int => "int"
  | .float => "float"
  | .text => "str"
  | .list => "list"
  | .tuple => "tuple"
  | .map => "dict"
  | .bytes => "bytes"
  | .other className => className

def RawValue.kind : RawValue → Kind
  | .null => .null
  | .bool _ => .bool
  | .int _ => .int
  | .float _ => .float
  | .text _ => .text
  | .list _ => .list
  | .tuple _ => .tuple
  | .map _ => .map
  | .bytes _ => .bytes
  | .other className => .other className

/-- Named parameters; a name that is missing stands for `null`. -/
abbrev Params := List (String × RawValue)

def Params.get (params : Params) (name : String) : RawValue :=
  (params.lookup name).getD .null

end ParamQuery
