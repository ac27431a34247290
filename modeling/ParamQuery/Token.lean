import ParamQuery.Fault
import ParamQuery.Text.Blank
import ParamQuery.Text.Pieces

/-!
# Tokens of a parameter

A parameter is a text or a sequence of texts.  Its groups are these texts; its tokens are what stands between the
commas in them.  Both are trimmed, and blank ones are left out.
-/

namespace ParamQuery

/-- The trimmed texts that are not blank. -/
def trimmed (texts : List String) : List String :=
  (texts.map Text.trim).filter (· ≠ "")

namespace RawValue

def text? : RawValue → Except Fault String
  | .text s => .ok s
  | value => .error (.unsupportedInput value.kind)

/-- The texts of a parameter; the first part of another kind is reported. -/
def texts : RawValue → Except Fault (List String)
  | .null => .ok []
  | .list items | .tuple items => items.mapM text?
  | value => value.text?.map fun s => [s]

def groups (value : RawValue) : Except Fault (List String) :=
  value.texts.map trimmed

def tokens (value : RawValue) : Except Fault (List String) :=
  value.texts.map fun texts => trimmed (texts.flatMap Text.splitAtCommas)

end RawValue

end ParamQuery
