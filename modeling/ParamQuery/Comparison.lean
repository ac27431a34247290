import ParamQuery.Operator
import ParamQuery.Text.Blank

/-!
# Comparisons

A comparison is written as a field, an operator and a value, which may be missing: `age>=21`, `name=`.  The
field and the value hold no character of an operator, so the operator is the first one that fits, the longer
before the shorter.
-/

namespace ParamQuery

structure Comparison where
  field : String
  op : Operator
  value : String
  deriving DecidableEq, Repr

namespace Comparison

def isOperatorChar (c : Char) : Bool :=
  c = '<' || c = '>' || c = '='

/-- The operator at the start of a text, and what follows it. -/
def leadingOperator? : List Char → Option (Operator × List Char)
  | '<' :: '>' :: cs => some (.ne, cs)
  | '<' :: '=' :: cs => some (.le, cs)
  | '>' :: '=' :: cs => some (.ge, cs)
  | '<' :: cs => some (.lt, cs)
  | '>' :: cs => some (.gt, cs)
  | '=' :: cs => some (.eq, cs)
  | _ => none

def parse? (token : String) : Option Comparison :=
  let field := token.toList.takeWhile (!isOperatorChar ·)
  match leadingOperator? (token.toList.dropWhile (!isOperatorChar ·)) with
  | some (op, value) =>
    if field.isEmpty ∨ value.any isOperatorChar then none
    else some ⟨Text.trim (String.ofList field), op, Text.trim (String.ofList value)⟩
  | none => none

end Comparison

end ParamQuery
