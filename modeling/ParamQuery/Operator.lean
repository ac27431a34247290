/-!
# Comparison operators and joins
-/

namespace ParamQuery

/-- The operators that a comparison may use. -/
inductive Operator where
  | ne
  | le
  | ge
  | lt
  | gt
  | eq
  deriving DecidableEq, Repr

def Operator.symbol : Operator → String
  | .ne => "<>"
  | .le => "<="
  | .ge => ">="
  | .lt => "<"
  | .gt => ">"
  | .eq => "="

/-- The operators that a condition of the statement may use. -/
inductive SqlOperator where
  | compare (op : Operator)
  | is
  | isNot
  deriving DecidableEq, Repr

def SqlOperator.symbol : SqlOperator → String
  | .compare op => op.symbol
  | .is => "IS"
  | .isNot => "IS NOT"

/-- The operator that compares with `NULL` in the sense of `op`, if there is one. -/
def Operator.null? : Operator → Option SqlOperator
  | .eq => some .is
  | .ne => some .isNot
  | _ => none

inductive Join where
  | and
  | or
  deriving DecidableEq, Repr

def Join.word : Join → String
  | .and => "AND"
  | .or => "OR"

def Join.ofWord? (s : String) : Option Join :=
  [Join.and, Join.or].find? (·.word = s)

end ParamQuery
