import ParamQuery.Fault
import ParamQuery.Number.Written

/-!
# Statements

A statement has a clause for what is selected, one for the filter and one for the order, the values for the
placeholders of the filter, and a page.  `sql` puts the clauses together for a table.
-/

namespace ParamQuery

/-- The items of a clause, their text, and the text with its keyword. -/
structure Clause where
  text : String
  clause : String
  items : List String
  deriving DecidableEq, Repr

structure Statement (α : Type) where
  select : Clause
  filter : Clause
  values : List α
  join : String
  order : Clause
  offset : Int
  limit : Int
  limitClause : String
  deriving DecidableEq, Repr

namespace Statement

variable {α : Type}

def limitText? (offset limit : Int) : Option String := do
  return "LIMIT " ++ (← Number.intText? offset) ++ "," ++ (← Number.intText? limit)

/-- A statement of the given parts, unless its page cannot be written. -/
def ofParts (select filter : Clause) (values : List α) (join : String) (order : Clause) (offset limit : Int) :
    Except Fault (Statement α) :=
  match limitText? offset limit with
  | some limitClause => .ok ⟨select, filter, values, join, order, offset, limit, limitClause⟩
  | none => .error .numeralTooLong

/-- The whole statement for a table, with or without its page; empty clauses are left out. -/
def sql (s : Statement α) (table : String) (withoutPage : Bool) : String :=
  let parts := [s.select.clause, "FROM " ++ table, s.filter.clause, s.order.clause] ++
    if withoutPage then [] else [s.limitClause]
  " ".intercalate (parts.filter (· ≠ ""))

end Statement

end ParamQuery
