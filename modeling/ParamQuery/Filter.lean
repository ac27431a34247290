import ParamQuery.Comparison
import ParamQuery.Conversion
import ParamQuery.Registry
import ParamQuery.Selection

/-!
# Filters

A filter is a sequence of groups of conditions, whose texts show placeholders, and the values for these
placeholders.  A value is bound when its comparison is read, before the group around it is put together.

A comparison is bound even when there is something wrong with it, and the problem is noted: the filter of a request
with problems is never used.
-/

namespace ParamQuery

structure Condition where
  field : String
  op : SqlOperator
  deriving DecidableEq, Repr

def Condition.text (c : Condition) : String :=
  "(" ++ c.field ++ " " ++ c.op.symbol ++ " ?)"

/-- The text that stands for `NULL`, in any case. -/
def nullWord : String := "__NULL__"

def isNullWord (s : String) : Bool :=
  Text.upper s = nullWord

/-- A condition, the value for its placeholder, and what is wrong with it. -/
structure Binding where
  condition : Condition
  value : BoundValue
  problems : List Problem
  deriving DecidableEq, Repr

namespace Comparison

/-- A comparison with `NULL`. -/
def bindNull (c : Comparison) (nullable : Bool) : Binding :=
  if nullable then
    match c.op.null? with
    | some op => ⟨⟨c.field, op⟩, .null, []⟩
    | none => ⟨⟨c.field, .compare c.op⟩, .null, [.nullOperator c.op c.field]⟩
  else ⟨⟨c.field, .compare c.op⟩, .null, [.notNullable c.field]⟩

/-- A comparison with a value of the type, or with the text itself if the field has none. -/
def bindValue (c : Comparison) (type : Option DataType) : Binding :=
  match type with
  | none => ⟨⟨c.field, .compare c.op⟩, .text c.value, []⟩
  | some type =>
    let (value, problems) := type.convert c.field c.value
    ⟨⟨c.field, .compare c.op⟩, value.getD .null, problems⟩

def bind (reg : Registry) (c : Comparison) : Binding :=
  if isNullWord c.value then c.bindNull (reg.isNullable c.field) else c.bindValue (reg.type? c.field)

end Comparison

/-- One or more conditions with a join between them. -/
structure Group where
  join : Join
  head : Condition
  tail : List Condition
  deriving DecidableEq, Repr

namespace Group

def conditions (g : Group) : List Condition :=
  g.head :: g.tail

/-- The group of the conditions, if there are any. -/
def ofConditions? (join : Join) : List Condition → Option Group
  | [] => none
  | c :: cs => some ⟨join, c, cs⟩

/-- The conditions with the join between them; two or more are put in parentheses. -/
def text (g : Group) : String :=
  let joined := (" " ++ g.join.word ++ " ").intercalate (g.conditions.map Condition.text)
  if g.tail.isEmpty then joined else "(" ++ joined ++ ")"

end Group

structure Filter where
  groups : List Group
  values : List BoundValue
  problems : List Problem
  deriving DecidableEq, Repr

namespace Filter

def empty : Filter := ⟨[], [], []⟩

/-- Takes the value and the problems of a binding. -/
def bind (f : Filter) (b : Binding) : Filter :=
  { f with values := f.values ++ [b.value], problems := f.problems ++ b.problems }

/-- Reads a token as a comparison of a field that may be filtered by, and binds it. -/
def readCondition (reg : Registry) (token : String) : StateM Filter (Option (Entry Condition)) := do
  match Comparison.parse? token with
  | none => pure none
  | some c =>
    if reg.isFilterable c.field then
      modify (·.bind (c.bind reg))
      pure (some ⟨c.field, (c.bind reg).condition⟩)
    else pure none

/-- Adds the group of the comparisons between the commas of a text. -/
def addGroup (f : Filter) (reg : Registry) (join : Join) (group : String) : Filter :=
  let (conditions, f) :=
    (selectFrom true reg.isFilterable (readCondition reg) [] (Text.splitAtCommas group)).run f
  { f with groups := f.groups ++ (Group.ofConditions? join conditions).toList }

/-- Adds the groups of a parameter, in order. -/
def addGroups (f : Filter) (reg : Registry) (join : Join) (groups : List String) : Filter :=
  groups.foldl (fun f group => f.addGroup reg join group) f

def conditions (f : Filter) : List Condition :=
  f.groups.flatMap Group.conditions

def expressions (f : Filter) : List String :=
  f.groups.map Group.text

end Filter

end ParamQuery
