import ParamQuery.Filter
import ParamQuery.Paging
import ParamQuery.SortKey
import ParamQuery.Statement
import ParamQuery.Token

/-!
# From parameters to a statement

A compiler holds a registry, the limits of a page, and the problems found so far.  It may compile any number of
requests, but keeps the problems of all, and has no statement for a request once there is one.

The parameters are looked at in a fixed order: `fields`, `whereAnd`, `where`, `whereOr`, `whereJoin`,
`orderBy`.  One of the wrong shape ends the work at once, whatever problems there are.
-/

namespace ParamQuery

structure Compiler where
  registry : Registry
  limits : Limits
  problems : List Problem
  deriving DecidableEq, Repr

/-- The parameters that say what is selected and filtered. -/
structure Request where
  fields : List String
  conjunctions : List String
  disjunctions : List String
  join : Join
  joinProblem : Option Problem
  deriving DecidableEq, Repr

/-- The first token names the join of the groups; no token means `AND`. -/
def readJoin (tokens : List String) : Join × Option Problem :=
  match tokens with
  | [] => (.and, none)
  | token :: _ =>
    let word := Text.upper token
    match Join.ofWord? word with
    | some join => (join, none)
    | none => (.and, some (.unknownJoin word))

def Request.ofParams (params : Params) : Except Fault Request := do
  let fields ← (params.get "fields").tokens
  let whereAnd ← (params.get "whereAnd").groups
  let plain ← (params.get "where").groups
  let whereOr ← (params.get "whereOr").groups
  let (join, joinProblem) := readJoin (← (params.get "whereJoin").tokens)
  return ⟨fields, whereAnd ++ plain, whereOr, join, joinProblem⟩

/-- The fields asked for, or all fields if none of those is known. -/
def Registry.selected (reg : Registry) (fields : List String) : List String :=
  let chosen := selectFirst reg.names.contains fieldEntry fields
  if chosen.isEmpty then reg.names else chosen

def Request.filter (req : Request) (reg : Registry) : Filter :=
  (Filter.empty.addGroups reg .and req.conjunctions).addGroups reg .or req.disjunctions

def Registry.sortKeys (reg : Registry) (tokens : List String) : List SortKey :=
  selectFirst reg.isSortable SortKey.entry tokens

/-- A valid query, before it is written. -/
structure Query where
  select : List String
  groups : List Group
  values : List BoundValue
  join : Join
  order : List SortKey
  offset : Int
  limit : Int
  deriving DecidableEq, Repr

namespace Query

def selectClause (q : Query) : Clause :=
  let text := ",".intercalate q.select
  ⟨text, "SELECT " ++ text, q.select⟩

/-- The clause of the groups, which is there if there are values for its placeholders. -/
def filterClause (q : Query) : Clause :=
  let items := q.groups.map Group.text
  let text := (" " ++ q.join.word ++ " ").intercalate items
  ⟨text, if q.values.isEmpty then "" else "WHERE " ++ text, items⟩

def orderClause (q : Query) : Clause :=
  let items := q.order.map SortKey.text
  let text := ",".intercalate items
  ⟨text, if items.isEmpty then "" else "ORDER BY " ++ text, items⟩

def statement (q : Query) : Except Fault (Statement BoundValue) :=
  Statement.ofParts q.selectClause q.filterClause q.values q.join.word q.orderClause q.offset q.limit

end Query

namespace Compiler

def new (registry : Registry) (limits : Limits) : Compiler :=
  ⟨registry, limits, []⟩

def note (t : Compiler) (problems : List Problem) : Compiler :=
  { t with problems := t.problems ++ problems }

def compile (t : Compiler) (params : Params) : Compiler × Except Fault (Statement BoundValue) :=
  match Request.ofParams params with
  | .error fault => (t, .error fault)
  | .ok req =>
    let t := t.note req.joinProblem.toList
    match (params.get "orderBy").tokens with
    | .error fault => (t, .error fault)
    | .ok order =>
      let filter := req.filter t.registry
      let t := t.note filter.problems
      if t.problems.isEmpty then
        let query : Query := {
          select := t.registry.selected req.fields
          groups := filter.groups
          values := filter.values
          join := req.join
          order := t.registry.sortKeys order
          offset := Limits.offset (params.get "offset")
          limit := t.limits.limit (params.get "limit") }
        (t, query.statement)
      else (t, .error (.invalidQuery t.problems))

end Compiler

/-- The statement for one request. -/
def compile (registry : Registry) (limits : Limits) (params : Params) : Except Fault (Statement BoundValue) :=
  ((Compiler.new registry limits).compile params).2

end ParamQuery
