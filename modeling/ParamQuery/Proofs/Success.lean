import ParamQuery.Proofs.Acceptance

/-!
# When a request has a statement

A request has a statement if all its parameters have a shape that can be read, nothing is wrong with the join and
the comparisons, and the page can be written (`compile_eq_ok_iff`).  The statement is then the one of the query
`Request.query`, and its clauses are those of the query (`Query.statement_eq_ok_iff`).
-/

namespace ParamQuery

theorem Request.ofParams_eq_ok_iff {params : Params} {req : Request} :
    Request.ofParams params = .ok req ↔
      ∃ fields whereAnd plain whereOr join,
        (params.get "fields").tokens = .ok fields ∧ (params.get "whereAnd").groups = .ok whereAnd ∧
        (params.get "where").groups = .ok plain ∧ (params.get "whereOr").groups = .ok whereOr ∧
        (params.get "whereJoin").tokens = .ok join ∧
        req = ⟨fields, whereAnd ++ plain, whereOr, (readJoin join).1, (readJoin join).2⟩ := by
  unfold Request.ofParams
  cases (params.get "fields").tokens with
  | error e => simp [bind, Except.bind]
  | ok fields =>
  cases (params.get "whereAnd").groups with
  | error e => simp [bind, Except.bind]
  | ok whereAnd =>
  cases (params.get "where").groups with
  | error e => simp [bind, Except.bind]
  | ok plain =>
  cases (params.get "whereOr").groups with
  | error e => simp [bind, Except.bind]
  | ok whereOr =>
  cases (params.get "whereJoin").tokens with
  | error e => simp [bind, Except.bind]
  | ok join => simp [bind, Except.bind, pure, Except.pure, eq_comm]

/-- The query of a request, with the filter of its comparisons. -/
def Request.query (req : Request) (reg : Registry) (limits : Limits) (params : Params) (order : List String) :
    Query where
  select := reg.selected req.fields
  groups := (req.filter reg).groups
  values := (req.filter reg).values
  join := req.join
  order := reg.sortKeys order
  offset := Limits.offset (params.get "offset")
  limit := limits.limit (params.get "limit")

theorem compile_eq_ok_iff {reg : Registry} {limits : Limits} {params : Params} {s : Statement BoundValue} :
    compile reg limits params = .ok s ↔
      ∃ req order, Request.ofParams params = .ok req ∧ (params.get "orderBy").tokens = .ok order ∧
        req.joinProblem = none ∧ (req.filter reg).problems = [] ∧
        (req.query reg limits params order).statement = .ok s := by
  unfold compile Compiler.compile
  cases Request.ofParams params with
  | error e => simp
  | ok req =>
  cases (params.get "orderBy").tokens with
  | error e => simp
  | ok order =>
    simp only [Compiler.note, Compiler.new, List.nil_append, List.isEmpty_iff, List.append_eq_nil_iff,
      Option.toList_eq_nil_iff]
    by_cases h : req.joinProblem = none ∧ (req.filter reg).problems = []
    · simp [h, Request.query]
    · simp only [h, ↓reduceIte]
      constructor
      · intro he
        cases he
      · rintro ⟨req', order', hreq, -, hjoin, hproblems, -⟩
        cases hreq
        exact absurd ⟨hjoin, hproblems⟩ h

theorem exists_statement_of_isOk {reg : Registry} {limits : Limits} {params : Params}
    (h : (compile reg limits params).isOk = true) : ∃ s, compile reg limits params = .ok s := by
  cases hc : compile reg limits params with
  | error fault => rw [hc] at h; cases h
  | ok s => exact ⟨s, rfl⟩

theorem Query.statement_eq_ok_iff {q : Query} {s : Statement BoundValue} :
    q.statement = .ok s ↔
      ∃ page, Statement.limitText? q.offset q.limit = some page ∧
        s = ⟨q.selectClause, q.filterClause, q.values, q.join.word, q.orderClause, q.offset, q.limit, page⟩ := by
  unfold Query.statement Statement.ofParts
  cases Statement.limitText? q.offset q.limit with
  | none => simp
  | some page => simp [eq_comm]

/-- All that can be wrong with a query is that its page cannot be written. -/
theorem Query.eq_numeralTooLong_of_statement {q : Query} {fault : Fault} (h : q.statement = .error fault) :
    fault = .numeralTooLong := by
  unfold Query.statement Statement.ofParts at h
  split at h
  · cases h
  · exact (Except.error.inj h).symm

/-- A registry to try things on: fields with and without a type, one that may be `NULL`, and one that may only be
selected. -/
def people : Registry where
  names := ["id", "age", "name", "active"]
  filterable := ["age", "name", "active"]
  sortable := ["age", "name"]
  nullable := [("active", true), ("name", true), ("age", false), ("id", false)]
  types := [("active", .boolean), ("age", .integer)]
  consistent := by constructor <;> decide

theorem forall_people_filterable {p : String → Prop} (h : ∀ name ∈ people.filterable, p name) :
    ∀ name, people.isFilterable name = true → p name :=
  fun name hname => h name (FieldTables.isFilterable_iff.1 hname)

end ParamQuery
