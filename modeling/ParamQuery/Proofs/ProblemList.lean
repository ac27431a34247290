import ParamQuery.Proofs.RequestTexts

/-!
# All problems of a request

The problems of a request can be listed token by token (`RequestTexts.listedProblems`): that of the join first, then
at most one for each token of the groups, in order.  The list of what is noted while the filter is built is the same
(`problems_eq_listedProblems`), since what is noted for a comparison depends on nothing before it.
-/

namespace ParamQuery

/-- The problem of a `whereJoin` with these tokens: the first of them, in upper case, names no join. -/
def joinProblems (tokens : List String) : List Problem :=
  match tokens.head? with
  | none => []
  | some token => if Text.upper token ∈ ["AND", "OR"] then [] else [.unknownJoin (Text.upper token)]

/-- What is wrong with an accepted comparison: its field is compared with `NULL` and is never `NULL`, or is compared
with it by another operator than `=` and `<>`, or the value is none of its type. -/
def Comparison.problem? (reg : Registry) (c : Comparison) : Option Problem :=
  if isNullWord c.value then
    if reg.isNullable c.field = false then some (.notNullable c.field)
    else if c.op = .eq ∨ c.op = .ne then none
    else some (.nullOperator c.op c.field)
  else
    match reg.type? c.field with
    | none => none
    | some type => if (type.convert? c.value).isNone then some (.unconvertible c.value c.field type) else none

/-- The problems of a request, token by token. -/
def RequestTexts.listedProblems (reg : Registry) (t : RequestTexts) : List Problem :=
  joinProblems (tokensOf t.join) ++
    t.filterTokens.filterMap fun token => (acceptedComparison? reg token).bind (·.problem? reg)

theorem Join.ofWord?_isSome (s : String) : (ofWord? s).isSome = true ↔ s ∈ ["AND", "OR"] := by
  rw [ofWord?, List.find?_isSome]
  constructor
  · rintro ⟨join, -, hword⟩
    rw [decide_eq_true_eq] at hword
    rw [← hword]
    cases join <;> decide
  · intro h
    rcases List.mem_pair.1 h with rfl | rfl
    · exact ⟨.and, by decide, by decide⟩
    · exact ⟨.or, by decide, by decide⟩

theorem toList_readJoin (tokens : List String) : (readJoin tokens).2.toList = joinProblems tokens := by
  cases tokens with
  | nil => rfl
  | cons token tokens =>
    have hword := Join.ofWord?_isSome (Text.upper token)
    simp only [readJoin, joinProblems, List.head?_cons, ← hword]
    cases Join.ofWord? (Text.upper token) with
    | none => rfl
    | some join => rfl

/-- What is noted when a comparison is bound. -/
theorem Comparison.problems_bind (reg : Registry) (c : Comparison) :
    (c.bind reg).problems = (c.problem? reg).toList := by
  unfold bind problem?
  by_cases hnull : isNullWord c.value = true
  · simp only [hnull, ↓reduceIte, bindNull]
    cases reg.isNullable c.field with
    | false => rfl
    | true => cases c.op <;> rfl
  · simp only [hnull, Bool.false_eq_true, ↓reduceIte, bindValue]
    cases reg.type? c.field with
    | none => rfl
    | some type =>
      simp only [DataType.convert]
      cases type.convert? c.value with
      | none => rfl
      | some value => rfl

theorem RequestTexts.problems_eq_listedProblems (reg : Registry) (t : RequestTexts) :
    t.problems reg = t.listedProblems reg := by
  have hjoin : t.request.joinProblem.toList = joinProblems (tokensOf t.join) := toList_readJoin (tokensOf t.join)
  have hfilter : (t.request.filter reg).problems =
      t.filterTokens.filterMap fun token => (acceptedComparison? reg token).bind (·.problem? reg) := by
    rw [t.problems_request reg]
    simp only [Comparison.problems_bind, comparisons]
    rw [← List.filterMap_eq_flatMap_toList, List.filterMap_filterMap]
  rw [problems, listedProblems, hjoin, hfilter]

/-- There is no report on a valid query whose page cannot be written. -/
theorem Query.report?_eq_none {q : Query} {fault : Fault} (h : q.statement = .error fault) :
    fault.report? = none := by
  rw [eq_numeralTooLong_of_statement h]
  rfl

theorem Fault.report?_invalidQuery {problems : List Problem} (h : problems ≠ []) :
    report? (.invalidQuery problems) =
      some (.validation "Query Validation Error" (problems.map Problem.issue)) := by
  simp [report?, Report.ofIssues?, h]

end ParamQuery
