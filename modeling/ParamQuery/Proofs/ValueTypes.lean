import ParamQuery.Proofs.Registrations
import ParamQuery.Proofs.RequestTexts

/-!
# The types of the values in a statement

Each accepted comparison has a condition in the statement, and a value at the same place.  The first registration of
its field decides which value that is (`exists_boundBy`): `NULL` only where the field may be `NULL` and equality is
asked for, and a value of the declared type otherwise.  A comparison that is bound in any other way is a problem, and
a request with problems has no statement.
-/

namespace ParamQuery

/-- The value that a text stands for under a declared type; without a type it is the text itself. -/
inductive ReadsAs (raw : String) : Option DataType → BoundValue → Prop
  | integer {n : Int} (h : Number.leadingInt raw = some n) : ReadsAs raw (some .integer) (.int n)
  | number {x : Number.Binary64} (h : Number.leadingFloat raw = some x) : ReadsAs raw (some .number) (.float x)
  | datetime {m : Calendar.Moment} (h : readMoment? raw = some m) : ReadsAs raw (some .datetime) (.moment m)
  | boolean : ReadsAs raw (some .boolean) (.bool (isAffirmative raw))
  | string : ReadsAs raw (some .string) (.text raw)
  | untyped : ReadsAs raw none (.text raw)

namespace ReadsAs

variable {raw : String} {value : BoundValue}

theorem ne_null {type : Option DataType} (h : ReadsAs raw type value) : value ≠ .null := by
  cases h <;> simp

theorem of_convert? {type : DataType} (h : type.convert? raw = some value) : ReadsAs raw (some type) value := by
  rw [DataType.convert?_eq] at h
  cases type with
  | integer =>
    obtain ⟨n, hn, rfl⟩ := Option.map_eq_some_iff.1 h
    exact .integer hn
  | number =>
    obtain ⟨x, hx, rfl⟩ := Option.map_eq_some_iff.1 h
    exact .number hx
  | string =>
    cases h
    exact .string
  | datetime =>
    obtain ⟨m, hm, rfl⟩ := Option.map_eq_some_iff.1 h
    exact .datetime hm
  | boolean =>
    cases h
    exact .boolean

/-- A declared type of texts is as good as none. -/
theorem of_filter {type : Option DataType} (h : ReadsAs raw (type.filter (· ≠ .string)) value) :
    ReadsAs raw type value := by
  cases type with
  | none => exact h
  | some type =>
    cases type with
    | string =>
      cases h
      exact .string
    | integer => exact h
    | number => exact h
    | datetime => exact h
    | boolean => exact h

end ReadsAs

namespace Comparison

variable {reg : Registry} {c : Comparison}

/-- A comparison with `NULL` that is no problem. -/
theorem bind_null (hnull : isNullWord c.value = true) (h : (c.bind reg).problems = []) :
    reg.isNullable c.field = true ∧ (c.bind reg).value = .null ∧
      (c.op = .eq ∧ (c.bind reg).condition.op = .is ∨ c.op = .ne ∧ (c.bind reg).condition.op = .isNot) := by
  have hbind : c.bind reg = c.bindNull (reg.isNullable c.field) := if_pos hnull
  rw [hbind] at h ⊢
  unfold bindNull at h ⊢
  cases hnullable : reg.isNullable c.field with
  | false =>
    rw [hnullable] at h
    cases h
  | true =>
    rw [hnullable] at h
    cases hop : c.op with
    | eq => exact ⟨rfl, rfl, .inl ⟨rfl, rfl⟩⟩
    | ne => exact ⟨rfl, rfl, .inr ⟨rfl, rfl⟩⟩
    | lt => rw [hop] at h; cases h
    | le => rw [hop] at h; cases h
    | gt => rw [hop] at h; cases h
    | ge => rw [hop] at h; cases h

/-- A comparison with another value that is no problem. -/
theorem bind_value (hnull : isNullWord c.value ≠ true) (h : (c.bind reg).problems = []) :
    (c.bind reg).condition.op = .compare c.op ∧ ReadsAs c.value (reg.type? c.field) (c.bind reg).value := by
  have hbind : c.bind reg = c.bindValue (reg.type? c.field) := if_neg hnull
  rw [hbind] at h ⊢
  cases htype : reg.type? c.field with
  | none => exact ⟨rfl, .untyped⟩
  | some type =>
    rw [htype] at h
    simp only [bindValue, DataType.convert] at h ⊢
    cases hvalue : type.convert? c.value with
    | none =>
      simp only [hvalue] at h
      cases h
    | some value => exact ⟨trivial, .of_convert? hvalue⟩

end Comparison

/-- The condition and the value of a comparison follow the first registration of its field. -/
structure BoundBy (history : List Registration) (c : Comparison) (condition : Condition) (value : BoundValue) :
    Prop where
  field : condition.field = c.field
  null_iff : value = .null ↔ Text.upper c.value = "__NULL__"
  operator_iff : (condition.op = .is ∨ condition.op = .isNot) ↔ Text.upper c.value = "__NULL__"
  registered : ∃ r type, (effective history c.field).head? = some r ∧ r.declared = .ok type ∧
    (value = .null → r.nullable = true ∧
      (c.op = .eq ∧ condition.op = .is ∨ c.op = .ne ∧ condition.op = .isNot)) ∧
    (value ≠ .null → condition.op = .compare c.op ∧ ReadsAs c.value type value)

/-- A field that may be filtered by has a first registration. -/
theorem exists_first_of_isFilterable {history : List Registration} {name : String}
    (h : (Registry.ofHistory history).isFilterable name = true) :
    ∃ r type, (effective history name).head? = some r ∧ r.declared = .ok type := by
  rw [Registry.toFieldTables_ofHistory, FieldTables.isFilterable_ofHistory] at h
  cases heffective : effective history name with
  | nil =>
    rw [heffective] at h
    cases h
  | cons r rs =>
    have hr : r ∈ effective history name := by
      rw [heffective]
      exact List.mem_cons_self
    have hok := (List.mem_filter.1 hr).2
    unfold Registration.isEffectiveOn at hok
    cases hdeclared : r.declared with
    | error fault => simp [hdeclared, Except.isOk, Except.toBool] at hok
    | ok type => exact ⟨r, type, rfl, hdeclared⟩

theorem Comparison.boundBy {history : List Registration} {c : Comparison}
    (hfield : (Registry.ofHistory history).isFilterable c.field = true)
    (h : (c.bind (.ofHistory history)).problems = []) :
    BoundBy history c (c.bind (.ofHistory history)).condition (c.bind (.ofHistory history)).value := by
  obtain ⟨r, type, hfirst, htype⟩ := exists_first_of_isFilterable hfield
  have hnullable : (Registry.ofHistory history).isNullable c.field = _ :=
    FieldTables.isNullable_ofHistory history c.field
  have hconversion : (Registry.ofHistory history).type? c.field = _ := FieldTables.type?_ofHistory history c.field
  rw [hfirst] at hnullable hconversion
  have hfield' := c.bind_condition_field (.ofHistory history)
  have hword : isNullWord c.value = true ↔ Text.upper c.value = "__NULL__" := decide_eq_true_iff
  by_cases hnull : isNullWord c.value = true
  · obtain ⟨hmay, hvalue, hop⟩ := Comparison.bind_null hnull h
    constructor
    case field => exact hfield'
    case null_iff => exact iff_of_true hvalue (hword.1 hnull)
    case operator_iff => exact iff_of_true (hop.imp And.right And.right) (hword.1 hnull)
    case registered =>
      refine ⟨r, type, hfirst, htype, fun _ => ⟨?_, hop⟩, fun hne => absurd hvalue hne⟩
      rw [← hmay, hnullable]
      rfl
  · obtain ⟨hop, hreads⟩ := Comparison.bind_value hnull h
    rw [hconversion, Option.bind_some, Registration.kept, htype] at hreads
    have hreads' : ReadsAs c.value type (c.bind (.ofHistory history)).value := .of_filter hreads
    have hne := hreads'.ne_null
    constructor
    case field => exact hfield'
    case null_iff => exact iff_of_false hne fun h => hnull (hword.2 h)
    case operator_iff =>
      rw [hop]
      exact iff_of_false (by simp) fun h => hnull (hword.2 h)
    case registered => exact ⟨r, type, hfirst, htype, fun h => absurd h hne, fun _ => ⟨hop, hreads'⟩⟩

/-- In the statement of a request each accepted comparison has its condition and its value, in order. -/
theorem exists_boundBy {history : List Registration} {limits : Limits} {params : Params} {s : Statement BoundValue}
    (h : compile (.ofHistory history) limits params = .ok s) :
    ∃ (t : RequestTexts) (groups : List Group), params.HaveTexts t ∧ s.filter.items = groups.map Group.text ∧
      (groups.flatMap Group.conditions).length = (t.comparisons (.ofHistory history)).length ∧
      s.values.length = (t.comparisons (.ofHistory history)).length ∧
      ∀ (k : Nat) (c : Comparison), (t.comparisons (.ofHistory history))[k]? = some c →
        ∃ condition value, (groups.flatMap Group.conditions)[k]? = some condition ∧ s.values[k]? = some value ∧
          BoundBy history c condition value := by
  obtain ⟨t, ht, hproblems, hq⟩ := exists_texts_of_compile h
  have hconditions := t.conditions_request (.ofHistory history)
  have hvalues := t.values_request (.ofHistory history)
  obtain ⟨page, -, rfl⟩ := Query.statement_eq_ok_iff.1 hq
  refine ⟨t, (t.request.filter (.ofHistory history)).groups, ht, rfl, ?_, ?_, ?_⟩
  · exact (congrArg List.length hconditions).trans (List.length_map _)
  · exact (congrArg List.length hvalues).trans (List.length_map _)
  · intro k c hk
    have hmem := List.mem_of_getElem? hk
    -- A statement comes from a request without problems, so none is noted for any of its comparisons.
    have hfine : ∀ c ∈ t.comparisons (.ofHistory history), (c.bind (.ofHistory history)).problems = [] := by
      have hall := (List.append_eq_nil_iff.1 hproblems).2
      rw [t.problems_request (.ofHistory history)] at hall
      exact List.flatMap_eq_nil_iff.1 hall
    refine ⟨_, _, ?_, ?_, c.boundBy (t.isFilterable_of_mem_comparisons _ hmem) (hfine c hmem)⟩
    · show (t.request.filter (.ofHistory history)).conditions[k]? = _
      rw [hconditions, List.getElem?_map, hk]
      rfl
    · show (t.request.filter (.ofHistory history)).values[k]? = _
      rw [hvalues, List.getElem?_map, hk]
      rfl

/-- The registration of `age` that fails and the one that comes too late leave its type and its values alone. -/
theorem exists_boundBy_people :
    ∃ (history : List Registration) (s : Statement BoundValue),
      history = [⟨some "age", true, false, true, some (.text "money")⟩,
        ⟨some "age", true, false, false, some (.text " integer ")⟩,
        ⟨some "age", false, true, true, some (.text "STRING")⟩, ⟨none, true, true, true, none⟩,
        ⟨some "name", true, false, true, none⟩, ⟨some "name", true, false, false, some (.text "NUMBER")⟩] ∧
      compile (.ofHistory history) ⟨20, 20⟩
        [("whereAnd", .list [.text "age >= 21px,name <> __null__", .text "name = 7 "])] = .ok s ∧
      s.filter.text = "((age >= ?) AND (name IS NOT ?)) AND (name = ?)" ∧
      s.values = [.int 21, .null, .text "7"] ∧
      ∃ (t : RequestTexts) (groups : List Group), s.filter.items = groups.map Group.text ∧
        ∀ (k : Nat) (c : Comparison), (t.comparisons (.ofHistory history))[k]? = some c →
          ∃ condition value, (groups.flatMap Group.conditions)[k]? = some condition ∧ s.values[k]? = some value ∧
            BoundBy history c condition value := by
  let history : List Registration := [⟨some "age", true, false, true, some (.text "money")⟩,
    ⟨some "age", true, false, false, some (.text " integer ")⟩,
    ⟨some "age", false, true, true, some (.text "STRING")⟩, ⟨none, true, true, true, none⟩,
    ⟨some "name", true, false, true, none⟩, ⟨some "name", true, false, false, some (.text "NUMBER")⟩]
  let params : Params := [("whereAnd", .list [.text "age >= 21px,name <> __null__", .text "name = 7 "])]
  obtain ⟨s, hs⟩ :=
    exists_statement_of_isOk (show (compile (.ofHistory history) ⟨20, 20⟩ params).isOk = true by decide +kernel)
  have hparts : (compile (.ofHistory history) ⟨20, 20⟩ params).toOption.map (fun s => (s.filter.text, s.values)) =
      some ("((age >= ?) AND (name IS NOT ?)) AND (name = ?)", [.int 21, .null, .text "7"]) := by decide +kernel
  rw [hs] at hparts
  obtain ⟨htext, hvalues⟩ := Prod.mk.inj (Option.some.inj hparts)
  obtain ⟨t, groups, -, hitems, -, -, hbound⟩ := exists_boundBy hs
  exact ⟨history, s, rfl, hs, htext, hvalues, t, groups, hitems, hbound⟩

end ParamQuery
