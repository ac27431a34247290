import ParamQuery.Proofs.RequestTexts
import ParamQuery.Proofs.SelectionPipeline

/-!
# What a statement is made of

A statement has a fixed form, whatever the parameters are (`exists_statementForm`): it selects some of the
registered names, filters by conditions on fields that may be filtered by, and orders by fields that may be ordered
by, none of them twice.  Besides these names, the keywords, the table and the numbers of its page it has no text
(`MadeOf`), since parts with this property are put together with keywords between them.
-/

namespace ParamQuery

/-- The text is a sequence of words. -/
def MadeOf (word : String → Prop) (text : String) : Prop :=
  ∃ words, (∀ w ∈ words, word w) ∧ text = String.join words

namespace MadeOf

variable {word : String → Prop} {s t : String}

theorem empty : MadeOf word "" :=
  ⟨[], by simp, rfl⟩

theorem of_word (h : word s) : MadeOf word s :=
  ⟨[s], by simpa using h, by simp⟩

theorem append (hs : MadeOf word s) (ht : MadeOf word t) : MadeOf word (s ++ t) := by
  obtain ⟨ws, hws, rfl⟩ := hs
  obtain ⟨vs, hvs, rfl⟩ := ht
  refine ⟨ws ++ vs, ?_, String.join_append.symm⟩
  intro w hw
  rcases List.mem_append.1 hw with hw | hw
  · exact hws w hw
  · exact hvs w hw

theorem intercalate {texts : List String} (hs : MadeOf word s) (h : ∀ t ∈ texts, MadeOf word t) :
    MadeOf word (s.intercalate texts) := by
  induction texts with
  | nil => simpa using empty
  | cons t texts ih =>
    have ht := h t (by simp)
    have htexts := ih fun u hu => h u (by simp [hu])
    cases texts with
    | nil => simpa using ht
    | cons u us =>
      rw [String.intercalate_cons_cons]
      exact (ht.append hs).append htexts

end MadeOf

/-- The operators that a condition may have in a statement. -/
def conditionOperators : List String :=
  ["<>", "<=", ">=", "<", ">", "=", "IS", "IS NOT"]

theorem SqlOperator.symbol_mem (op : SqlOperator) : op.symbol ∈ conditionOperators := by
  cases op with
  | compare op => cases op <;> decide
  | is => decide
  | isNot => decide

/-- What stands in a statement whatever it selects, filters by and orders by. -/
def statementPhrases : List String :=
  ["SELECT ", " FROM ", " WHERE ", " ORDER BY ", " LIMIT ", " DESC", "AND", "OR", " ", ",", "(", ")", " ?)"]

/-- The words of a statement for a table and a page. -/
inductive StatementWord (reg : Registry) (table : String) (offset limit : Int) : String → Prop
  | phrase {w : String} (h : w ∈ statementPhrases) : StatementWord reg table offset limit w
  | operator {w : String} (h : w ∈ conditionOperators) : StatementWord reg table offset limit w
  | field {name : String} (h : name ∈ reg.names) : StatementWord reg table offset limit name
  | table : StatementWord reg table offset limit table
  | offset : StatementWord reg table offset limit (toString offset)
  | limit : StatementWord reg table offset limit (toString limit)

/-- The form of the statement of a request with the accepted comparisons `cs`. -/
structure StatementForm (reg : Registry) (cs : List Comparison) (s : Statement BoundValue) (names : List String)
    (groups : List Group) (keys : List SortKey) : Prop where
  sql_withoutPage : ∀ table, s.sql table true = "SELECT " ++ ",".intercalate names ++ " FROM " ++ table ++
    (if cs = [] then "" else " WHERE " ++ s.filter.text) ++
    (if keys = [] then "" else " ORDER BY " ++ ",".intercalate (keys.map SortKey.text))
  sql_withPage : ∀ table, s.sql table false =
    s.sql table true ++ " LIMIT " ++ toString s.offset ++ "," ++ toString s.limit
  names_ne_nil : names ≠ []
  names_nodup : names.Nodup
  names_registered : ∀ name ∈ names, name ∈ reg.names
  keys_nodup : (keys.map (·.field)).Nodup
  keys_sortable : ∀ k ∈ keys, reg.isSortable k.field = true
  keys_text : ∀ k ∈ keys, k.text = k.field ∨ k.text = k.field ++ " DESC"
  filter_text : s.filter.text = (" " ++ s.join ++ " ").intercalate (groups.map Group.text)
  conditions_fields : (groups.flatMap Group.conditions).map (·.field) = cs.map (·.field)
  conditions_filterable : ∀ g ∈ groups, ∀ c ∈ g.conditions, reg.isFilterable c.field = true
  conditions_text : ∀ g ∈ groups, ∀ c ∈ g.conditions, ∃ op ∈ conditionOperators,
    c.text = "(" ++ c.field ++ " " ++ op ++ " ?)"
  words : ∀ table withoutPage, MadeOf (StatementWord reg table s.offset s.limit) (s.sql table withoutPage)

theorem Number.ofList_intDigits (n : Int) : String.ofList (intDigits n) = toString n := by
  unfold intDigits
  cases n with
  | ofNat n =>
    simp
    rfl
  | negSucc n =>
    simp
    rfl

theorem Number.intText?_eq_some {n : Int} {s : String} (h : intText? n = some s) : s = toString n := by
  unfold intText? at h
  split at h
  · cases h
  · rw [← ofList_intDigits]
    exact (Option.some.inj h).symm

theorem Statement.limitText?_eq_some {offset limit : Int} {page : String} (h : limitText? offset limit = some page) :
    page = "LIMIT " ++ toString offset ++ "," ++ toString limit := by
  unfold limitText? at h
  simp only [Option.bind_eq_bind, Option.bind_eq_some_iff, Option.pure_def, Option.some.injEq] at h
  obtain ⟨first, hfirst, last, hlast, rfl⟩ := h
  rw [Number.intText?_eq_some hfirst, Number.intText?_eq_some hlast]

/-- The filter of a query stands in its statement if there are values for it, the order if it has keys. -/
theorem Query.sql_eq {q : Query} {s : Statement BoundValue} (h : q.statement = .ok s) (table : String) :
    s.sql table true = "SELECT " ++ ",".intercalate q.select ++ " FROM " ++ table ++
        (if q.values = [] then "" else " WHERE " ++ s.filter.text) ++
        (if q.order = [] then "" else " ORDER BY " ++ ",".intercalate (q.order.map SortKey.text)) ∧
      s.sql table false = s.sql table true ++ " LIMIT " ++ toString s.offset ++ "," ++ toString s.limit := by
  obtain ⟨page, hpage, rfl⟩ := Query.statement_eq_ok_iff.1 h
  have hlimit := Statement.limitText?_eq_some hpage
  subst hlimit
  -- The space in front of a keyword is put there when the clauses are joined.
  have hspace : ∀ keyword rest : String, " " ++ (keyword ++ rest) = (" " ++ keyword) ++ rest :=
    fun keyword rest => String.append_assoc.symm
  have hfrom : ∀ rest, " " ++ ("FROM " ++ rest) = " FROM " ++ rest := hspace "FROM "
  have hwhere : ∀ rest, " " ++ ("WHERE " ++ rest) = " WHERE " ++ rest := hspace "WHERE "
  have hby : ∀ rest, " " ++ ("ORDER BY " ++ rest) = " ORDER BY " ++ rest := hspace "ORDER BY "
  have hpage : ∀ rest, " " ++ ("LIMIT " ++ rest) = " LIMIT " ++ rest := hspace "LIMIT "
  unfold Statement.sql Query.filterClause Query.orderClause Query.selectClause
  by_cases hvalues : q.values = [] <;> by_cases horder : q.order = [] <;>
    simp [hvalues, horder, String.append_assoc, hfrom, hwhere, hby, hpage]

/-- The fields asked for are registered and distinct, and so are the fields that stand in for them. -/
theorem Registry.selected_registered {reg : Registry} (hreg : reg.names ≠ []) (tokens : List String) :
    reg.selected tokens ≠ [] ∧ (reg.selected tokens).Nodup ∧ ∀ name ∈ reg.selected tokens, name ∈ reg.names := by
  have hread : ∀ token e, fieldEntry token = some e → id e.item = e.field := by
    intro token e he
    cases he
    rfl
  have hdistinct : ((selectFirst reg.isSelectable fieldEntry tokens).map id).Nodup ∧
      ∀ name ∈ selectFirst reg.isSelectable fieldEntry tokens, reg.isSelectable (id name) = true :=
    selectFirst_distinct hread tokens
  rw [List.map_id] at hdistinct
  unfold selected
  rw [reg.contains_names]
  by_cases hnone : (selectFirst reg.isSelectable fieldEntry tokens).isEmpty = true
  · simp only [hnone, ↓reduceIte]
    exact ⟨hreg, reg.consistent.names_nodup, fun name hname => hname⟩
  · simp only [hnone, Bool.false_eq_true, ↓reduceIte]
    exact ⟨by simpa using hnone, hdistinct.1, fun name hname => isSelectable_iff.1 (hdistinct.2 name hname)⟩

theorem Registry.sortKeys_distinct (reg : Registry) (tokens : List String) :
    ((reg.sortKeys tokens).map (·.field)).Nodup ∧ ∀ k ∈ reg.sortKeys tokens, reg.isSortable k.field = true :=
  selectFirst_sortKey_distinct reg.isSortable tokens

theorem SortKey.text_eq (k : SortKey) : k.text = k.field ∨ k.text = k.field ++ " DESC" := by
  unfold text
  cases k.descending with
  | false => exact .inl rfl
  | true => exact .inr rfl

section

variable {reg : Registry} {table : String} {offset limit : Int}

private theorem StatementWord.madeOf_phrase {w : String} (h : w ∈ statementPhrases) :
    MadeOf (StatementWord reg table offset limit) w :=
  .of_word (.phrase h)

theorem SortKey.madeOf_text {k : SortKey} (h : k.field ∈ reg.names) :
    MadeOf (StatementWord reg table offset limit) k.text := by
  have hfield : MadeOf (StatementWord reg table offset limit) k.field := .of_word (.field h)
  rcases k.text_eq with htext | htext <;> rw [htext]
  · exact hfield
  · exact hfield.append (StatementWord.madeOf_phrase (by decide))

theorem Condition.madeOf_text {c : Condition} (h : c.field ∈ reg.names) :
    MadeOf (StatementWord reg table offset limit) c.text := by
  have hop : MadeOf (StatementWord reg table offset limit) c.op.symbol := .of_word (.operator c.op.symbol_mem)
  have hfield : MadeOf (StatementWord reg table offset limit) c.field := .of_word (.field h)
  exact ((((StatementWord.madeOf_phrase (by decide)).append hfield).append
    (StatementWord.madeOf_phrase (by decide))).append hop).append (StatementWord.madeOf_phrase (by decide))

theorem Join.madeOf_between (join : Join) :
    MadeOf (StatementWord reg table offset limit) (" " ++ join.word ++ " ") := by
  have hspace : MadeOf (StatementWord reg table offset limit) " " := StatementWord.madeOf_phrase (by decide)
  have hword : MadeOf (StatementWord reg table offset limit) join.word :=
    StatementWord.madeOf_phrase (by cases join <;> decide)
  exact (hspace.append hword).append hspace

theorem Group.madeOf_text {g : Group} (h : ∀ c ∈ g.conditions, c.field ∈ reg.names) :
    MadeOf (StatementWord reg table offset limit) g.text := by
  have hconditions : ∀ t ∈ g.conditions.map Condition.text, MadeOf (StatementWord reg table offset limit) t := by
    intro t ht
    obtain ⟨c, hc, rfl⟩ := List.mem_map.1 ht
    exact Condition.madeOf_text (h c hc)
  have hjoined := g.join.madeOf_between.intercalate hconditions
  unfold text
  split
  · exact hjoined
  · exact ((StatementWord.madeOf_phrase (by decide)).append hjoined).append
      (StatementWord.madeOf_phrase (by decide))

/-- A text between a phrase and others that is there on a condition only. -/
private theorem StatementWord.madeOf_clause {p : Prop} [Decidable p] {keyword text : String}
    (hkeyword : keyword ∈ statementPhrases) (htext : MadeOf (StatementWord reg table offset limit) text) :
    MadeOf (StatementWord reg table offset limit) (if p then "" else keyword ++ text) := by
  split
  · exact .empty
  · exact (StatementWord.madeOf_phrase hkeyword).append htext

end

theorem Query.madeOf_sql {reg : Registry} {q : Query} {s : Statement BoundValue} (h : q.statement = .ok s)
    (hselect : ∀ name ∈ q.select, name ∈ reg.names)
    (hgroups : ∀ g ∈ q.groups, ∀ c ∈ g.conditions, c.field ∈ reg.names)
    (horder : ∀ k ∈ q.order, k.field ∈ reg.names) (table : String) (withoutPage : Bool) :
    MadeOf (StatementWord reg table s.offset s.limit) (s.sql table withoutPage) := by
  obtain ⟨hsql, hpage⟩ := q.sql_eq h table
  have hcomma : MadeOf (StatementWord reg table s.offset s.limit) "," := StatementWord.madeOf_phrase (by decide)
  have hnames : MadeOf (StatementWord reg table s.offset s.limit) (",".intercalate q.select) :=
    hcomma.intercalate fun name hname => .of_word (.field (hselect name hname))
  have hfilter : MadeOf (StatementWord reg table s.offset s.limit) s.filter.text := by
    obtain ⟨page, -, rfl⟩ := Query.statement_eq_ok_iff.1 h
    refine q.join.madeOf_between.intercalate fun t ht => ?_
    obtain ⟨g, hg, rfl⟩ := List.mem_map.1 ht
    exact g.madeOf_text (hgroups g hg)
  have hkeys : MadeOf (StatementWord reg table s.offset s.limit) (",".intercalate (q.order.map SortKey.text)) := by
    refine hcomma.intercalate fun t ht => ?_
    obtain ⟨k, hk, rfl⟩ := List.mem_map.1 ht
    exact k.madeOf_text (horder k hk)
  have hphrase : ∀ w ∈ statementPhrases, MadeOf (StatementWord reg table s.offset s.limit) w :=
    fun w hw => StatementWord.madeOf_phrase hw
  have hwithout : MadeOf (StatementWord reg table s.offset s.limit) (s.sql table true) := by
    have hselected := (hphrase "SELECT " (by decide)).append hnames
    have hfrom := (hselected.append (hphrase " FROM " (by decide))).append (.of_word .table)
    rw [hsql]
    exact (hfrom.append (StatementWord.madeOf_clause (by decide) hfilter)).append
      (StatementWord.madeOf_clause (by decide) hkeys)
  cases withoutPage with
  | true => exact hwithout
  | false =>
    have hlimit := hwithout.append (hphrase " LIMIT " (by decide))
    rw [hpage]
    exact ((hlimit.append (.of_word .offset)).append hcomma).append (.of_word .limit)

/-- Whatever is asked for, a statement has the fixed form, with registered names only. -/
theorem exists_statementForm {reg : Registry} (hreg : reg.names ≠ []) {limits : Limits} {params : Params}
    {s : Statement BoundValue} (hs : compile reg limits params = .ok s) :
    ∃ t names groups keys, params.HaveTexts t ∧ StatementForm reg (t.comparisons reg) s names groups keys := by
  obtain ⟨t, ht, -, hq⟩ := exists_texts_of_compile hs
  let q := t.query reg limits params
  obtain ⟨hnames, hnodup, hregistered⟩ := Registry.selected_registered hreg (tokensOf t.fields)
  obtain ⟨hkeys, hsortable⟩ := reg.sortKeys_distinct (tokensOf t.order)
  have hconditions : ∀ g ∈ q.groups, ∀ c ∈ g.conditions, reg.isFilterable c.field = true := by
    intro g hg c hc
    have hmem : c ∈ (t.request.filter reg).conditions := List.mem_flatMap.2 ⟨g, hg, hc⟩
    rw [t.conditions_request reg] at hmem
    obtain ⟨d, hd, rfl⟩ := List.mem_map.1 hmem
    rw [Comparison.bind_condition_field]
    exact t.isFilterable_of_mem_comparisons reg hd
  refine ⟨t, q.select, q.groups, q.order, ht, ?_⟩
  constructor
  case sql_withoutPage =>
    intro table
    -- Each accepted comparison has bound a value.
    have hvalues : q.values = [] ↔ t.comparisons reg = [] := by
      show (t.request.filter reg).values = [] ↔ _
      rw [t.values_request reg, List.map_eq_nil_iff]
    rw [(q.sql_eq hq table).1]
    simp only [hvalues]
  case sql_withPage => exact fun table => (q.sql_eq hq table).2
  case names_ne_nil => exact hnames
  case names_nodup => exact hnodup
  case names_registered => exact hregistered
  case keys_nodup => exact hkeys
  case keys_sortable => exact hsortable
  case keys_text => exact fun k _ => k.text_eq
  case filter_text =>
    obtain ⟨page, -, rfl⟩ := Query.statement_eq_ok_iff.1 hq
    rfl
  case conditions_fields =>
    show (t.request.filter reg).conditions.map (·.field) = _
    rw [t.conditions_request reg, List.map_map]
    exact List.map_congr_left fun c _ => c.bind_condition_field reg
  case conditions_filterable => exact hconditions
  case conditions_text => exact fun g _ c _ => ⟨c.op.symbol, c.op.symbol_mem, rfl⟩
  case words =>
    exact q.madeOf_sql hq hregistered (fun g hg c hc => Registry.mem_names_of_isFilterable (hconditions g hg c hc))
      fun k hk => Registry.mem_names_of_isSortable (hsortable k hk)

/-- A field that is not known, one asked for twice and one that may not be ordered by leave no trace. -/
theorem exists_statementForm_people :
    people.names ≠ [] ∧ ∃ s, compile people ⟨20, 20⟩ [("fields", .text "age,password,age,name"),
        ("whereAnd", .list [.text "age >= 21,password = x"]), ("orderBy", .text "-age,id,age")] = .ok s ∧
      s.sql "people" false = "SELECT age,name FROM people WHERE (age >= ?) ORDER BY age DESC LIMIT 0,20" ∧
      ∃ (t : RequestTexts) (names : List String) (groups : List Group) (keys : List SortKey),
        StatementForm people (t.comparisons people) s names groups keys := by
  let params : Params := [("fields", .text "age,password,age,name"),
    ("whereAnd", .list [.text "age >= 21,password = x"]), ("orderBy", .text "-age,id,age")]
  have hnames : people.names ≠ [] := by decide +kernel
  obtain ⟨s, hs⟩ := exists_statement_of_isOk (show (compile people ⟨20, 20⟩ params).isOk = true by decide +kernel)
  obtain ⟨t, names, groups, keys, -, hform⟩ := exists_statementForm hnames hs
  have hsql : (compile people ⟨20, 20⟩ params).toOption.map (·.sql "people" false) =
      some "SELECT age,name FROM people WHERE (age >= ?) ORDER BY age DESC LIMIT 0,20" := by decide +kernel
  rw [hs] at hsql
  exact ⟨hnames, s, hs, Option.some.inj hsql, t, names, groups, keys, hform⟩

end ParamQuery
