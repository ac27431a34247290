import Mathlib.Data.List.Forall2
import ParamQuery.Proofs.ComparisonSyntax
import ParamQuery.Proofs.Success
import ParamQuery.Proofs.Tokens

/-!
# The text of a statement does not depend on values

Two requests whose comparisons differ in values only, where `NULL` counts as no value, are compiled to statements
that differ in their bound values only: the relation passes from tokens to conditions (`condition_eq`), from there
to groups (`filterMap_group?_eq`), and the rest of a statement is made of what both requests share.
-/

namespace ParamQuery

/-- The same token, or the same field and operator with another value, which is `NULL` in both or in none. -/
inductive SameButValue : String → String → Prop
  | same (token : String) : SameButValue token token
  | value {field value value' : String} (op : Operator) (hfield : OperatorFree field.toList)
      (hvalue : OperatorFree value.toList) (hvalue' : OperatorFree value'.toList)
      (hnull : isNullWord (Text.trim value) = isNullWord (Text.trim value')) :
      SameButValue (field ++ op.symbol ++ value) (field ++ op.symbol ++ value')

/-- Texts whose tokens are the same but for values. -/
def SameTokens (s s' : String) : Prop :=
  List.Forall₂ SameButValue (Text.splitAtCommas s) (Text.splitAtCommas s')

/-- The same item, or texts that are the same but for values. -/
inductive SameItem : RawValue → RawValue → Prop
  | same (item : RawValue) : SameItem item item
  | text {s s' : String} (h : SameTokens s s') : SameItem (.text s) (.text s')

/-- Values of a filter parameter of the same shape, with the same items but for values. -/
inductive SameShape : RawValue → RawValue → Prop
  | item {value value' : RawValue} (h : SameItem value value') : SameShape value value'
  | list {items items' : List RawValue} (h : List.Forall₂ SameItem items items') :
      SameShape (.list items) (.list items')
  | tuple {items items' : List RawValue} (h : List.Forall₂ SameItem items items') :
      SameShape (.tuple items) (.tuple items')

def filterNames : List String :=
  ["whereAnd", "where", "whereOr"]

/-- Requests that are the same but for the values in their comparisons. -/
def SameRequest (params params' : Params) : Prop :=
  (∀ name ∉ filterNames, params.get name = params'.get name) ∧
    ∀ name ∈ filterNames, SameShape (params.get name) (params'.get name)

theorem SameTokens.refl (s : String) : SameTokens s s :=
  List.forall₂_same.2 fun token _ => .same token

theorem SameItem.text_tokens {item item' : RawValue} (h : SameItem item item') {t t' : String}
    (ht : item.text? = .ok t) (ht' : item'.text? = .ok t') : SameTokens t t' := by
  cases h with
  | same =>
    rw [ht] at ht'
    cases ht'
    exact .refl t
  | text htokens =>
    cases ht
    cases ht'
    exact htokens

private theorem mapM_text?_same {items items' : List RawValue} (h : List.Forall₂ SameItem items items')
    {ts ts' : List String} (ht : items.mapM RawValue.text? = .ok ts) (ht' : items'.mapM RawValue.text? = .ok ts') :
    List.Forall₂ SameTokens ts ts' := by
  rw [mapM_eq_ok_iff] at ht ht'
  induction h generalizing ts ts' with
  | nil =>
    cases ht
    cases ht'
    exact .nil
  | cons hitem hitems ih =>
    cases ht with
    | cons hb hbs =>
    cases ht' with
    | cons hb' hbs' => exact .cons (hitem.text_tokens hb hb') (ih hbs hbs')

/-- Parameters of the same shape have texts that are the same but for values. -/
theorem SameShape.texts {value value' : RawValue} (h : SameShape value value') {ts ts' : List String}
    (ht : value.texts = .ok ts) (ht' : value'.texts = .ok ts') : List.Forall₂ SameTokens ts ts' := by
  cases h with
  | item hitem =>
    cases hitem with
    | same =>
      rw [ht] at ht'
      cases ht'
      exact List.forall₂_same.2 fun s _ => .refl s
    | text htokens =>
      cases ht
      cases ht'
      exact .cons htokens .nil
  | list hitems => exact mapM_text?_same hitems ht ht'
  | tuple hitems => exact mapM_text?_same hitems ht ht'

/-- The condition of a comparison depends on its value only so far as that is `NULL`. -/
theorem Comparison.condition_eq (reg : Registry) {c c' : Comparison} (hfield : c.field = c'.field)
    (hop : c.op = c'.op) (hnull : isNullWord c.value = isNullWord c'.value) :
    (c.bind reg).condition = (c'.bind reg).condition := by
  have hvalue : ∀ d : Comparison, ∀ type, (d.bindValue type).condition = ⟨d.field, .compare d.op⟩ := by
    intro d type
    cases type with
    | none => rfl
    | some type => rfl
  unfold bind
  rw [← hnull]
  cases isNullWord c.value with
  | false => simp only [Bool.false_eq_true, ↓reduceIte, hvalue, hfield, hop]
  | true => simp only [↓reduceIte, bindNull, hfield, hop]

theorem SameButValue.condition_eq (reg : Registry) {token token' : String} (h : SameButValue token token') :
    (acceptedComparison? reg token).map (fun c => (c.bind reg).condition) =
      (acceptedComparison? reg token').map fun c => (c.bind reg).condition := by
  cases h with
  | same => rfl
  | @value field value value' op hfield hvalue hvalue' hnull =>
    rw [acceptedComparison?_written reg op hfield hvalue, acceptedComparison?_written reg op hfield hvalue']
    split
    · exact congrArg some (Comparison.condition_eq reg rfl rfl hnull)
    · rfl

private theorem filterMap_condition_eq (reg : Registry) {tokens tokens' : List String}
    (h : List.Forall₂ SameButValue tokens tokens') :
    (tokens.filterMap fun token => (acceptedComparison? reg token).map fun c => (c.bind reg).condition) =
      tokens'.filterMap fun token => (acceptedComparison? reg token).map fun c => (c.bind reg).condition := by
  induction h with
  | nil => rfl
  | cons htoken _ ih => rw [List.filterMap_cons, List.filterMap_cons, htoken.condition_eq reg, ih]

/-- Texts that are the same but for values give the same conditions. -/
theorem SameTokens.conditions_eq (reg : Registry) {s s' : String} (h : SameTokens s s') :
    (acceptedComparisons reg s).map (fun c => (c.bind reg).condition) =
      (acceptedComparisons reg s').map fun c => (c.bind reg).condition := by
  unfold acceptedComparisons
  rw [List.map_filterMap, List.map_filterMap]
  exact filterMap_condition_eq reg h

theorem filterMap_group?_eq (reg : Registry) (join : Join) {ts ts' : List String}
    (h : List.Forall₂ SameTokens ts ts') :
    (acceptedGroups reg join ts).filterMap (·.group? reg) =
      (acceptedGroups reg join ts').filterMap (·.group? reg) := by
  induction h with
  | nil => rfl
  | cons htokens _ ih =>
    unfold acceptedGroups at ih ⊢
    rw [List.map_cons, List.map_cons, List.filterMap_cons, List.filterMap_cons, ih]
    simp only [AcceptedGroup.group?, AcceptedGroup.conditions, htokens.conditions_eq reg]

/-- Groups of a filter parameter that are the same but for values make the same groups of conditions. -/
private theorem SameRequest.filterMap_group?_eq {params params' : Params} (h : SameRequest params params')
    {name : String} (hname : name ∈ filterNames) {groups groups' : List String}
    (hg : (params.get name).groups = .ok groups) (hg' : (params'.get name).groups = .ok groups')
    (reg : Registry) (join : Join) :
    (acceptedGroups reg join groups).filterMap (·.group? reg) =
      (acceptedGroups reg join groups').filterMap (·.group? reg) := by
  obtain ⟨ts, ht, rfl⟩ := RawValue.groups_eq_ok hg
  obtain ⟨ts', ht', rfl⟩ := RawValue.groups_eq_ok hg'
  rw [filterMap_group?_trimmed, filterMap_group?_trimmed]
  exact ParamQuery.filterMap_group?_eq reg join ((h.2 name hname).texts ht ht')

/-- Requests that are the same but for values select the same, and their filters have the same groups. -/
theorem SameRequest.request_eq {params params' : Params} (h : SameRequest params params') {req req' : Request}
    (hreq : Request.ofParams params = .ok req) (hreq' : Request.ofParams params' = .ok req') (reg : Registry) :
    req.fields = req'.fields ∧ req.join = req'.join ∧ (req.filter reg).groups = (req'.filter reg).groups := by
  obtain ⟨fields, whereAnd, plain, whereOr, join, hfields, hand, hplain, hor, hjoin, rfl⟩ :=
    Request.ofParams_eq_ok_iff.1 hreq
  obtain ⟨fields', whereAnd', plain', whereOr', join', hfields', hand', hplain', hor', hjoin', rfl⟩ :=
    Request.ofParams_eq_ok_iff.1 hreq'
  rw [h.1 "fields" (by decide), hfields'] at hfields
  rw [h.1 "whereJoin" (by decide), hjoin'] at hjoin
  cases hfields
  cases hjoin
  refine ⟨rfl, rfl, ?_⟩
  have h₁ := h.filterMap_group?_eq (by decide) hand hand' reg .and
  have h₂ := h.filterMap_group?_eq (by decide) hplain hplain' reg .and
  have h₃ := h.filterMap_group?_eq (by decide) hor hor' reg .or
  rw [Request.filter_eq, Request.filter_eq, Request.accepted_calls, Request.accepted_calls]
  simp only [Filter.addAccepted, acceptedGroups_append, List.filterMap_append, h₁, h₂, h₃]

/-- The statements of two requests that are the same but for the values in their comparisons differ in nothing but
the values bound to their placeholders, of which there are equally many. -/
theorem statement_eq_of_sameRequest {reg : Registry} {limits : Limits} {params params' : Params}
    {s s' : Statement BoundValue} (h : SameRequest params params') (hs : compile reg limits params = .ok s)
    (hs' : compile reg limits params' = .ok s') :
    s' = { s with values := s'.values } ∧ s'.values.length = s.values.length ∧
      ∀ table withoutPage, s'.sql table withoutPage = s.sql table withoutPage := by
  obtain ⟨req, order, hreq, horder, -, -, hq⟩ := compile_eq_ok_iff.1 hs
  obtain ⟨req', order', hreq', horder', -, -, hq'⟩ := compile_eq_ok_iff.1 hs'
  obtain ⟨hfields, hjoin, hgroups⟩ := h.request_eq hreq hreq' reg
  rw [h.1 "orderBy" (by decide), horder'] at horder
  obtain rfl : order = order' := (Except.ok.inj horder).symm
  have hquery : req'.query reg limits params' order =
      { req.query reg limits params order with values := (req'.filter reg).values } := by
    simp only [Request.query, hfields, hjoin, hgroups, h.1 "offset" (by decide),
      h.1 "limit" (by decide)]
  have hlength : (req'.filter reg).values.length = (req.filter reg).values.length := by
    rw [Request.filter_eq, Request.filter_eq, Filter.length_values_addAccepted,
      Filter.length_values_addAccepted, ← Request.filter_eq, ← Request.filter_eq, Filter.conditions,
      Filter.conditions, hgroups]
  -- The clause of the groups is there for the one if it is there for the other.
  have hisEmpty : (req'.filter reg).values.isEmpty = (req.filter reg).values.isEmpty := by
    rw [Bool.eq_iff_iff, List.isEmpty_iff_length_eq_zero, List.isEmpty_iff_length_eq_zero, hlength]
  have hclause : (req'.query reg limits params' order).filterClause =
      (req.query reg limits params order).filterClause := by
    rw [hquery]
    unfold Query.filterClause
    rw [show (req.query reg limits params order).values.isEmpty = _ from hisEmpty.symm]
  obtain ⟨page, hpage, rfl⟩ := Query.statement_eq_ok_iff.1 hq
  obtain ⟨page', hpage', rfl⟩ := Query.statement_eq_ok_iff.1 hq'
  rw [hclause]
  rw [hquery] at hpage' ⊢
  obtain rfl : page = page' := Option.some.inj (hpage.symm.trans hpage')
  exact ⟨rfl, hlength, fun table withoutPage => rfl⟩

/-- A value that looks like a condition or a placeholder is bound like any other. -/
theorem statement_eq_of_sameRequest_people :
    ∃ s s', compile people ⟨20, 20⟩ [("whereAnd", .list [.text "age >= 21,name = x"])] = .ok s ∧
      compile people ⟨20, 20⟩ [("whereAnd", .list [.text "age >=4.5,name = ?) OR (1"])] = .ok s' ∧
      s.values = [.int 21, .text "x"] ∧ s'.values = [.int 4, .text "?) OR (1"] ∧
      s' = { s with values := s'.values } := by
  let params : Params := [("whereAnd", .list [.text "age >= 21,name = x"])]
  let params' : Params := [("whereAnd", .list [.text "age >=4.5,name = ?) OR (1"])]
  have htokens : Text.splitAtCommas "age >= 21,name = x" =
      ["age " ++ Operator.ge.symbol ++ " 21", "name " ++ Operator.eq.symbol ++ " x"] := by decide +kernel
  have htokens' : Text.splitAtCommas "age >=4.5,name = ?) OR (1" =
      ["age " ++ Operator.ge.symbol ++ "4.5", "name " ++ Operator.eq.symbol ++ " ?) OR (1"] := by decide +kernel
  have hsame : SameTokens "age >= 21,name = x" "age >=4.5,name = ?) OR (1" := by
    unfold SameTokens
    rw [htokens, htokens']
    refine .cons (.value _ ?_ ?_ ?_ ?_) (.cons (.value _ ?_ ?_ ?_ ?_) .nil) <;> decide +kernel
  have hrequest : SameRequest params params' := by
    constructor
    · intro name hname
      have hne : (name == "whereAnd") = false := by
        simp only [filterNames, List.mem_cons, not_or] at hname
        simp [hname.1]
      simp [params, params', Params.get, List.lookup_cons, hne]
    · intro name hname
      simp only [filterNames, List.mem_cons, List.not_mem_nil, or_false] at hname
      rcases hname with rfl | rfl | rfl
      · exact .list (.cons (.text hsame) .nil)
      · exact .item (.same .null)
      · exact .item (.same .null)
  have hok : (compile people ⟨20, 20⟩ params).isOk = true := by decide +kernel
  have hok' : (compile people ⟨20, 20⟩ params').isOk = true := by decide +kernel
  obtain ⟨s, hs⟩ := exists_statement_of_isOk hok
  obtain ⟨s', hs'⟩ := exists_statement_of_isOk hok'
  have hvalues : (compile people ⟨20, 20⟩ params).toOption.map (·.values) = some [.int 21, .text "x"] := by
    decide +kernel
  have hvalues' : (compile people ⟨20, 20⟩ params').toOption.map (·.values) = some [.int 4, .text "?) OR (1"] := by
    decide +kernel
  rw [hs] at hvalues
  rw [hs'] at hvalues'
  exact ⟨s, s', hs, hs', Option.some.inj hvalues, Option.some.inj hvalues',
    (statement_eq_of_sameRequest hrequest hs hs').1⟩

end ParamQuery
