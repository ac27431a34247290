import ParamQuery.Proofs.Success
import ParamQuery.Proofs.Tokens

/-!
# The texts of a request

Six parameters are looked at as texts, and one of another shape ends the work (`Params.texts_eq_ok_iff`).  What
becomes of a request depends on these texts and on its page only (`compile_eq`): it is the statement of its query
if there is nothing wrong with it, and the list of its problems otherwise.
-/

namespace ParamQuery

/-- The value is missing, a text, or a sequence of texts. -/
inductive HasTexts : RawValue → List String → Prop
  | null : HasTexts .null []
  | text (s : String) : HasTexts (.text s) [s]
  | list (texts : List String) : HasTexts (.list (texts.map .text)) texts
  | tuple (texts : List String) : HasTexts (.tuple (texts.map .text)) texts

theorem RawValue.text?_eq_ok_iff {value : RawValue} {s : String} : value.text? = .ok s ↔ value = .text s := by
  cases value <;> simp [text?]

theorem mapM_text?_eq_ok_iff {items : List RawValue} {texts : List String} :
    items.mapM RawValue.text? = .ok texts ↔ items = texts.map .text := by
  have hsame : List.Forall₂ (fun item s => RawValue.text? item = .ok s) items texts ↔
      List.Forall₂ (fun item s => item = RawValue.text s) items texts := by
    simp only [RawValue.text?_eq_ok_iff]
  rw [mapM_eq_ok_iff, hsame]
  induction texts generalizing items with
  | nil => simp
  | cons s texts ih => simp [List.forall₂_cons_right_iff, RawValue.text?_eq_ok_iff, ih]

theorem RawValue.texts_eq_ok_iff {value : RawValue} {texts : List String} :
    value.texts = .ok texts ↔ HasTexts value texts := by
  constructor
  · intro h
    cases value with
    | null =>
      cases h
      exact .null
    | text s =>
      cases h
      exact .text s
    | list items =>
      obtain rfl := mapM_text?_eq_ok_iff.1 h
      exact .list texts
    | tuple items =>
      obtain rfl := mapM_text?_eq_ok_iff.1 h
      exact .tuple texts
    | bool b => cases h
    | int n => cases h
    | float x => cases h
    | map entries => cases h
    | bytes octets => cases h
    | other className => cases h
  · intro h
    cases h with
    | null => rfl
    | text s => rfl
    | list => exact mapM_text?_eq_ok_iff.2 rfl
    | tuple => exact mapM_text?_eq_ok_iff.2 rfl

/-- The texts of the parameters that are looked at as texts. -/
structure RequestTexts where
  fields : List String
  whereAnd : List String
  plain : List String
  whereOr : List String
  join : List String
  order : List String
  deriving DecidableEq, Repr

/-- The texts of a request; the first parameter of another shape is reported. -/
def Params.texts (params : Params) : Except Fault RequestTexts := do
  let fields ← (params.get "fields").texts
  let whereAnd ← (params.get "whereAnd").texts
  let plain ← (params.get "where").texts
  let whereOr ← (params.get "whereOr").texts
  let join ← (params.get "whereJoin").texts
  let order ← (params.get "orderBy").texts
  return ⟨fields, whereAnd, plain, whereOr, join, order⟩

/-- Parameters of an accepted shape, and their texts. -/
structure Params.HaveTexts (params : Params) (t : RequestTexts) : Prop where
  fields : HasTexts (params.get "fields") t.fields
  whereAnd : HasTexts (params.get "whereAnd") t.whereAnd
  plain : HasTexts (params.get "where") t.plain
  whereOr : HasTexts (params.get "whereOr") t.whereOr
  join : HasTexts (params.get "whereJoin") t.join
  order : HasTexts (params.get "orderBy") t.order

theorem Params.texts_eq_ok_iff {params : Params} {t : RequestTexts} : params.texts = .ok t ↔ params.HaveTexts t := by
  unfold Params.texts
  simp only [bind_eq_ok_iff, RawValue.texts_eq_ok_iff]
  constructor
  · rintro ⟨fields, hfields, whereAnd, hand, plain, hplain, whereOr, hor, join, hjoin, order, horder, h⟩
    cases h
    exact ⟨hfields, hand, hplain, hor, hjoin, horder⟩
  · intro h
    exact ⟨_, h.fields, _, h.whereAnd, _, h.plain, _, h.whereOr, _, h.join, _, h.order, rfl⟩

/-- The trimmed tokens of texts. -/
def tokensOf (texts : List String) : List String :=
  trimmed (texts.flatMap Text.splitAtCommas)

theorem RawValue.tokens_eq_ok_iff {value : RawValue} {tokens : List String} :
    value.tokens = .ok tokens ↔ ∃ texts, HasTexts value texts ∧ tokens = tokensOf texts := by
  simp only [← RawValue.texts_eq_ok_iff, RawValue.tokens, tokensOf]
  cases value.texts <;> simp [Except.map, eq_comm]

theorem RawValue.groups_eq_ok_iff {value : RawValue} {groups : List String} :
    value.groups = .ok groups ↔ ∃ texts, HasTexts value texts ∧ groups = trimmed texts := by
  simp only [← RawValue.texts_eq_ok_iff, RawValue.groups]
  cases value.texts <;> simp [Except.map, eq_comm]

theorem trimmed_append (as bs : List String) : trimmed (as ++ bs) = trimmed as ++ trimmed bs := by
  simp [trimmed]

namespace RequestTexts

variable (reg : Registry) (t : RequestTexts)

def request : Request where
  fields := tokensOf t.fields
  conjunctions := trimmed (t.whereAnd ++ t.plain)
  disjunctions := trimmed t.whereOr
  join := (readJoin (tokensOf t.join)).1
  joinProblem := (readJoin (tokensOf t.join)).2

/-- The query of the request for the page that the parameters ask for. -/
def query (limits : Limits) (params : Params) : Query :=
  t.request.query reg limits params (tokensOf t.order)

/-- What is wrong with the request. -/
def problems : List Problem :=
  t.request.joinProblem.toList ++ (t.request.filter reg).problems

/-- The tokens of the groups, those of `whereOr` last. -/
def filterTokens : List String :=
  (t.whereAnd ++ t.plain ++ t.whereOr).flatMap Text.splitAtCommas

/-- The accepted comparisons, in order. -/
def comparisons : List Comparison :=
  t.filterTokens.filterMap (acceptedComparison? reg)

/-- The accepted comparisons of each group. -/
def accepted : List AcceptedGroup :=
  acceptedGroups reg .and (t.whereAnd ++ t.plain) ++ acceptedGroups reg .or t.whereOr

theorem flatMap_comparisons_accepted : (t.accepted reg).flatMap (·.comparisons) = t.comparisons reg := by
  have hgroups : ∀ join texts, (acceptedGroups reg join texts).flatMap (·.comparisons) =
      (texts.flatMap Text.splitAtCommas).filterMap (acceptedComparison? reg) := by
    intro join texts
    rw [List.filterMap_flatMap, acceptedGroups, List.flatMap_map]
    rfl
  rw [accepted, List.flatMap_append, hgroups, hgroups, ← List.filterMap_append, ← List.flatMap_append]
  rfl

theorem isFilterable_of_mem_comparisons {c : Comparison} (h : c ∈ t.comparisons reg) :
    reg.isFilterable c.field = true := by
  obtain ⟨token, -, htoken⟩ := List.mem_filterMap.1 h
  exact (acceptedComparison?_eq_some.1 htoken).2

theorem filter_request : t.request.filter reg = Filter.empty.addAccepted reg (t.accepted reg) :=
  Request.filter_of_trimmed rfl rfl reg

theorem groups_request : (t.request.filter reg).groups = (t.accepted reg).filterMap (·.group? reg) := by
  rw [filter_request]
  rfl

/-- The conditions of the groups are those of the accepted comparisons. -/
theorem conditions_request :
    (t.request.filter reg).conditions = (t.comparisons reg).map fun c => (c.bind reg).condition := by
  rw [Filter.conditions, groups_request, flatMap_conditions_filterMap_group?, ← flatMap_comparisons_accepted,
    List.map_flatMap]
  rfl

theorem values_request : (t.request.filter reg).values = (t.comparisons reg).map fun c => (c.bind reg).value := by
  rw [filter_request, ← flatMap_comparisons_accepted, List.map_flatMap]
  rfl

theorem problems_request :
    (t.request.filter reg).problems = (t.comparisons reg).flatMap fun c => (c.bind reg).problems := by
  rw [filter_request, ← flatMap_comparisons_accepted, List.flatMap_assoc]
  rfl

end RequestTexts

theorem Request.ofParams_of_texts {params : Params} {t : RequestTexts} (h : params.texts = .ok t) :
    ofParams params = .ok t.request ∧ (params.get "orderBy").tokens = .ok (tokensOf t.order) := by
  unfold Params.texts at h
  simp only [bind_eq_ok_iff] at h
  obtain ⟨fields, hfields, whereAnd, hand, plain, hplain, whereOr, hor, join, hjoin, order, horder, h⟩ := h
  cases h
  unfold ofParams RawValue.tokens RawValue.groups
  rw [hfields, hand, hplain, hor, hjoin, horder]
  simp only [Except.map, bind, Except.bind, pure, Except.pure, RequestTexts.request, trimmed_append, tokensOf,
    and_self]

/-- The order is looked at after the rest of a request has been read. -/
theorem Request.ofParams_of_error {params : Params} {fault : Fault} (h : params.texts = .error fault) :
    ofParams params = .error fault ∨
      ∃ req, ofParams params = .ok req ∧ (params.get "orderBy").tokens = .error fault := by
  unfold Params.texts at h
  simp only [bind_eq_error_iff] at h
  unfold ofParams RawValue.tokens RawValue.groups
  obtain hfields | ⟨fields, hfields, hand | ⟨whereAnd, hand, hplain | ⟨plain, hplain, hor | ⟨whereOr, hor,
    hjoin | ⟨join, hjoin, horder | ⟨order, horder, h⟩⟩⟩⟩⟩⟩ := h
  · exact .inl (by rw [hfields]; rfl)
  · exact .inl (by rw [hfields, hand]; rfl)
  · exact .inl (by rw [hfields, hand, hplain]; rfl)
  · exact .inl (by rw [hfields, hand, hplain, hor]; rfl)
  · exact .inl (by rw [hfields, hand, hplain, hor, hjoin]; rfl)
  · exact .inr (by rw [hfields, hand, hplain, hor, hjoin, horder]; exact ⟨_, rfl, rfl⟩)
  · cases h

/-- What is noted of a request that has a parameter of the wrong shape: the problem of its join, if only the order is
to blame. -/
def Params.earlyProblems (params : Params) : List Problem :=
  match Request.ofParams params with
  | .error _ => []
  | .ok req => req.joinProblem.toList

namespace Compiler

theorem compile_of_texts {params : Params} {t : RequestTexts} (h : params.texts = .ok t) (c : Compiler) :
    c.compile params = (c.note (t.problems c.registry),
      if c.problems ++ t.problems c.registry = [] then (t.query c.registry c.limits params).statement
      else .error (.invalidQuery (c.problems ++ t.problems c.registry))) := by
  obtain ⟨hrequest, horder⟩ := Request.ofParams_of_texts h
  unfold compile
  rw [hrequest, horder, apply_ite (Prod.mk _)]
  simp only [note, List.append_assoc, List.isEmpty_iff, RequestTexts.problems, RequestTexts.query, Request.query]
  congr 1

theorem compile_of_error {params : Params} {fault : Fault} (h : params.texts = .error fault) (c : Compiler) :
    c.compile params = (c.note params.earlyProblems, .error fault) := by
  unfold Params.earlyProblems compile
  rcases Request.ofParams_of_error h with hrequest | ⟨req, hrequest, horder⟩
  · rw [hrequest]
    simp only [note, List.append_nil]
  · rw [hrequest, horder]

end Compiler

theorem compile_eq (reg : Registry) (limits : Limits) (params : Params) :
    compile reg limits params = params.texts >>= fun t =>
      if t.problems reg = [] then (t.query reg limits params).statement
      else .error (.invalidQuery (t.problems reg)) := by
  unfold compile
  cases h : params.texts with
  | error fault => rw [Compiler.compile_of_error h]; rfl
  | ok t => rw [Compiler.compile_of_texts h]; rfl

theorem Params.HaveTexts.compile_eq {params : Params} {t : RequestTexts} (h : params.HaveTexts t) (reg : Registry)
    (limits : Limits) :
    compile reg limits params =
      if t.problems reg = [] then (t.query reg limits params).statement
      else .error (.invalidQuery (t.problems reg)) := by
  rw [ParamQuery.compile_eq, Params.texts_eq_ok_iff.2 h]
  rfl

/-- A statement comes from parameters of an accepted shape with which nothing is wrong. -/
theorem exists_texts_of_compile {reg : Registry} {limits : Limits} {params : Params} {s : Statement BoundValue}
    (h : compile reg limits params = .ok s) :
    ∃ t, params.HaveTexts t ∧ t.problems reg = [] ∧ (t.query reg limits params).statement = .ok s := by
  rw [ParamQuery.compile_eq, bind_eq_ok_iff] at h
  obtain ⟨t, ht, h⟩ := h
  split at h
  · next hproblems => exact ⟨t, Params.texts_eq_ok_iff.1 ht, hproblems, h⟩
  · cases h

end ParamQuery
