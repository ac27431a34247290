import ParamQuery.Proofs.FirstEntries
import ParamQuery.Proofs.RequestTexts
import ParamQuery.Proofs.ValueIndependence

/-!
# Tokens on hidden fields

A token may be blank, unreadable, or on a field that may not be used for what its parameter says.  A request comes to
the same without all these tokens (`compile_withoutHidden`): each of the readers passes over them, the one that looks
for repetitions as well (`selectFirst_filter`), and a group without tokens leaves nothing.
-/

namespace ParamQuery

/-- The token of the parameter is not blank, and the registry lets its field be used there. -/
def Registry.sees (reg : Registry) (name token : String) : Bool :=
  Text.trim token ≠ "" &&
    if name = "fields" then reg.isSelectable (Text.trim token)
    else if name ∈ filterNames then (Comparison.parse? (Text.trim token)).any fun c => reg.isFilterable c.field
    else if name = "orderBy" then reg.isSortable (SortKey.ofToken (Text.trim token)).field
    else true

/-- The text without the tokens between its commas that are not kept. -/
def keepTokens (keep : String → Bool) (s : String) : String :=
  ",".intercalate ((Text.splitAtCommas s).filter keep)

namespace RawValue

def mapText (f : String → String) : RawValue → RawValue
  | .text s => .text (f s)
  | value => value

/-- The value with the texts of a parameter changed. -/
def mapTexts (f : String → String) : RawValue → RawValue
  | .list items => .list (items.map (mapText f))
  | .tuple items => .tuple (items.map (mapText f))
  | value => value.mapText f

theorem mapM_text?_mapText (f : String → String) (items : List RawValue) :
    (items.map (mapText f)).mapM text? = (items.mapM text?).map (List.map f) := by
  induction items with
  | nil => rfl
  | cons item items ih =>
    have hitem : (item.mapText f).text? = item.text?.map f := by cases item <;> rfl
    rw [List.map_cons, List.mapM_cons, List.mapM_cons, ih, hitem]
    cases item.text? with
    | error fault => rfl
    | ok s =>
      cases items.mapM text? with
      | error fault => rfl
      | ok texts => rfl

theorem texts_mapTexts (f : String → String) (value : RawValue) :
    (value.mapTexts f).texts = value.texts.map (List.map f) := by
  cases value with
  | list items => exact mapM_text?_mapText f items
  | tuple items => exact mapM_text?_mapText f items
  | null => rfl
  | bool b => rfl
  | int n => rfl
  | float x => rfl
  | text s => rfl
  | map entries => rfl
  | bytes octets => rfl
  | other className => rfl

end RawValue

/-- The parameters whose texts are cut into tokens. -/
def tokenNames : List String :=
  ["fields", "whereAnd", "where", "whereOr", "whereJoin", "orderBy"]

/-- The parameters without the tokens that the registry does not see. -/
def Params.withoutHidden (reg : Registry) (params : Params) : Params :=
  params.map fun p => (p.1, if p.1 ∈ tokenNames then p.2.mapTexts (keepTokens (reg.sees p.1)) else p.2)

theorem Params.get_withoutHidden (reg : Registry) (params : Params) (name : String) :
    (params.withoutHidden reg).get name =
      if name ∈ tokenNames then (params.get name).mapTexts (keepTokens (reg.sees name)) else params.get name := by
  unfold Params.get withoutHidden
  induction params with
  | nil =>
    split <;> rfl
  | cons p params ih =>
    rw [List.map_cons, List.lookup_cons, List.lookup_cons]
    cases hname : name == p.1 with
    | true =>
      rw [beq_iff_eq.1 hname]
      rfl
    | false => exact ih

/-- What does not tell a blank token from none finds the tokens that are kept. -/
theorem apply_splitAtCommas_keepTokens {β : Type} {f : List String → β} (hblank : f [""] = f [])
    (keep : String → Bool) (s : String) :
    f (Text.splitAtCommas (keepTokens keep s)) = f ((Text.splitAtCommas s).filter keep) := by
  unfold keepTokens
  by_cases hnone : (Text.splitAtCommas s).filter keep = []
  · rw [hnone]
    exact hblank
  · rw [Text.splitAtCommas_intercalate hnone]
    exact fun token htoken => Text.comma_not_mem_of_mem_splitAtCommas (List.mem_filter.1 htoken).1

theorem trimmed_filter {keep : String → Bool} (htrim : ∀ token, keep (Text.trim token) = keep token)
    (texts : List String) : trimmed (texts.filter keep) = (trimmed texts).filter keep := by
  have hcomp : keep ∘ Text.trim = keep := funext htrim
  have hmap : (texts.filter keep).map Text.trim = (texts.map Text.trim).filter keep := by
    rw [List.filter_map, hcomp]
  unfold trimmed
  rw [hmap, List.filter_filter, List.filter_filter]
  simp only [Bool.and_comm]

theorem tokensOf_map_keepTokens {keep : String → Bool} (htrim : ∀ token, keep (Text.trim token) = keep token)
    (texts : List String) : tokensOf (texts.map (keepTokens keep)) = (tokensOf texts).filter keep := by
  have hflatMap : ∀ (texts : List String) (f : String → List String),
      trimmed (texts.flatMap f) = texts.flatMap fun s => trimmed (f s) := by
    intro texts f
    simp [trimmed, List.map_flatMap, List.filter_flatMap]
  have hkept : ∀ s, trimmed (Text.splitAtCommas (keepTokens keep s)) =
      trimmed ((Text.splitAtCommas s).filter keep) :=
    fun s => apply_splitAtCommas_keepTokens rfl keep s
  calc tokensOf (texts.map (keepTokens keep))
      = texts.flatMap fun s => trimmed (Text.splitAtCommas (keepTokens keep s)) := by
        rw [tokensOf, hflatMap, List.flatMap_map]
    _ = texts.flatMap fun s => (trimmed (Text.splitAtCommas s)).filter keep := by
        simp only [hkept, trimmed_filter htrim]
    _ = (tokensOf texts).filter keep := by
        rw [tokensOf, hflatMap, List.filter_flatMap]

theorem acceptedComparisons_keepTokens {reg : Registry} {keep : String → Bool}
    (hkeep : ∀ token, keep token = (acceptedComparison? reg token).isSome) (s : String) :
    acceptedComparisons reg (keepTokens keep s) = acceptedComparisons reg s := by
  have hkept : acceptedComparisons reg (keepTokens keep s) =
      ((Text.splitAtCommas s).filter keep).filterMap (acceptedComparison? reg) :=
    apply_splitAtCommas_keepTokens rfl keep s
  rw [hkept, List.filterMap_filter]
  apply List.filterMap_congr
  intro token _
  rw [hkeep]
  cases acceptedComparison? reg token <;> rfl

namespace Registry

variable (reg : Registry)

theorem sees_trim (name token : String) : reg.sees name (Text.trim token) = reg.sees name token := by
  unfold sees
  rw [Text.trim_trim]

theorem sees_fields : reg.sees "fields" = isAllowedToken reg.isSelectable fieldEntry := by
  funext token
  unfold sees isAllowedToken readToken?
  by_cases hblank : Text.trim token = ""
  · simp [hblank]
  · simp [hblank, fieldEntry]

theorem sees_orderBy : reg.sees "orderBy" = isAllowedToken reg.isSortable SortKey.entry := by
  have hfilter : "orderBy" ∉ filterNames := by decide
  funext token
  unfold sees isAllowedToken readToken?
  by_cases hblank : Text.trim token = ""
  · simp [hblank]
  · simp [hblank, hfilter, SortKey.entry]

theorem sees_filter {name : String} (hname : name ∈ filterNames) (token : String) :
    reg.sees name token = (acceptedComparison? reg token).isSome := by
  have hfields : name ≠ "fields" := by
    rintro rfl
    exact absurd hname (by decide)
  unfold sees acceptedComparison?
  by_cases hblank : Text.trim token = ""
  · rw [hblank]
    rfl
  · cases hparse : Comparison.parse? (Text.trim token) with
    | none => simp [hfields, hname]
    | some c => cases hc : reg.isFilterable c.field <;> simp [hblank, hfields, hname, hc, Option.filter]

/-- In the join every token is seen. -/
theorem filter_sees_tokensOf (texts : List String) :
    (tokensOf texts).filter (reg.sees "whereJoin") = tokensOf texts := by
  have hfilter : "whereJoin" ∉ filterNames := by decide
  rw [List.filter_eq_self]
  intro token htoken
  obtain ⟨hmem, hne⟩ := List.mem_filter.1 htoken
  obtain ⟨s, -, rfl⟩ := List.mem_map.1 hmem
  rw [sees_trim]
  unfold sees
  simpa [hfilter] using hne

theorem selected_filter_sees (tokens : List String) :
    reg.selected (tokens.filter (reg.sees "fields")) = reg.selected tokens := by
  unfold selected
  rw [sees_fields, reg.contains_names, selectFirst_filter]

theorem sortKeys_filter_sees (tokens : List String) :
    reg.sortKeys (tokens.filter (reg.sees "orderBy")) = reg.sortKeys tokens := by
  unfold sortKeys
  rw [sees_orderBy, selectFirst_filter]

end Registry

namespace RequestTexts

variable (reg : Registry) (t : RequestTexts)

/-- The texts without the tokens that the registry does not see. -/
def withoutHidden : RequestTexts where
  fields := t.fields.map (keepTokens (reg.sees "fields"))
  whereAnd := t.whereAnd.map (keepTokens (reg.sees "whereAnd"))
  plain := t.plain.map (keepTokens (reg.sees "where"))
  whereOr := t.whereOr.map (keepTokens (reg.sees "whereOr"))
  join := t.join.map (keepTokens (reg.sees "whereJoin"))
  order := t.order.map (keepTokens (reg.sees "orderBy"))

theorem accepted_withoutHidden : (t.withoutHidden reg).accepted reg = t.accepted reg := by
  have hgroups : ∀ name ∈ filterNames, ∀ join texts,
      acceptedGroups reg join (texts.map (keepTokens (reg.sees name))) = acceptedGroups reg join texts := by
    intro name hname join texts
    unfold acceptedGroups
    rw [List.map_map]
    apply List.map_congr_left
    intro s _
    simp only [Function.comp_apply, acceptedComparisons_keepTokens (reg.sees_filter hname)]
  have hand := hgroups "whereAnd" (by decide) .and t.whereAnd
  have hplain := hgroups "where" (by decide) .and t.plain
  have hor := hgroups "whereOr" (by decide) .or t.whereOr
  simp only [accepted, withoutHidden, acceptedGroups_append, hand, hplain, hor]

theorem filter_withoutHidden : (t.withoutHidden reg).request.filter reg = t.request.filter reg := by
  rw [filter_request, filter_request, accepted_withoutHidden]

theorem tokensOf_join_withoutHidden : tokensOf (t.withoutHidden reg).join = tokensOf t.join :=
  (tokensOf_map_keepTokens (reg.sees_trim _) t.join).trans (reg.filter_sees_tokensOf t.join)

theorem problems_withoutHidden : (t.withoutHidden reg).problems reg = t.problems reg := by
  unfold problems
  rw [filter_withoutHidden]
  simp only [request, tokensOf_join_withoutHidden]

/-- The query is the same, for the same page. -/
theorem query_withoutHidden (limits : Limits) {params params' : Params}
    (hoffset : params'.get "offset" = params.get "offset") (hlimit : params'.get "limit" = params.get "limit") :
    (t.withoutHidden reg).query reg limits params' = t.query reg limits params := by
  have hselect : reg.selected (tokensOf (t.withoutHidden reg).fields) = reg.selected (tokensOf t.fields) := by
    rw [← reg.selected_filter_sees (tokensOf t.fields), ← tokensOf_map_keepTokens (reg.sees_trim _)]
    rfl
  have horder : reg.sortKeys (tokensOf (t.withoutHidden reg).order) = reg.sortKeys (tokensOf t.order) := by
    rw [← reg.sortKeys_filter_sees (tokensOf t.order), ← tokensOf_map_keepTokens (reg.sees_trim _)]
    rfl
  unfold query Request.query
  rw [filter_withoutHidden, horder, hoffset, hlimit]
  simp only [request, hselect, tokensOf_join_withoutHidden]

end RequestTexts

theorem Params.texts_withoutHidden (reg : Registry) (params : Params) :
    (params.withoutHidden reg).texts = params.texts.map (RequestTexts.withoutHidden reg) := by
  have hget : ∀ name ∈ tokenNames, ((params.withoutHidden reg).get name).texts =
      (params.get name).texts.map (List.map (keepTokens (reg.sees name))) := by
    intro name hname
    rw [get_withoutHidden, if_pos hname, RawValue.texts_mapTexts]
  unfold texts
  rw [hget "fields" (by decide), hget "whereAnd" (by decide), hget "where" (by decide), hget "whereOr" (by decide),
    hget "whereJoin" (by decide), hget "orderBy" (by decide)]
  cases (params.get "fields").texts with
  | error fault => rfl
  | ok fields =>
  cases (params.get "whereAnd").texts with
  | error fault => rfl
  | ok whereAnd =>
  cases (params.get "where").texts with
  | error fault => rfl
  | ok plain =>
  cases (params.get "whereOr").texts with
  | error fault => rfl
  | ok whereOr =>
  cases (params.get "whereJoin").texts with
  | error fault => rfl
  | ok join =>
  cases (params.get "orderBy").texts with
  | error fault => rfl
  | ok order => rfl

/-- A request comes to the same without the tokens that are blank, cannot be read, or are on fields that may not be
used where they stand. -/
theorem compile_withoutHidden (reg : Registry) (limits : Limits) (params : Params) :
    compile reg limits (params.withoutHidden reg) = compile reg limits params := by
  have hoffset : (params.withoutHidden reg).get "offset" = params.get "offset" := by
    rw [Params.get_withoutHidden, if_neg (by decide)]
  have hlimit : (params.withoutHidden reg).get "limit" = params.get "limit" := by
    rw [Params.get_withoutHidden, if_neg (by decide)]
  rw [compile_eq, compile_eq, Params.texts_withoutHidden]
  cases params.texts with
  | error fault => simp only [Except.map, bind, Except.bind]
  | ok t =>
    have hproblems := t.problems_withoutHidden reg
    have hquery := t.query_withoutHidden reg limits hoffset hlimit
    simp only [Except.map, bind, Except.bind, hproblems, hquery]

example : keepTokens (people.sees "where") "age = x,id = 1, ,name,secret <> __null__,name=b" =
    "age = x,name=b" := by decide +kernel

end ParamQuery
