import ParamQuery.Proofs.PageValues

/-!
# Groups on their own

What a group adds to a filter is what it gives alone, whatever stands before it (`addGroup_concatenates`), so a filter
has the expressions, the values and the problems of its groups one after the other, however they are spread over calls
(`groups_independent`).  Since blank groups add nothing, a request may as well give the groups of `whereAnd` and
`where` in one list.
-/

namespace ParamQuery

/-- The groups of all calls, in order, each with the join inside it. -/
def Calls.groups (calls : Calls) : List (Join × String) :=
  calls.flatMap fun call => call.2.map fun group => (call.1, group)

namespace Filter

/-- The filter of a group alone. -/
def ofGroup (reg : Registry) (g : Join × String) : Filter :=
  empty.addGroup reg g.1 g.2

/-- The filter has what its parts have, one after the other. -/
structure Concatenates (f : Filter) (parts : List Filter) : Prop where
  expressions : f.expressions = parts.flatMap Filter.expressions
  values : f.values = parts.flatMap Filter.values
  problems : f.problems = parts.flatMap Filter.problems

namespace Concatenates

variable {f part : Filter} {inner : List Filter}

theorem self (f : Filter) : f.Concatenates [f] := by
  constructor <;> simp

theorem of_empty {parts : List Filter} (h : f.Concatenates (empty :: parts)) : f.Concatenates parts :=
  ⟨h.expressions, h.values, h.problems⟩

private theorem flatMap_replace {β : Type} {g : Filter → List β} (h : g part = inner.flatMap g)
    (before after : List Filter) :
    (before ++ part :: after).flatMap g = (before ++ inner ++ after).flatMap g := by
  rw [List.flatMap_append, List.flatMap_cons, h, List.flatMap_append, List.flatMap_append, List.append_assoc]

/-- A part may be given by its own parts, and parts that stand together as one. -/
theorem replace_iff (hpart : part.Concatenates inner) (before after : List Filter) :
    f.Concatenates (before ++ part :: after) ↔ f.Concatenates (before ++ inner ++ after) := by
  have hexpressions := flatMap_replace hpart.expressions before after
  have hvalues := flatMap_replace hpart.values before after
  have hproblems := flatMap_replace hpart.problems before after
  constructor
  · rintro ⟨he, hv, hp⟩
    exact ⟨he.trans hexpressions, hv.trans hvalues, hp.trans hproblems⟩
  · rintro ⟨he, hv, hp⟩
    exact ⟨he.trans hexpressions.symm, hv.trans hvalues.symm, hp.trans hproblems.symm⟩

end Concatenates

theorem addGroup_concatenates (f : Filter) (reg : Registry) (g : Join × String) :
    (f.addGroup reg g.1 g.2).Concatenates [f, ofGroup reg g] := by
  unfold ofGroup
  rw [addGroup_eq, addGroup_eq]
  constructor
  · simp only [List.flatMap_cons, List.flatMap_nil, List.append_nil, expressions_addAccepted]
    rfl
  · simp [addAccepted, empty]
  · simp [addAccepted, empty]

theorem length_expressions_ofGroup (reg : Registry) (g : Join × String) :
    (ofGroup reg g).expressions.length ≤ 1 := by
  have hle : (properGroups [⟨g.1, acceptedComparisons reg g.2⟩]).length ≤ 1 := List.length_filter_le _ _
  unfold ofGroup
  rw [addGroup_eq, expressions_addAccepted, List.length_append, List.length_map]
  simpa [empty, expressions] using hle

theorem addCalls_eq_foldl (f : Filter) (reg : Registry) (calls : Calls) :
    f.addCalls reg calls = calls.groups.foldl (fun f g => f.addGroup reg g.1 g.2) f := by
  simp only [addCalls, addGroups, Calls.groups, List.foldl_flatMap, List.foldl_map]

theorem foldl_addGroup_concatenates (f : Filter) (reg : Registry) (gs : List (Join × String)) :
    (gs.foldl (fun f g => f.addGroup reg g.1 g.2) f).Concatenates (f :: gs.map (ofGroup reg)) := by
  induction gs generalizing f with
  | nil => exact .self f
  | cons g gs ih => exact ((addGroup_concatenates f reg g).replace_iff [] _).1 (ih (f.addGroup reg g.1 g.2))

theorem addCalls_concatenates (reg : Registry) (calls : Calls) :
    (empty.addCalls reg calls).Concatenates (calls.groups.map (ofGroup reg)) := by
  rw [addCalls_eq_foldl]
  exact (foldl_addGroup_concatenates empty reg calls.groups).of_empty

/-- The groups at the front and those at the end give what they give without those between them. -/
theorem addCalls_around (reg : Registry) {calls before after : Calls} (gs : List (Join × String))
    (h : calls.groups = before.groups ++ gs ++ after.groups) :
    (empty.addCalls reg calls).Concatenates
      ([empty.addCalls reg before] ++ gs.map (ofGroup reg) ++ [empty.addCalls reg after]) := by
  have hall := addCalls_concatenates reg calls
  rw [h, List.map_append, List.map_append] at hall
  have hend := ((addCalls_concatenates reg after).replace_iff
    (before.groups.map (ofGroup reg) ++ gs.map (ofGroup reg)) []).2 (by simpa using hall)
  exact ((addCalls_concatenates reg before).replace_iff [] _).2 (by simpa using hend)

end Filter

/-- The groups of `whereAnd` and `where` may be given in one list, trimmed or not. -/
theorem Compiler.compile_merged (c : Compiler) {params params' : Params} {conjunctions plain groups : List String}
    (hand : HasTexts (params.get "whereAnd") conjunctions) (hplain : HasTexts (params.get "where") plain)
    (hgroups : trimmed groups = trimmed conjunctions ++ trimmed plain)
    (hand' : params'.get "whereAnd" = .list (groups.map .text)) (hplain' : params'.get "where" = .null)
    (hother : ∀ key, key ≠ "whereAnd" → key ≠ "where" → params'.get key = params.get key) :
    c.compile params' = c.compile params := by
  have hands := RawValue.groups_eq_ok_iff.2 ⟨_, hand, rfl⟩
  have hplains := RawValue.groups_eq_ok_iff.2 ⟨_, hplain, rfl⟩
  have hnone : RawValue.null.groups = .ok [] := rfl
  have hrequest : Request.ofParams params' = Request.ofParams params := by
    unfold Request.ofParams
    rw [hother "fields" (by decide) (by decide), hother "whereOr" (by decide) (by decide),
      hother "whereJoin" (by decide) (by decide), hand', hplain', RawValue.groups_list, hands, hplains, hgroups]
    simp only [hnone, bind, Except.bind, List.append_nil]
  apply compile_eq_of_request hrequest
  · rw [hother "orderBy" (by decide) (by decide)]
  · rw [hother "offset" (by decide) (by decide)]
  · rw [hother "limit" (by decide) (by decide)]

end ParamQuery
