import ParamQuery.Compiler
import ParamQuery.Proofs.ComparisonSyntax
import ParamQuery.Proofs.Text.Commas

/-!
# The comparisons that a filter accepts

A token is accepted if it can be read as a comparison of a field that may be filtered by.  A pass over the tokens
of a group leaves the conditions, the values and the problems of the accepted comparisons, in order
(`selectFrom_readCondition`), so the filter after any number of calls is the one of the accepted comparisons of
their groups (`addCalls_eq`).
-/

namespace ParamQuery

/-- The comparison that a token stands for, if it is accepted. -/
def acceptedComparison? (reg : Registry) (token : String) : Option Comparison :=
  (Comparison.parse? (Text.trim token)).filter fun c => reg.isFilterable c.field

/-- The accepted comparisons between the commas of a group. -/
def acceptedComparisons (reg : Registry) (group : String) : List Comparison :=
  (Text.splitAtCommas group).filterMap (acceptedComparison? reg)

theorem acceptedComparison?_eq_some {reg : Registry} {token : String} {c : Comparison} :
    acceptedComparison? reg token = some c ↔
      Comparison.parse? (Text.trim token) = some c ∧ reg.isFilterable c.field = true :=
  Option.filter_eq_some_iff

theorem acceptedComparison?_written (reg : Registry) {field value : String} (op : Operator)
    (hfield : OperatorFree field.toList) (hvalue : OperatorFree value.toList) :
    acceptedComparison? reg (field ++ op.symbol ++ value) =
      if Text.trim field ≠ "" ∧ reg.isFilterable (Text.trim field) = true
      then some ⟨Text.trim field, op, Text.trim value⟩ else none := by
  unfold acceptedComparison?
  rw [Comparison.parse?_trim_written op hfield hvalue]
  by_cases hblank : Text.trim field = "" <;> simp [hblank, Option.filter]

theorem isFilterable_of_mem_acceptedComparisons {reg : Registry} {group : String} {c : Comparison}
    (h : c ∈ acceptedComparisons reg group) : reg.isFilterable c.field = true := by
  obtain ⟨token, -, ht⟩ := List.mem_filterMap.1 h
  exact (acceptedComparison?_eq_some.1 ht).2

/-- White space around tokens does not matter. -/
theorem acceptedComparisons_congr {reg : Registry} {s s' : String}
    (h : (Text.splitAtCommas s).map Text.trim = (Text.splitAtCommas s').map Text.trim) :
    acceptedComparisons reg s = acceptedComparisons reg s' := by
  have hcomp : acceptedComparison? reg =
      (fun token => (Comparison.parse? token).filter fun c => reg.isFilterable c.field) ∘ Text.trim := by
    funext token
    simp only [acceptedComparison?, Function.comp_apply]
  unfold acceptedComparisons
  rw [hcomp, ← List.filterMap_map, ← List.filterMap_map, h]

theorem acceptedComparisons_trim (reg : Registry) (s : String) :
    acceptedComparisons reg (Text.trim s) = acceptedComparisons reg s :=
  acceptedComparisons_congr (Text.map_trim_splitAtCommas_trim s)

theorem acceptedComparisons_of_blank (reg : Registry) {s : String} (h : Text.trim s = "") :
    acceptedComparisons reg s = [] := by
  rw [← acceptedComparisons_trim, h]
  rfl

theorem Comparison.bind_condition_field (reg : Registry) (c : Comparison) :
    (c.bind reg).condition.field = c.field := by
  unfold Comparison.bind Comparison.bindNull Comparison.bindValue
  repeat' split
  all_goals rfl

/-- The accepted comparisons of one group, with the join between them. -/
structure AcceptedGroup where
  join : Join
  comparisons : List Comparison
  deriving DecidableEq, Repr

namespace AcceptedGroup

variable (reg : Registry) (a : AcceptedGroup)

def conditions : List Condition :=
  a.comparisons.map fun c => (c.bind reg).condition

def values : List BoundValue :=
  a.comparisons.map fun c => (c.bind reg).value

def problems : List Problem :=
  a.comparisons.flatMap fun c => (c.bind reg).problems

def group? : Option Group :=
  Group.ofConditions? a.join (a.conditions reg)

/-- The text of the group in a statement; nothing for a group without comparisons. -/
def text : String :=
  ((a.group? reg).map Group.text).getD ""

theorem group?_cons (join : Join) (c : Comparison) (cs : List Comparison) :
    group? reg ⟨join, c :: cs⟩ =
      some ⟨join, (c.bind reg).condition, cs.map fun c => (c.bind reg).condition⟩ := rfl

theorem text_cons (join : Join) (c : Comparison) (cs : List Comparison) :
    text reg ⟨join, c :: cs⟩ =
      let joined := (" " ++ join.word ++ " ").intercalate ((c :: cs).map fun c => (c.bind reg).condition.text)
      if cs.isEmpty then joined else "(" ++ joined ++ ")" := by
  simp [text, group?_cons, Group.text, Group.conditions, Function.comp_def]

theorem values_eq_nil_iff : a.values reg = [] ↔ a.comparisons = [] :=
  List.map_eq_nil_iff

end AcceptedGroup

/-- The groups that stand in a statement. -/
def properGroups (as : List AcceptedGroup) : List AcceptedGroup :=
  as.filter fun a => !a.comparisons.isEmpty

theorem ne_nil_of_mem_properGroups {as : List AcceptedGroup} {a : AcceptedGroup} (h : a ∈ properGroups as) :
    a.comparisons ≠ [] := by
  have h' := (List.mem_filter.1 h).2
  simpa using h'

/-- What belongs to the comparisons of groups belongs to those of the proper groups. -/
theorem flatMap_properGroups {β : Type} {f : AcceptedGroup → List β} (hf : ∀ join, f ⟨join, []⟩ = [])
    (as : List AcceptedGroup) : (properGroups as).flatMap f = as.flatMap f := by
  induction as with
  | nil => rfl
  | cons a as ih =>
    obtain ⟨join, cs⟩ := a
    cases cs with
    | nil => simpa [properGroups, hf] using ih
    | cons c cs => simpa [properGroups] using ih

/-- There are no proper groups exactly if there is nothing that belongs to the comparisons. -/
theorem properGroups_eq_nil_iff {β : Type} {f : AcceptedGroup → List β} (hf : ∀ a, f a = [] ↔ a.comparisons = [])
    {as : List AcceptedGroup} : properGroups as = [] ↔ as.flatMap f = [] := by
  simp only [properGroups, List.filter_eq_nil_iff, List.flatMap_eq_nil_iff, hf, Bool.not_eq_true',
    List.isEmpty_eq_false_iff, ne_eq, Classical.not_not]

theorem filterMap_group?_properGroups (reg : Registry) (as : List AcceptedGroup) :
    (properGroups as).filterMap (·.group? reg) = as.filterMap (·.group? reg) := by
  induction as with
  | nil => rfl
  | cons a as ih =>
    obtain ⟨join, cs⟩ := a
    cases cs with
    | nil => exact ih
    | cons c cs =>
      have h := AcceptedGroup.group?_cons reg join c cs
      rw [List.filterMap_cons_some h, ← ih]
      exact List.filterMap_cons_some h

theorem flatMap_conditions_filterMap_group? (reg : Registry) (as : List AcceptedGroup) :
    (as.filterMap (·.group? reg)).flatMap Group.conditions = as.flatMap (·.conditions reg) := by
  induction as with
  | nil => rfl
  | cons a as ih =>
    obtain ⟨join, cs⟩ := a
    cases cs with
    | nil => exact ih
    | cons c cs =>
      rw [List.filterMap_cons_some (AcceptedGroup.group?_cons reg join c cs), List.flatMap_cons, ih]
      rfl

theorem map_text_filterMap_group? (reg : Registry) (as : List AcceptedGroup) :
    (as.filterMap (·.group? reg)).map Group.text = (properGroups as).map (·.text reg) := by
  induction as with
  | nil => rfl
  | cons a as ih =>
    obtain ⟨join, cs⟩ := a
    cases cs with
    | nil => simpa [properGroups, AcceptedGroup.group?, AcceptedGroup.conditions, Group.ofConditions?] using ih
    | cons c cs =>
      rw [List.filterMap_cons_some (AcceptedGroup.group?_cons reg join c cs), List.map_cons, ih]
      rfl

/-- The accepted comparisons of each text, with the join for all of them. -/
def acceptedGroups (reg : Registry) (join : Join) (texts : List String) : List AcceptedGroup :=
  texts.map fun group => ⟨join, acceptedComparisons reg group⟩

theorem acceptedGroups_append (reg : Registry) (join : Join) (texts texts' : List String) :
    acceptedGroups reg join (texts ++ texts') = acceptedGroups reg join texts ++ acceptedGroups reg join texts' :=
  List.map_append

/-- Trimming the texts and leaving out blank ones does not change the proper groups. -/
theorem properGroups_acceptedGroups_trimmed (reg : Registry) (join : Join) (texts : List String) :
    properGroups (acceptedGroups reg join (trimmed texts)) = properGroups (acceptedGroups reg join texts) := by
  induction texts with
  | nil => rfl
  | cons s texts ih =>
    by_cases h : Text.trim s = ""
    · have htrimmed : trimmed (s :: texts) = trimmed texts := by simp [trimmed, h]
      rw [htrimmed, ih]
      simp [acceptedGroups, properGroups, acceptedComparisons_of_blank reg h]
    · have htrimmed : trimmed (s :: texts) = Text.trim s :: trimmed texts := by simp [trimmed, h]
      rw [htrimmed]
      simp only [acceptedGroups, List.map_cons, acceptedComparisons_trim] at ih ⊢
      simp only [properGroups, List.filter_cons] at ih ⊢
      rw [ih]

theorem filterMap_group?_trimmed (reg : Registry) (join : Join) (texts : List String) :
    (acceptedGroups reg join (trimmed texts)).filterMap (·.group? reg) =
      (acceptedGroups reg join texts).filterMap (·.group? reg) := by
  rw [← filterMap_group?_properGroups, properGroups_acceptedGroups_trimmed, filterMap_group?_properGroups]

/-- Calls that add the groups of a parameter, each with the join inside these groups. -/
abbrev Calls := List (Join × List String)

def Calls.accepted (calls : Calls) (reg : Registry) : List AcceptedGroup :=
  calls.flatMap fun call => acceptedGroups reg call.1 call.2

theorem isFilterable_of_mem_accepted {calls : Calls} {reg : Registry} {a : AcceptedGroup} {c : Comparison}
    (ha : a ∈ calls.accepted reg) (hc : c ∈ a.comparisons) : reg.isFilterable c.field = true := by
  obtain ⟨call, -, h⟩ := List.mem_flatMap.1 ha
  obtain ⟨group, -, rfl⟩ := List.mem_map.1 h
  exact isFilterable_of_mem_acceptedComparisons hc

namespace Filter

/-- Takes the values and the problems of comparisons, in order. -/
def bindAll (f : Filter) (reg : Registry) (cs : List Comparison) : Filter :=
  cs.foldl (fun f c => f.bind (c.bind reg)) f

def addAccepted (f : Filter) (reg : Registry) (as : List AcceptedGroup) : Filter where
  groups := f.groups ++ as.filterMap (·.group? reg)
  values := f.values ++ as.flatMap (·.values reg)
  problems := f.problems ++ as.flatMap (·.problems reg)

def addCalls (f : Filter) (reg : Registry) (calls : Calls) : Filter :=
  calls.foldl (fun f call => f.addGroups reg call.1 call.2) f

theorem bindAll_eq (f : Filter) (reg : Registry) (cs : List Comparison) :
    f.bindAll reg cs = { f with
      values := f.values ++ cs.map fun c => (c.bind reg).value
      problems := f.problems ++ cs.flatMap fun c => (c.bind reg).problems } := by
  induction cs generalizing f with
  | nil => simp [bindAll]
  | cons c cs ih =>
    have h : f.bindAll reg (c :: cs) = (f.bind (c.bind reg)).bindAll reg cs := rfl
    rw [h, ih]
    simp [bind]

private theorem readEntry_readCondition (reg : Registry) (token : String) (f : Filter) :
    (readEntry (readCondition reg) token).run f =
      match acceptedComparison? reg token with
      | none => (none, f)
      | some c => (some ⟨c.field, (c.bind reg).condition⟩, f.bind (c.bind reg)) := by
  unfold readEntry acceptedComparison? readCondition
  by_cases hblank : Text.trim token = ""
  · rw [hblank]
    rfl
  · simp only [hblank, ↓reduceIte]
    cases Comparison.parse? (Text.trim token) with
    | none => rfl
    | some c => cases hc : reg.isFilterable c.field <;> simp [hc, Option.filter] <;> rfl

/-- One pass over tokens keeps the conditions of the accepted ones and binds their values. -/
theorem selectFrom_readCondition (reg : Registry) (seen tokens : List String) (f : Filter) :
    (selectFrom true reg.isFilterable (readCondition reg) seen tokens).run f =
      ((tokens.filterMap (acceptedComparison? reg)).map fun c => (c.bind reg).condition,
        f.bindAll reg (tokens.filterMap (acceptedComparison? reg))) := by
  induction tokens generalizing seen f with
  | nil => rfl
  | cons token tokens ih =>
    have hread := readEntry_readCondition reg token f
    rw [selectFrom, StateT.run_bind, hread]
    cases htoken : acceptedComparison? reg token with
    | none =>
      rw [List.filterMap_cons_none htoken]
      exact ih seen f
    | some c =>
      -- With repeats the fields seen do not matter, so the rest is read as it would be without this token.
      have hc := (acceptedComparison?_eq_some.1 htoken).2
      have hrest := ih (c.field :: seen) (f.bind (c.bind reg))
      rw [List.filterMap_cons_some htoken]
      show ((selectFrom true reg.isFilterable (readCondition reg) (c.field :: seen) tokens >>= fun items =>
          pure (if reg.isFilterable c.field then (c.bind reg).condition :: items else items)).run
            (f.bind (c.bind reg))) = _
      rw [StateT.run_bind, hrest, hc]
      rfl

theorem addGroup_eq (f : Filter) (reg : Registry) (join : Join) (group : String) :
    f.addGroup reg join group = f.addAccepted reg [⟨join, acceptedComparisons reg group⟩] := by
  unfold addGroup
  rw [selectFrom_readCondition, bindAll_eq]
  cases h : Group.ofConditions? join ((acceptedComparisons reg group).map fun c => (c.bind reg).condition) <;>
    simp_all [addAccepted, AcceptedGroup.group?, AcceptedGroup.conditions, AcceptedGroup.values,
      AcceptedGroup.problems, acceptedComparisons]

theorem expressions_addAccepted (f : Filter) (reg : Registry) (as : List AcceptedGroup) :
    (f.addAccepted reg as).expressions = f.expressions ++ (properGroups as).map (·.text reg) := by
  unfold expressions addAccepted
  rw [List.map_append, map_text_filterMap_group?]

theorem length_values_addAccepted (reg : Registry) (as : List AcceptedGroup) :
    (empty.addAccepted reg as).values.length = (empty.addAccepted reg as).conditions.length := by
  simp [addAccepted, empty, conditions, flatMap_conditions_filterMap_group?, List.length_flatMap,
    AcceptedGroup.values, AcceptedGroup.conditions]

theorem addAccepted_properGroups (f : Filter) (reg : Registry) (as : List AcceptedGroup) :
    f.addAccepted reg (properGroups as) = f.addAccepted reg as := by
  unfold addAccepted
  rw [filterMap_group?_properGroups, flatMap_properGroups (f := AcceptedGroup.values reg) fun _ => rfl,
    flatMap_properGroups (f := AcceptedGroup.problems reg) fun _ => rfl]

theorem addAccepted_nil (f : Filter) (reg : Registry) : f.addAccepted reg [] = f := by
  simp [addAccepted]

theorem addAccepted_addAccepted (f : Filter) (reg : Registry) (as bs : List AcceptedGroup) :
    (f.addAccepted reg as).addAccepted reg bs = f.addAccepted reg (as ++ bs) := by
  simp [addAccepted]

theorem addGroups_eq (f : Filter) (reg : Registry) (join : Join) (groups : List String) :
    f.addGroups reg join groups = f.addAccepted reg (acceptedGroups reg join groups) := by
  induction groups generalizing f with
  | nil => exact (addAccepted_nil f reg).symm
  | cons group groups ih =>
    have h : f.addGroups reg join (group :: groups) = (f.addGroup reg join group).addGroups reg join groups := rfl
    rw [h, ih, addGroup_eq, addAccepted_addAccepted]
    rfl

/-- The filter after any calls is the one of the accepted comparisons of their groups. -/
theorem addCalls_eq (f : Filter) (reg : Registry) (calls : Calls) :
    f.addCalls reg calls = f.addAccepted reg (calls.accepted reg) := by
  induction calls generalizing f with
  | nil => exact (addAccepted_nil f reg).symm
  | cons call calls ih =>
    have h : f.addCalls reg (call :: calls) = (f.addGroups reg call.1 call.2).addCalls reg calls := rfl
    rw [h, ih, addGroups_eq, addAccepted_addAccepted]
    rfl

end Filter

/-- The calls that a request makes: the groups of `whereAnd` and `where`, then those of `whereOr`. -/
def Request.calls (req : Request) : Calls :=
  [(.and, req.conjunctions), (.or, req.disjunctions)]

theorem Request.accepted_calls (req : Request) (reg : Registry) :
    req.calls.accepted reg =
      acceptedGroups reg .and req.conjunctions ++ acceptedGroups reg .or req.disjunctions := by
  simp [calls, Calls.accepted]

theorem Request.filter_eq (req : Request) (reg : Registry) :
    req.filter reg = Filter.empty.addAccepted reg (req.calls.accepted reg) :=
  Filter.addCalls_eq Filter.empty reg req.calls

/-- Trimming the groups of a request and leaving out blank ones does not change its filter. -/
theorem Request.filter_of_trimmed {req : Request} {conjunctions disjunctions : List String}
    (hc : req.conjunctions = trimmed conjunctions) (hd : req.disjunctions = trimmed disjunctions)
    (reg : Registry) :
    req.filter reg = Filter.empty.addAccepted reg
      (acceptedGroups reg .and conjunctions ++ acceptedGroups reg .or disjunctions) := by
  have happend : ∀ as bs, properGroups (as ++ bs) = properGroups as ++ properGroups bs :=
    fun as bs => List.filter_append ..
  rw [Request.filter_eq, Request.accepted_calls, ← Filter.addAccepted_properGroups, happend, hc, hd,
    properGroups_acceptedGroups_trimmed, properGroups_acceptedGroups_trimmed, ← happend,
    Filter.addAccepted_properGroups]

end ParamQuery
