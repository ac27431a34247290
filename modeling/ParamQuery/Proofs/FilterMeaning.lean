import ParamQuery.Proofs.FilterGrammar
import ParamQuery.Proofs.Success

/-!
# What a filter text means

Only groups of two or more conditions are in parentheses, but a single condition is in parentheses of its own.  So
the text of every group is a primary (`Group.isPrimary`), and a join between groups cannot take a part out of one.
The reading of a filter is thus the chain of its groups, each of which is the chain of its conditions, and its
value is the combination of the values of the groups.
-/

namespace ParamQuery

open Lexeme

def Join.apply : Join → Bool → Bool → Bool
  | .and, p, q => p && q
  | .or, p, q => p || q

/-- The conjunction or the disjunction of truth values. -/
def Join.combine : Join → List Bool → Bool
  | .and, ps => ps.all id
  | .or, ps => ps.any id

theorem Join.combine_singleton (j : Join) (p : Bool) : j.combine [p] = p := by
  cases j <;> simp [combine]

theorem Join.combine_cons (j : Join) (p : Bool) (ps : List Bool) :
    j.combine (p :: ps) = j.apply p (j.combine ps) := by
  cases j <;> simp [combine, apply]

namespace Formula

/-- The conditions in order of appearance. -/
def atoms : Formula → List Condition
  | atom c => [c]
  | join _ e e' => e.atoms ++ e'.atoms

/-- The truth value, where `v` gives one to each atom and the atoms are numbered from `k` in order of
appearance. -/
def eval (v : Nat → Bool) (k : Nat) : Formula → Bool
  | atom _ => v k
  | join j e e' => j.apply (e.eval v k) (e'.eval v (k + e.atoms.length))

/-- The truth values of formulas that stand one after another. -/
def evalAll (v : Nat → Bool) : Nat → List Formula → List Bool
  | _, [] => []
  | k, e :: es => e.eval v k :: evalAll v (k + e.atoms.length) es

def chain (j : Join) : Formula → List Formula → Formula
  | e, [] => e
  | e, e' :: es => join j e (chain j e' es)

theorem atoms_chain (j : Join) (e : Formula) (es : List Formula) :
    (chain j e es).atoms = (e :: es).flatMap atoms := by
  induction es generalizing e with
  | nil => simp [chain]
  | cons e' es ih => rw [chain, atoms, ih, List.flatMap_cons (x := e)]

theorem eval_chain (v : Nat → Bool) (k : Nat) (j : Join) (e : Formula) (es : List Formula) :
    (chain j e es).eval v k = j.combine (evalAll v k (e :: es)) := by
  induction es generalizing e k with
  | nil => rw [chain, evalAll, evalAll, Join.combine_singleton]
  | cons e' es ih =>
    rw [chain, eval, ih]
    exact (Join.combine_cons j _ _).symm

theorem evalAll_map_atom (v : Nat → Bool) (k : Nat) (cs : List Condition) :
    evalAll v k (cs.map atom) = (List.range' k cs.length).map v := by
  induction cs generalizing k with
  | nil => rfl
  | cons c cs ih =>
    rw [List.map_cons, evalAll, ih, List.length_cons, List.range'_succ, List.map_cons]
    rfl

end Formula

/-- A text that is read as the formula and cannot be torn apart by a join next to it. -/
structure IsPrimary (text : String) (e : Formula) : Prop where
  head : text.toList.head? = some '('
  reads : Reads .primary (lex text) e

private theorem lex_parenthesis (s : String) : lex ("(" ++ s) = .opening :: lex s := by
  have h : lexFrom [] ('(' :: s.toList) = .opening :: lexFrom [] s.toList := by
    rw [lexFrom]
    rfl
  simpa [lex] using h

private theorem lex_condition_end (op : SqlOperator) :
    lex (op.symbol ++ " ?)") = op.lexemes ++ [.hole, .closing] := by
  cases op with
  | compare op => cases op <;> decide +kernel
  | is => decide +kernel
  | isNot => decide +kernel

theorem lex_condition {c : Condition} (h : IsWord c.field) : lex c.text = c.lexemes := by
  have hspace : ∀ s : String, lex (" " ++ s) = lex s := by
    intro s
    have h : lexFrom [] (' ' :: s.toList) = lexFrom [] s.toList := by
      rw [lexFrom]
      rfl
    simpa [lex] using h
  have htext : c.text = "(" ++ (c.field ++ (" " ++ (c.op.symbol ++ " ?)"))) := by
    simp [Condition.text, String.append_assoc]
  rw [htext, lex_parenthesis, lex_word_append h ⟨' ', by simp, by decide +kernel⟩, hspace, lex_condition_end]
  rfl

theorem Condition.isPrimary {c : Condition} (h : IsWord c.field) : IsPrimary c.text (.atom c) where
  head := by simp [Condition.text]
  reads := by
    rw [lex_condition h]
    exact .condition c

/-- The class of what has this join between primaries. -/
def Join.rank : Join → Rank
  | .and => .conjunction
  | .or => .disjunction

namespace Reads

variable {ts ts' : List Lexeme} {e e' : Formula}

theorem rank_of_primary (j : Join) (h : Reads .primary ts e) : Reads j.rank ts e := by
  cases j with
  | and => exact .primary h
  | or => exact .conjunction (.primary h)

theorem rank_join (j : Join) (h : Reads .primary ts e) (h' : Reads j.rank ts' e') :
    Reads j.rank (ts ++ .word j.word :: ts') (.join j e e') := by
  cases j with
  | and => exact .and h h'
  | or => exact .or (.primary h) h'

theorem disjunction_of_rank (j : Join) (h : Reads j.rank ts e) : Reads .disjunction ts e := by
  cases j with
  | and => exact .conjunction h
  | or => exact h

end Reads

private theorem lex_join (j : Join) (s : String) {t : String} (ht : t.toList.head? = some '(') :
    lex (s ++ (" " ++ j.word ++ " ") ++ t) = lex s ++ .word j.word :: lex t := by
  have hword : lex (" " ++ j.word ++ " ") = [.word j.word] := by cases j <;> decide +kernel
  rw [lex_append ⟨'(', ht, by decide +kernel⟩, lex_append ⟨' ', by cases j <;> rfl, by decide +kernel⟩, hword]
  simp

/-- The texts of primaries with a join between them are read as the chain of their formulas. -/
theorem reads_intercalate {α : Type} {text : α → String} {formula : α → Formula} (j : Join) {a : α} {as : List α}
    (h : ∀ b ∈ a :: as, IsPrimary (text b) (formula b)) :
    Reads .disjunction (lex ((" " ++ j.word ++ " ").intercalate ((a :: as).map text)))
      (.chain j (formula a) (as.map formula)) := by
  have hrank : Reads j.rank (lex ((" " ++ j.word ++ " ").intercalate ((a :: as).map text)))
      (.chain j (formula a) (as.map formula)) := by
    induction as generalizing a with
    | nil =>
      rw [List.map_singleton, String.intercalate_singleton]
      exact (h a (by simp)).reads.rank_of_primary j
    | cons b bs ih =>
      -- The text of the rest begins with a parenthesis, so the join in front of it is a word of its own.
      have hrest := ih fun c hc => h c (List.mem_cons_of_mem a hc)
      have hhead : ((" " ++ j.word ++ " ").intercalate ((b :: bs).map text)).toList.head? = some '(' := by
        have hb := (h b (by simp)).head
        cases bs with
        | nil => simpa using hb
        | cons c cs => simp [hb]
      simp only [List.map_cons, String.intercalate_cons_cons] at hrest hhead ⊢
      rw [lex_join j (text a) hhead]
      exact .rank_join j (h a (by simp)).reads hrest
  exact hrank.disjunction_of_rank j

def Group.formula (g : Group) : Formula :=
  .chain g.join (.atom g.head) (g.tail.map .atom)

theorem Group.isPrimary {g : Group} (h : ∀ c ∈ g.conditions, IsWord c.field) : IsPrimary g.text g.formula := by
  obtain ⟨join, c, cs⟩ := g
  have hparts := reads_intercalate join (fun d (hd : d ∈ c :: cs) => Condition.isPrimary (h d hd))
  cases cs with
  | nil =>
    have hc := Condition.isPrimary (h c (by simp [conditions]))
    simpa [text, conditions, formula, Formula.chain] using hc
  | cons d ds =>
    have htext : text ⟨join, c, d :: ds⟩ =
        "(" ++ ((" " ++ join.word ++ " ").intercalate ((c :: d :: ds).map Condition.text) ++ ")") := by
      simp [text, conditions, String.append_assoc]
    constructor
    · rw [htext]
      simp
    · rw [htext, lex_parenthesis, lex_append ⟨')', rfl, by decide +kernel⟩]
      exact .parentheses hparts

theorem Group.atoms_formula (g : Group) : g.formula.atoms = g.conditions := by
  rw [formula, Formula.atoms_chain, ← List.map_cons, List.flatMap_map]
  simp [Formula.atoms, conditions]

theorem Group.eval_formula (v : Nat → Bool) (k : Nat) (g : Group) :
    g.formula.eval v k = g.join.combine ((List.range' k g.conditions.length).map v) := by
  rw [formula, Formula.eval_chain, ← List.map_cons, Formula.evalAll_map_atom]
  rfl

namespace AcceptedGroup

/-- The value of a group of its own, if its comparisons are numbered from `k`. -/
def value (v : Nat → Bool) (k : Nat) (a : AcceptedGroup) : Bool :=
  a.join.combine ((List.range' k a.comparisons.length).map v)

/-- The values of groups, if the comparisons in all of them are numbered from `k`. -/
def valuesFrom (v : Nat → Bool) : Nat → List AcceptedGroup → List Bool
  | _, [] => []
  | k, a :: as => a.value v k :: valuesFrom v (k + a.comparisons.length) as

theorem evalAll_formula (reg : Registry) (v : Nat → Bool) (k : Nat) (as : List AcceptedGroup) :
    Formula.evalAll v k ((as.filterMap (·.group? reg)).map Group.formula) = valuesFrom v k (properGroups as) := by
  induction as generalizing k with
  | nil => rfl
  | cons a as ih =>
    obtain ⟨join, cs⟩ := a
    cases cs with
    | nil => exact ih k
    | cons c cs =>
      have hgroup := group?_cons reg join c cs
      rw [List.filterMap_cons_some hgroup, List.map_cons, Formula.evalAll, ih, Group.eval_formula,
        Group.atoms_formula]
      simp [properGroups, valuesFrom, value, Group.conditions]

end AcceptedGroup

private theorem isWord_of_mem_groups {reg : Registry} (hreg : ∀ name, reg.isFilterable name = true → IsWord name)
    {calls : Calls} {g : Group} (hg : g ∈ (calls.accepted reg).filterMap (·.group? reg)) {c : Condition}
    (hc : c ∈ g.conditions) : IsWord c.field := by
  have hmem : c ∈ ((calls.accepted reg).filterMap (·.group? reg)).flatMap Group.conditions :=
    List.mem_flatMap.2 ⟨g, hg, hc⟩
  rw [flatMap_conditions_filterMap_group?] at hmem
  obtain ⟨a, ha, h⟩ := List.mem_flatMap.1 hmem
  obtain ⟨d, hd, rfl⟩ := List.mem_map.1 h
  rw [Comparison.bind_condition_field]
  exact hreg d.field (isFilterable_of_mem_accepted ha hd)

/-- The reading of groups with a join between them: their conditions in order, with the combination of the values
of the groups. -/
theorem reads_groups {reg : Registry} (hreg : ∀ name, reg.isFilterable name = true → IsWord name) (calls : Calls)
    (join : Join) (hne : (calls.accepted reg).filterMap (·.group? reg) ≠ []) :
    ∃ e, Reads .disjunction (lex ((" " ++ join.word ++ " ").intercalate
        (((calls.accepted reg).filterMap (·.group? reg)).map Group.text))) e ∧
      e.atoms = (calls.accepted reg).flatMap (·.conditions reg) ∧
      ∀ v, e.eval v 0 = join.combine (AcceptedGroup.valuesFrom v 0 (properGroups (calls.accepted reg))) := by
  have hprimary : ∀ g ∈ (calls.accepted reg).filterMap (·.group? reg), IsPrimary g.text g.formula :=
    fun g hg => Group.isPrimary fun c hc => isWord_of_mem_groups hreg hg hc
  have hatoms := flatMap_conditions_filterMap_group? reg (calls.accepted reg)
  have heval := fun v => AcceptedGroup.evalAll_formula reg v 0 (calls.accepted reg)
  cases hgroups : (calls.accepted reg).filterMap (·.group? reg) with
  | nil => exact absurd hgroups hne
  | cons g gs =>
    rw [hgroups] at hprimary hatoms heval
    refine ⟨.chain join g.formula (gs.map Group.formula), reads_intercalate join hprimary, ?_, ?_⟩
    · rw [Formula.atoms_chain, ← List.map_cons, List.flatMap_map, ← hatoms]
      simp only [Group.atoms_formula]
    · intro v
      rw [Formula.eval_chain, ← List.map_cons, heval v]

/-- A filter text can be read exactly if a comparison was accepted.  Its conditions are then those of the accepted
comparisons, in order, and its value is the `whereJoin` of the values of the groups that have any, for all truth
values of the conditions. -/
theorem filter_reads_as_combination {reg : Registry}
    (hreg : ∀ name, reg.isFilterable name = true →
      name ≠ "" ∧ ∀ c ∈ name.toList, Text.isBlank c = false ∧ c ≠ '(' ∧ c ≠ ')' ∧ c ≠ '?')
    {limits : Limits} {params : Params} {s : Statement BoundValue} (hs : compile reg limits params = .ok s) :
    ∃ req, Request.ofParams params = .ok req ∧ s.join = req.join.word ∧
      ((∃ e, Reads .disjunction (lex s.filter.text) e) ↔ (req.calls.accepted reg).flatMap (·.comparisons) ≠ []) ∧
      ∀ e, Reads .disjunction (lex s.filter.text) e →
        e.atoms = (req.calls.accepted reg).flatMap (·.conditions reg) ∧
        ∀ v, e.eval v 0 =
          req.join.combine (AcceptedGroup.valuesFrom v 0 (properGroups (req.calls.accepted reg))) := by
  obtain ⟨req, order, hreq, -, -, -, hq⟩ := compile_eq_ok_iff.1 hs
  obtain ⟨page, -, rfl⟩ := Query.statement_eq_ok_iff.1 hq
  have hword : ∀ name, reg.isFilterable name = true → IsWord name := by
    intro name hname
    obtain ⟨hne, hchars⟩ := hreg name hname
    exact ⟨hne, fun c hc => isWordChar_iff.2 (hchars c hc)⟩
  have hgroups : (req.filter reg).groups = (req.calls.accepted reg).filterMap (·.group? reg) := by
    rw [Request.filter_eq]
    rfl
  have hempty : (req.calls.accepted reg).filterMap (·.group? reg) = [] ↔
      (req.calls.accepted reg).flatMap (·.comparisons) = [] := by
    rw [← properGroups_eq_nil_iff (f := AcceptedGroup.comparisons) fun _ => Iff.rfl,
      ← List.map_eq_nil_iff (f := Group.text), map_text_filterMap_group?, List.map_eq_nil_iff]
  refine ⟨req, hreq, rfl, ?_⟩
  show ((∃ e, Reads .disjunction (lex (String.intercalate _ ((req.filter reg).groups.map Group.text))) e) ↔ _) ∧
    ∀ e, Reads .disjunction (lex (String.intercalate _ ((req.filter reg).groups.map Group.text))) e → _
  rw [hgroups]
  by_cases hnil : (req.calls.accepted reg).filterMap (·.group? reg) = []
  · -- The text is empty, and every reading begins with a parenthesis.
    have hnone : ¬ ∃ e, Reads .disjunction (lex (String.intercalate (" " ++ req.join.word ++ " ")
        (((req.calls.accepted reg).filterMap (·.group? reg)).map Group.text))) e := by
      rintro ⟨e, he⟩
      rw [hnil] at he
      obtain ⟨us, hus⟩ := he.exists_opening_cons
      exact absurd hus (by simp [lex, lexFrom, ofWord])
    exact ⟨⟨fun h => absurd h hnone, fun h => absurd (hempty.1 hnil) h⟩, fun e he => absurd ⟨e, he⟩ hnone⟩
  · obtain ⟨e, he, hatoms, heval⟩ := reads_groups hword req.calls req.join hnil
    refine ⟨⟨fun _ h => hnil (hempty.2 h), fun _ => ⟨e, he⟩⟩, ?_⟩
    intro e' he'
    rw [he'.unique he]
    exact ⟨hatoms, heval⟩

/-- A dropped token leaves a single comparison without parentheses of a group, next to groups that have them. -/
theorem filter_reads_as_combination_people :
    ∃ s e, compile people ⟨20, 20⟩ [("whereAnd", .list [.text "age > 1,name = x", .text "id = 3,active = on"]),
        ("whereOr", .text "age = 2,age = 3")] = .ok s ∧
      s.filter.text = "((age > ?) AND (name = ?)) AND (active = ?) AND ((age = ?) OR (age = ?))" ∧
      Reads .disjunction (lex s.filter.text) e ∧
      ∀ v, e.eval v 0 = ((v 0 && v 1) && v 2 && (v 3 || v 4)) := by
  let params : Params := [("whereAnd", .list [.text "age > 1,name = x", .text "id = 3,active = on"]),
    ("whereOr", .text "age = 2,age = 3")]
  have hwords : ∀ name ∈ people.filterable, IsWord name := by decide +kernel
  have hnames : ∀ name ∈ people.filterable, name ≠ "" ∧
      ∀ c ∈ name.toList, Text.isBlank c = false ∧ c ≠ '(' ∧ c ≠ ')' ∧ c ≠ '?' :=
    fun name hname => ⟨(hwords name hname).1, fun c hc => isWordChar_iff.1 ((hwords name hname).2 c hc)⟩
  obtain ⟨s, hs⟩ := exists_statement_of_isOk (show (compile people ⟨20, 20⟩ params).isOk = true by decide +kernel)
  obtain ⟨req, hreq, -, hread, hmeans⟩ := filter_reads_as_combination (forall_people_filterable hnames) hs
  have htext : (compile people ⟨20, 20⟩ params).toOption.map (·.filter.text) =
      some "((age > ?) AND (name = ?)) AND (active = ?) AND ((age = ?) OR (age = ?))" := by decide +kernel
  have hgroups : (Request.ofParams params).toOption.map (fun req =>
      (req.join, properGroups (req.calls.accepted people))) = some (.and,
        [⟨.and, [⟨"age", .gt, "1"⟩, ⟨"name", .eq, "x"⟩]⟩, ⟨.and, [⟨"active", .eq, "on"⟩]⟩,
          ⟨.or, [⟨"age", .eq, "2"⟩, ⟨"age", .eq, "3"⟩]⟩]) := by decide +kernel
  rw [hs] at htext
  rw [hreq] at hgroups
  obtain ⟨hjoin, hproper⟩ := Prod.mk.inj (Option.some.inj hgroups)
  have hne : (req.calls.accepted people).flatMap (·.comparisons) ≠ [] := by
    rw [ne_eq, ← properGroups_eq_nil_iff (f := AcceptedGroup.comparisons) fun _ => Iff.rfl, hproper]
    simp
  obtain ⟨e, he⟩ := hread.2 hne
  refine ⟨s, e, hs, Option.some.inj htext, he, ?_⟩
  intro v
  rw [(hmeans e he).2 v, hjoin, hproper]
  simp [AcceptedGroup.valuesFrom, AcceptedGroup.value, Join.combine, List.range'_succ, Bool.and_assoc]

end ParamQuery
