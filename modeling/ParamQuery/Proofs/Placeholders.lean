import ParamQuery.Proofs.Success

/-!
# Placeholders and their values

Values are bound while comparisons are read; conditions are put into groups, and groups into a text, afterwards.
Nevertheless the placeholder number `k` of the text is the one of the comparison that the value number `k` comes
from (`BoundInOrder`).  A single condition has this property, and it is kept when texts are put after each other
with something without a placeholder between them.
-/

namespace ParamQuery

/-- The condition of a comparison up to its placeholder. -/
def Comparison.opening (reg : Registry) (c : Comparison) : List Char :=
  ("(" ++ c.field ++ " " ++ (c.bind reg).condition.op.symbol ++ " ").toList

/-- The text has one placeholder for each comparison and for each value, and those of the same number belong
together: the placeholder number `k` stands in the condition of the comparison whose value is the value number
`k`. -/
structure BoundInOrder (reg : Registry) (cs : List Comparison) (text : List Char) (values : List BoundValue) :
    Prop where
  count_eq : text.count '?' = values.length
  length_eq : cs.length = values.length
  stands : ∀ k c, cs[k]? = some c → values[k]? = some (c.bind reg).value ∧
    ∃ before after, text = before ++ c.opening reg ++ '?' :: ')' :: after ∧
      (before ++ c.opening reg).count '?' = k

namespace BoundInOrder

variable {reg : Registry} {cs cs' : List Comparison} {text text' : List Char} {values values' : List BoundValue}

theorem of_not_mem (h : '?' ∉ text) : BoundInOrder reg [] text [] where
  count_eq := List.count_eq_zero.2 h
  length_eq := rfl
  stands := by simp

theorem append (h : BoundInOrder reg cs text values) (h' : BoundInOrder reg cs' text' values') :
    BoundInOrder reg (cs ++ cs') (text ++ text') (values ++ values') where
  count_eq := by rw [List.count_append, h.count_eq, h'.count_eq, List.length_append]
  length_eq := by rw [List.length_append, List.length_append, h.length_eq, h'.length_eq]
  stands := by
    intro k c hc
    by_cases hk : k < cs.length
    · rw [List.getElem?_append_left hk] at hc
      obtain ⟨hv, before, after, ht, hn⟩ := h.stands k c hc
      refine ⟨?_, before, after ++ text', ?_, hn⟩
      · rw [List.getElem?_append_left (by rw [← h.length_eq]; exact hk)]
        exact hv
      · rw [ht]
        simp
    · -- In front of a placeholder of the second text are those of the first as well.
      rw [List.getElem?_append_right (by omega)] at hc
      obtain ⟨hv, before, after, ht, hn⟩ := h'.stands (k - cs.length) c hc
      have hlen := h.length_eq
      have hcount := h.count_eq
      refine ⟨?_, text ++ before, after, ?_, ?_⟩
      · rw [List.getElem?_append_right (by omega), ← hlen]
        exact hv
      · rw [ht]
        simp
      · rw [List.append_assoc, List.count_append, hn]
        omega

theorem flatMap {α : Type} {comparisons : α → List Comparison} {text : α → List Char}
    {values : α → List BoundValue} {parts : List α}
    (h : ∀ a ∈ parts, BoundInOrder reg (comparisons a) (text a) (values a)) :
    BoundInOrder reg (parts.flatMap comparisons) (parts.flatMap text) (parts.flatMap values) := by
  induction parts with
  | nil => exact of_not_mem (by simp)
  | cons a parts ih =>
    simp only [List.flatMap_cons]
    exact (h a (by simp)).append (ih fun b hb => h b (by simp [hb]))

theorem intercalate {α : Type} {comparisons : α → List Comparison} {text : α → List Char}
    {values : α → List BoundValue} {sep : List Char} (hsep : '?' ∉ sep) {parts : List α}
    (h : ∀ a ∈ parts, BoundInOrder reg (comparisons a) (text a) (values a)) :
    BoundInOrder reg (parts.flatMap comparisons) (sep.intercalate (parts.map text)) (parts.flatMap values) := by
  induction parts with
  | nil => exact of_not_mem (by simp)
  | cons a parts ih =>
    have ha := h a (by simp)
    have hparts := ih fun b hb => h b (by simp [hb])
    cases parts with
    | nil => simpa using ha
    | cons b parts =>
      have hab := (ha.append (of_not_mem hsep)).append hparts
      simpa [List.intercalate_cons_cons] using hab

end BoundInOrder

theorem hole_not_mem_symbol (op : SqlOperator) : '?' ∉ op.symbol.toList := by
  cases op with
  | compare op => cases op <;> decide
  | is => decide
  | isNot => decide

theorem hole_not_mem_join (join : Join) : '?' ∉ (" " ++ join.word ++ " ").toList := by
  cases join <;> decide

theorem BoundInOrder.of_comparison (reg : Registry) {c : Comparison} (h : '?' ∉ c.field.toList) :
    BoundInOrder reg [c] (c.bind reg).condition.text.toList [(c.bind reg).value] := by
  have hopen : '?' ∉ c.opening reg := by
    have hop := hole_not_mem_symbol (c.bind reg).condition.op
    simp [Comparison.opening, h, hop]
  have htext : (c.bind reg).condition.text.toList = c.opening reg ++ ['?', ')'] := by
    simp [Condition.text, Comparison.opening, Comparison.bind_condition_field]
  have hcount := List.count_eq_zero.2 hopen
  constructor
  · rw [htext, List.count_append, hcount]
    rfl
  · rfl
  · intro k d hd
    cases k with
    | zero =>
      cases hd
      exact ⟨rfl, [], [], htext, hcount⟩
    | succ k => simp at hd

theorem AcceptedGroup.boundInOrder (reg : Registry) {a : AcceptedGroup} (hne : a.comparisons ≠ [])
    (h : ∀ c ∈ a.comparisons, '?' ∉ c.field.toList) :
    BoundInOrder reg a.comparisons (a.text reg).toList (a.values reg) := by
  obtain ⟨join, cs⟩ := a
  cases cs with
  | nil => exact absurd rfl hne
  | cons c cs =>
    have hparts := BoundInOrder.intercalate (hole_not_mem_join join)
      (fun d (hd : d ∈ c :: cs) => BoundInOrder.of_comparison reg (h d hd))
    have hjoined : BoundInOrder reg (c :: cs) ((" " ++ join.word ++ " ").intercalate
        ((c :: cs).map fun c => (c.bind reg).condition.text)).toList (values reg ⟨join, c :: cs⟩) := by
      rw [String.toList_intercalate, List.map_map]
      rw [List.flatMap_singleton', ← List.map_eq_flatMap] at hparts
      exact hparts
    rw [text_cons]
    cases cs with
    | nil => exact hjoined
    | cons d cs =>
      have hopen : '?' ∉ "(".toList := by decide
      have hclose : '?' ∉ ")".toList := by decide
      have hgroup := ((BoundInOrder.of_not_mem hopen).append hjoined).append (BoundInOrder.of_not_mem hclose)
      simpa using hgroup

section

variable {reg : Registry} (hreg : ∀ name, reg.isFilterable name = true → '?' ∉ name.toList)

include hreg

private theorem boundInOrder_of_mem_properGroups {calls : Calls} {a : AcceptedGroup}
    (ha : a ∈ properGroups (calls.accepted reg)) :
    BoundInOrder reg a.comparisons (a.text reg).toList (a.values reg) :=
  a.boundInOrder reg (ne_nil_of_mem_properGroups ha)
    fun c hc => hreg c.field (isFilterable_of_mem_accepted (List.mem_filter.1 ha).1 hc)

private theorem boundInOrder_expressions (calls : Calls) :
    BoundInOrder reg ((calls.accepted reg).flatMap (·.comparisons))
      (String.join (Filter.empty.addCalls reg calls).expressions).toList
      (Filter.empty.addCalls reg calls).values := by
  have h := BoundInOrder.flatMap fun a (ha : a ∈ properGroups (calls.accepted reg)) =>
    boundInOrder_of_mem_properGroups hreg ha
  rw [flatMap_properGroups (f := AcceptedGroup.comparisons) fun _ => rfl,
    flatMap_properGroups (f := AcceptedGroup.values reg) fun _ => rfl] at h
  rw [Filter.addCalls_eq, Filter.expressions_addAccepted, String.toList_join]
  simpa [Filter.empty, Filter.expressions, Filter.addAccepted, List.flatMap_map] using h

private theorem boundInOrder_filterClause (calls : Calls) (join : Join) :
    BoundInOrder reg ((calls.accepted reg).flatMap (·.comparisons))
      ((" " ++ join.word ++ " ").intercalate (Filter.empty.addCalls reg calls).expressions).toList
      (Filter.empty.addCalls reg calls).values := by
  have h := BoundInOrder.intercalate (hole_not_mem_join join)
    fun a (ha : a ∈ properGroups (calls.accepted reg)) => boundInOrder_of_mem_properGroups hreg ha
  rw [flatMap_properGroups (f := AcceptedGroup.comparisons) fun _ => rfl,
    flatMap_properGroups (f := AcceptedGroup.values reg) fun _ => rfl] at h
  rw [Filter.addCalls_eq, Filter.expressions_addAccepted, String.toList_intercalate]
  simpa [Filter.empty, Filter.expressions, Filter.addAccepted, Function.comp_def] using h

end

end ParamQuery
