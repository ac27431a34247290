import ParamQuery.Comparison
import ParamQuery.Proofs.Text.Trim

/-!
# The parts of a written comparison

A field, an operator and a value, none of whose characters belongs to an operator, are read back as they were
written, up to the white space around them (`parse?_trim_written`).  Without a field they are no comparison.

Nothing else is read as a comparison, and no token can be taken apart in two ways (`parse?_exact`), since the operator
is the first of the alternatives that fits (`leadingOperator?_eq_find?`) and what follows it has none of their
characters.
-/

namespace ParamQuery

/-- No character of the text belongs to an operator. -/
def OperatorFree (cs : List Char) : Prop :=
  ∀ c ∈ cs, Comparison.isOperatorChar c = false

instance (cs : List Char) : Decidable (OperatorFree cs) :=
  List.decidableBAll _ cs

theorem OperatorFree.of_append {as bs : List Char} (h : OperatorFree (as ++ bs)) :
    OperatorFree as ∧ OperatorFree bs :=
  ⟨fun c hc => h c (List.mem_append_left _ hc), fun c hc => h c (List.mem_append_right _ hc)⟩

theorem OperatorFree.append {as bs : List Char} (ha : OperatorFree as) (hb : OperatorFree bs) :
    OperatorFree (as ++ bs) :=
  fun c hc => (List.mem_append.1 hc).elim (ha c) (hb c)

theorem OperatorFree.of_blank {cs : List Char} (h : Text.Blank cs) : OperatorFree cs := by
  intro c hc
  have hblank := h c hc
  rw [← Bool.not_eq_true]
  intro hop
  simp only [Comparison.isOperatorChar, Bool.or_eq_true, decide_eq_true_eq] at hop
  rcases hop with (rfl | rfl) | rfl <;> exact absurd hblank (by decide)

theorem Operator.symbol_not_blank (op : Operator) : ∀ c ∈ op.symbol.toList, Text.isBlank c = false := by
  have hall : op.symbol.toList.all (!Text.isBlank ·) = true := by cases op <;> decide
  intro c hc
  simpa using List.all_eq_true.1 hall c hc

theorem Operator.symbol_ne_nil (op : Operator) : op.symbol.toList ≠ [] := by
  cases op <;> decide

/-- The operators in the order in which they are tried, each before those that it starts with. -/
def Operator.alternatives : List Operator :=
  [.ne, .le, .ge, .lt, .gt, .eq]

namespace Comparison

private theorem dropWhile_symbol (op : Operator) (cs : List Char) :
    (op.symbol.toList ++ cs).dropWhile (!isOperatorChar ·) = op.symbol.toList ++ cs := by
  cases op <;> rfl

private theorem takeWhile_symbol (op : Operator) (cs : List Char) :
    (op.symbol.toList ++ cs).takeWhile (!isOperatorChar ·) = [] := by
  cases op <;> rfl

theorem leadingOperator?_symbol (op : Operator) {cs : List Char} (h : OperatorFree cs) :
    leadingOperator? (op.symbol.toList ++ cs) = some (op, cs) := by
  cases cs with
  | nil => cases op <;> rfl
  | cons c cs =>
    have hc := h c (by simp)
    simp only [isOperatorChar, Bool.or_eq_false_iff, decide_eq_false_iff_not] at hc
    obtain ⟨⟨-, hgt⟩, heq⟩ := hc
    cases op with
    | ne => rfl
    | le => rfl
    | ge => rfl
    | lt => simp [Operator.symbol, leadingOperator?, hgt, heq]
    | gt => simp [Operator.symbol, leadingOperator?, heq]
    | eq => rfl

theorem parse?_written {field value : List Char} (op : Operator) (hf : OperatorFree field)
    (hv : OperatorFree value) :
    parse? (String.ofList (field ++ op.symbol.toList ++ value)) =
      if field = [] then none
      else some ⟨Text.trim (String.ofList field), op, Text.trim (String.ofList value)⟩ := by
  have hpos : ∀ c ∈ field, (!isOperatorChar c) = true := fun c hc => by simp [hf c hc]
  have hany : value.any isOperatorChar = false := by
    rw [List.any_eq_false]
    intro c hc
    simp [hv c hc]
  unfold parse?
  rw [String.toList_ofList, List.append_assoc, List.takeWhile_append_of_pos hpos,
    List.dropWhile_append_of_pos hpos, takeWhile_symbol, dropWhile_symbol, List.append_nil,
    leadingOperator?_symbol op hv]
  simp [hany]

theorem parse?_trim_written {field value : String} (op : Operator) (hf : OperatorFree field.toList)
    (hv : OperatorFree value.toList) :
    parse? (Text.trim (field ++ op.symbol ++ value)) =
      if Text.trim field = "" then none else some ⟨Text.trim field, op, Text.trim value⟩ := by
  -- Trimming the token takes white space from the front of the field and from the back of the value only, and what
  -- is left of either at its other end goes when the part itself is trimmed.
  obtain ⟨p, hp, hfield, hhead⟩ := Text.exists_blank_append_trimStart field.toList
  obtain ⟨q, hq, hvalue, hlast⟩ := Text.exists_trimEnd_append_blank value.toList
  have htight := Text.Tight.append_append op.symbol_ne_nil op.symbol_not_blank hhead hlast
  have htoken : (field ++ op.symbol ++ value).toList =
      p ++ (Text.trimStart field.toList ++ op.symbol.toList ++ Text.trimEnd value.toList) ++ q := by
    rw [String.toList_append, String.toList_append]
    conv => lhs; rw [hfield, hvalue]
    simp only [List.append_assoc]
  have htrimField : Text.trim (String.ofList (Text.trimStart field.toList)) = Text.trim field := by
    have h := Text.trim_ofList_blank_around hp Text.Blank.nil (Text.trimStart field.toList)
    rw [List.append_nil, ← hfield, String.ofList_toList] at h
    exact h.symm
  have htrimValue : Text.trim (String.ofList (Text.trimEnd value.toList)) = Text.trim value := by
    have h := Text.trim_ofList_blank_around Text.Blank.nil hq (Text.trimEnd value.toList)
    rw [List.nil_append, ← hvalue, String.ofList_toList] at h
    exact h.symm
  rw [hfield] at hf
  rw [hvalue] at hv
  rw [Text.trim_of_toList_eq hp htight hq htoken, parse?_written op hf.of_append.2 hv.of_append.1, htrimField,
    htrimValue]
  simp only [Text.trim_eq_empty_iff]

private theorem isPrefixOf_eq_false {p cs : List Char} (h : ∀ rest, cs ≠ p ++ rest) : p.isPrefixOf cs = false := by
  rw [← Bool.not_eq_true, List.isPrefixOf_iff_prefix]
  rintro ⟨rest, rfl⟩
  exact h rest rfl

/-- The operator at the start of a text is the first of the alternatives that the text starts with. -/
theorem leadingOperator?_eq_find? (cs : List Char) :
    leadingOperator? cs = (Operator.alternatives.find? fun op => op.symbol.toList.isPrefixOf cs).map fun op =>
      (op, cs.drop op.symbol.toList.length) := by
  fun_cases leadingOperator? cs with
  | case1 rest => rfl
  | case2 rest => rfl
  | case3 rest => rfl
  | case4 rest hne hle =>
    have hne' : ['>'].isPrefixOf rest = false := isPrefixOf_eq_false hne
    have hle' : ['='].isPrefixOf rest = false := isPrefixOf_eq_false hle
    simp [Operator.alternatives, Operator.symbol, hne', hle']
  | case5 rest hge =>
    have hge' : ['='].isPrefixOf rest = false := isPrefixOf_eq_false hge
    simp [Operator.alternatives, Operator.symbol, hge']
  | case6 rest => rfl
  | case7 cs hne hle hge hlt hgt heq =>
    have hnone : Operator.alternatives.find? (fun op => op.symbol.toList.isPrefixOf cs) = none := by
      rw [List.find?_eq_none]
      intro op _
      rw [Bool.not_eq_true]
      cases op with
      | ne => exact isPrefixOf_eq_false hne
      | le => exact isPrefixOf_eq_false hle
      | ge => exact isPrefixOf_eq_false hge
      | lt => exact isPrefixOf_eq_false hlt
      | gt => exact isPrefixOf_eq_false hgt
      | eq => exact isPrefixOf_eq_false heq
    rw [hnone]
    rfl

theorem eq_append_of_leadingOperator? {cs rest : List Char} {op : Operator}
    (h : leadingOperator? cs = some (op, rest)) : cs = op.symbol.toList ++ rest := by
  rw [leadingOperator?_eq_find?, Option.map_eq_some_iff] at h
  obtain ⟨op', hfind, hpair⟩ := h
  obtain ⟨rfl, rfl⟩ := Prod.mk.inj hpair
  have hprefix := List.find?_some hfind
  rw [List.isPrefixOf_iff_prefix, List.prefix_iff_eq_append] at hprefix
  exact hprefix.symm

/-- The token is made of a field, an operator and a value that have no character of an operator; only the value may be
missing. -/
structure Written (token field : String) (op : Operator) (value : String) : Prop where
  token_eq : token = field ++ op.symbol ++ value
  field_ne_empty : field ≠ ""
  field_free : OperatorFree field.toList
  value_free : OperatorFree value.toList

namespace Written

variable {token field value : String} {op : Operator}

/-- The parts can be found again in the token: the field in front of the first character of an operator, the operator
there, and the value behind it. -/
theorem found (h : Written token field op value) :
    token.toList.takeWhile (!isOperatorChar ·) = field.toList ∧
      leadingOperator? (token.toList.dropWhile (!isOperatorChar ·)) = some (op, value.toList) := by
  have hpos : ∀ c ∈ field.toList, (!isOperatorChar c) = true := fun c hc => by simp [h.field_free c hc]
  rw [h.token_eq, String.toList_append, String.toList_append, List.append_assoc,
    List.takeWhile_append_of_pos hpos, List.dropWhile_append_of_pos hpos, takeWhile_symbol, dropWhile_symbol,
    leadingOperator?_symbol op h.value_free, List.append_nil]
  exact ⟨rfl, rfl⟩

theorem unique {field' value' : String} {op' : Operator} (h : Written token field op value)
    (h' : Written token field' op' value') : field = field' ∧ op = op' ∧ value = value' := by
  obtain ⟨hfield, hrest⟩ := h.found
  obtain ⟨hfield', hrest'⟩ := h'.found
  have hparts : (op, value.toList) = (op', value'.toList) := Option.some.inj (hrest.symm.trans hrest')
  obtain ⟨hop, hvalue⟩ := Prod.mk.inj hparts
  exact ⟨String.toList_inj.1 (hfield.symm.trans hfield'), hop, String.toList_inj.1 hvalue⟩

theorem parse?_eq (h : Written token field op value) :
    parse? token = some ⟨Text.trim field, op, Text.trim value⟩ := by
  have hread := parse?_written op h.field_free h.value_free
  have hfield : field.toList ≠ [] := fun hnil => h.field_ne_empty (String.toList_eq_nil_iff.1 hnil)
  have htoken : String.ofList (field.toList ++ op.symbol.toList ++ value.toList) = token := by
    rw [h.token_eq, ← String.toList_append, ← String.toList_append, String.ofList_toList]
  rw [htoken, if_neg hfield, String.ofList_toList, String.ofList_toList] at hread
  exact hread

end Written

theorem exists_written_of_parse? {token : String} {c : Comparison} (h : parse? token = some c) :
    ∃ field value, Written token field c.op value ∧ c.field = Text.trim field ∧ c.value = Text.trim value := by
  unfold parse? at h
  split at h
  · next op value hop =>
    simp only at h
    split at h
    · cases h
    · next hnone =>
      simp only [List.isEmpty_iff, not_or, Bool.not_eq_true] at hnone
      obtain ⟨hfield, hvalue⟩ := hnone
      obtain rfl := Option.some.inj h
      refine ⟨_, _, ⟨?token_eq, ?field_ne_empty, ?field_free, ?value_free⟩, rfl, rfl⟩
      case token_eq =>
        rw [← String.toList_inj, String.toList_append, String.toList_append, String.toList_ofList,
          String.toList_ofList, List.append_assoc, ← eq_append_of_leadingOperator? hop,
          List.takeWhile_append_dropWhile]
      case field_ne_empty =>
        exact fun hempty => hfield (String.ofList_eq_empty_iff.1 hempty)
      case field_free =>
        intro c hc
        rw [String.toList_ofList] at hc
        simpa using List.all_eq_true.1 List.all_takeWhile c hc
      case value_free =>
        intro c hc
        rw [String.toList_ofList] at hc
        simpa using List.any_eq_false.1 hvalue c hc
  · cases h

/-- A token is read as a comparison exactly if it is made of a field, an operator and a value, which are then found,
and it is so in one way only. -/
theorem parse?_exact (token : String) :
    (∀ c, parse? token = some c ↔
      ∃ field value, Written token field c.op value ∧ c.field = Text.trim field ∧ c.value = Text.trim value) ∧
    (∀ field op value field' op' value', Written token field op value → Written token field' op' value' →
      field = field' ∧ op = op' ∧ value = value') ∧
    (parse? token = none ↔ ¬ ∃ field op value, Written token field op value) := by
  refine ⟨fun c => ⟨exists_written_of_parse?, ?_⟩, fun _ _ _ _ _ _ h h' => h.unique h', ?_, ?_⟩
  · rintro ⟨field, value, h, hfield, hvalue⟩
    rw [h.parse?_eq, ← hfield, ← hvalue]
  · rintro hnone ⟨field, op, value, h⟩
    rw [h.parse?_eq] at hnone
    cases hnone
  · intro hnever
    rw [Option.eq_none_iff_forall_ne_some]
    intro c hc
    obtain ⟨field, value, h, -⟩ := exists_written_of_parse? hc
    exact hnever ⟨field, c.op, value, h⟩

example : ["a=b=c", "a=<b", "a>>b", "=b", "a b", ""].map parse? = [none, none, none, none, none, none] := by decide

end Comparison

end ParamQuery
