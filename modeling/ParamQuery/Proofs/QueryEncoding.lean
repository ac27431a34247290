import Mathlib.Data.List.Basic
import ParamQuery.Proofs.Number.IntTexts
import ParamQuery.Proofs.Success
import ParamQuery.Proofs.Tokens

/-!
# Queries written as parameters

A `Search` is a query as a caller has it in mind: fields, groups of triples, sort keys and a page.
`Search.params` writes it as parameters, with any white space around the operators.  A search that the registry and
the limits allow for (`Search.Expressible`) is compiled to its own statement (`compile_params`): what is cut at
commas, trimmed, recognized as an operator or as `NULL`, converted and kept within bounds on the way is what was
written.
-/

namespace ParamQuery

/-- The characters that a name or a text value in a parameter may not contain. -/
def separators : List Char :=
  [',', '<', '>', '=']

/-- A text that is not changed by trimming and has no separators. -/
structure PlainText (s : String) : Prop where
  trim_eq : Text.trim s = s
  unseparated : ∀ c ∈ s.toList, c ∉ separators

/-- A name that can stand for itself in any parameter. -/
structure PlainName (name : String) : Prop extends PlainText name where
  ne_empty : name ≠ ""
  no_dash : name.toList.head? ≠ some '-'

instance (s : String) : Decidable (PlainText s) :=
  have : Decidable (∀ c ∈ s.toList, c ∉ separators) := List.decidableBAll _ s.toList
  decidable_of_iff (Text.trim s = s ∧ ∀ c ∈ s.toList, c ∉ separators)
    ⟨fun h => ⟨h.1, h.2⟩, fun h => ⟨h.trim_eq, h.unseparated⟩⟩

instance (name : String) : Decidable (PlainName name) :=
  decidable_of_iff (PlainText name ∧ name ≠ "" ∧ name.toList.head? ≠ some '-')
    ⟨fun h => ⟨h.1, h.2.1, h.2.2⟩, fun h => ⟨h.toPlainText, h.ne_empty, h.no_dash⟩⟩

inductive Literal where
  | null
  | bool (b : Bool)
  | int (n : Int)
  | text (s : String)
  deriving DecidableEq, Repr

namespace Literal

def written : Literal → String
  | null => nullWord
  | bool true => "true"
  | bool false => "false"
  | int n => String.ofList (Number.intDigits n)
  | text s => s

def value : Literal → BoundValue
  | null => .null
  | bool b => .bool b
  | int n => .int n
  | text s => .text s

/-- The operator that compares with the literal in the sense of `op`. -/
def operator (op : Operator) : Literal → SqlOperator
  | null => op.null?.getD (.compare op)
  | _ => .compare op

/-- The literal is a value of the type of the field, which the operator can compare with. -/
def Fits (reg : Registry) (field : String) (op : Operator) : Literal → Prop
  | null => reg.isNullable field = true ∧ (op = .eq ∨ op = .ne)
  | bool _ => reg.type? field = some .boolean
  | int n => reg.type? field = some .integer ∧ Number.Writable n
  | text s => (reg.type? field = none ∨ reg.type? field = some .string) ∧ PlainText s ∧ isNullWord s = false

instance (reg : Registry) (field : String) (op : Operator) : (l : Literal) → Decidable (l.Fits reg field op)
  | null => inferInstanceAs (Decidable (_ ∧ _))
  | bool _ => inferInstanceAs (Decidable (_ = _))
  | int _ => inferInstanceAs (Decidable (_ ∧ _))
  | text _ => inferInstanceAs (Decidable (_ ∧ _))

end Literal

structure Triple where
  field : String
  op : Operator
  literal : Literal
  deriving DecidableEq, Repr

namespace Triple

def comparison (t : Triple) : Comparison :=
  ⟨t.field, t.op, t.literal.written⟩

def condition (t : Triple) : Condition :=
  ⟨t.field, t.literal.operator t.op⟩

def written (gap : String) (t : Triple) : String :=
  (t.field ++ gap) ++ t.op.symbol ++ (gap ++ t.literal.written)

/-- The field may be filtered by, and compared with the literal. -/
def Fits (reg : Registry) (t : Triple) : Prop :=
  reg.isFilterable t.field = true ∧ t.literal.Fits reg t.field t.op

instance (reg : Registry) (t : Triple) : Decidable (t.Fits reg) :=
  inferInstanceAs (Decidable (_ ∧ _))

end Triple

/-- One or more triples. -/
structure TripleGroup where
  head : Triple
  tail : List Triple
  deriving DecidableEq, Repr

namespace TripleGroup

def triples (g : TripleGroup) : List Triple :=
  g.head :: g.tail

def group (join : Join) (g : TripleGroup) : Group :=
  ⟨join, g.head.condition, g.tail.map Triple.condition⟩

def accepted (join : Join) (g : TripleGroup) : AcceptedGroup :=
  ⟨join, g.triples.map Triple.comparison⟩

def written (gap : String) (g : TripleGroup) : String :=
  ",".intercalate (g.triples.map (·.written gap))

end TripleGroup

/-- The token of a sort key. -/
def SortKey.written (k : SortKey) : String :=
  if k.descending then "-" ++ k.field else k.field

structure Search where
  fields : List String
  conjunctions : List TripleGroup
  disjunctions : List TripleGroup
  join : Join
  order : List SortKey
  offset : Int
  limit : Int
  deriving DecidableEq, Repr

namespace Search

def triples (q : Search) : List Triple :=
  (q.conjunctions ++ q.disjunctions).flatMap TripleGroup.triples

def params (gap : String) (q : Search) : Params :=
  [("fields", .text (",".intercalate q.fields)),
    ("whereAnd", .list ((q.conjunctions.map (·.written gap)).map .text)),
    ("whereOr", .list ((q.disjunctions.map (·.written gap)).map .text)),
    ("whereJoin", .text q.join.word),
    ("orderBy", .text (",".intercalate (q.order.map SortKey.written))),
    ("offset", .int q.offset),
    ("limit", .int q.limit)]

/-- The query that is meant. -/
def query (q : Search) : Query where
  select := q.fields
  groups := q.conjunctions.map (·.group .and) ++ q.disjunctions.map (·.group .or)
  values := q.triples.map (·.literal.value)
  join := q.join
  order := q.order
  offset := q.offset
  limit := q.limit

/-- What the registry and the limits allow for, on a page that can be written. -/
structure Expressible (reg : Registry) (limits : Limits) (q : Search) : Prop where
  fields_ne_nil : q.fields ≠ []
  fields_nodup : q.fields.Nodup
  selectable : ∀ name ∈ q.fields, reg.isSelectable name = true
  fits : ∀ t ∈ q.triples, t.Fits reg
  order_nodup : (q.order.map (·.field)).Nodup
  sortable : ∀ k ∈ q.order, reg.isSortable k.field = true
  offset_nonneg : 0 ≤ q.offset
  offset_writable : Number.Writable q.offset
  limit_pos : 1 ≤ q.limit
  limit_le : q.limit ≤ limits.ceiling
  limit_writable : Number.Writable q.limit

end Search

namespace PlainText

theorem operatorFree {s : String} (h : PlainText s) : OperatorFree s.toList := by
  intro c hc
  have hsep := h.unseparated c hc
  simp only [separators, List.mem_cons, List.not_mem_nil, or_false, not_or] at hsep
  simp [Comparison.isOperatorChar, hsep]

theorem comma_not_mem {s : String} (h : PlainText s) : ',' ∉ s.toList :=
  fun hc => h.unseparated ',' hc (by decide)

private theorem of_nullWord : PlainText nullWord := by
  decide +kernel

private theorem of_bool (b : Bool) : PlainText (Literal.bool b).written := by
  cases b <;> decide +kernel

private theorem of_int (n : Int) : PlainText (Literal.int n).written := by
  have hblank : ∀ c ∈ Number.intDigits n, Text.isBlank c = false := by
    intro c hc
    rcases Number.digit_or_minus_of_mem_intDigits hc with hdigit | rfl
    · exact Number.isBlank_of_isDigit hdigit
    · decide
  constructor
  · rw [Text.trim_eq_self_iff, Literal.written, String.toList_ofList]
    exact ⟨fun c hc => hblank c (List.mem_of_mem_head? hc), fun c hc => hblank c (List.mem_of_getLast? hc)⟩
  · intro c hc
    rw [Literal.written, String.toList_ofList] at hc
    rcases Number.digit_or_minus_of_mem_intDigits hc with hdigit | rfl
    · intro hsep
      simp only [separators, List.mem_cons, List.not_mem_nil, or_false] at hsep
      rcases hsep with rfl | rfl | rfl | rfl <;> exact absurd hdigit (by decide)
    · decide

end PlainText

private theorem isNullWord_intDigits (n : Int) : isNullWord (String.ofList (Number.intDigits n)) = false := by
  have hupper : ∀ c ∈ Number.intDigits n, Text.upperChar c = [c] := by
    intro c hc
    rcases Number.digit_or_minus_of_mem_intDigits hc with hdigit | rfl
    · exact Number.upperChar_of_isDigit hdigit
    · decide
  -- The word for `NULL` has an underscore, which is the upper case of no digit and not of the minus.
  have hmem : '_' ∉ Number.intDigits n := by
    intro h
    rcases Number.digit_or_minus_of_mem_intDigits h with hdigit | hminus
    · exact absurd hdigit (by decide)
    · exact absurd hminus (by decide)
  unfold isNullWord
  rw [decide_eq_false_iff_not]
  intro h
  have hchars := congrArg String.toList h
  rw [Text.toList_upper, String.toList_ofList] at hchars
  have hin : '_' ∈ (Number.intDigits n).flatMap Text.upperChar := by
    rw [hchars]
    decide
  obtain ⟨c, hc, hunderscore⟩ := List.mem_flatMap.1 hin
  rw [hupper c hc, List.mem_singleton] at hunderscore
  rw [hunderscore] at hmem
  exact hmem hc

section

variable {reg : Registry} {t : Triple}

theorem Triple.Fits.plainText (h : t.Fits reg) : PlainText t.literal.written := by
  obtain ⟨field, op, literal⟩ := t
  cases literal with
  | null => exact .of_nullWord
  | bool b => exact .of_bool b
  | int n => exact .of_int n
  | text s => exact h.2.2.1

/-- The comparison of a triple is bound to the value of its literal, without a problem. -/
theorem Triple.Fits.bind_comparison (h : t.Fits reg) :
    t.comparison.bind reg = ⟨t.condition, t.literal.value, []⟩ := by
  obtain ⟨field, op, literal⟩ := t
  obtain ⟨-, h⟩ := h
  cases literal with
  | null =>
    obtain ⟨hnullable, hop⟩ := h
    have hnull : isNullWord nullWord = true := by decide +kernel
    simp only [comparison, Comparison.bind, Literal.written, hnull, ↓reduceIte, Comparison.bindNull, hnullable]
    rcases hop with rfl | rfl <;> rfl
  | bool b =>
    have hnull : isNullWord (Literal.bool b).written = false := by cases b <;> decide +kernel
    have hread : isAffirmative (Literal.bool b).written = b := by cases b <;> decide +kernel
    have htype : reg.type? field = some .boolean := h
    simp only [comparison, Comparison.bind, hnull, Bool.false_eq_true, ↓reduceIte, Comparison.bindValue, htype,
      DataType.convert, DataType.convert?_eq, hread]
    rfl
  | int n =>
    obtain ⟨htype, hn⟩ := h
    have hnull : isNullWord (Literal.int n).written = false := isNullWord_intDigits n
    have hread : Number.leadingInt (Literal.int n).written = some n := Number.leadingInt_intDigits hn
    simp only [comparison, Comparison.bind, hnull, Bool.false_eq_true, ↓reduceIte, Comparison.bindValue, htype,
      DataType.convert, DataType.convert?_eq, hread]
    rfl
  | text s =>
    obtain ⟨htype, -, hnull⟩ := h
    have hnull' : isNullWord (Literal.text s).written = false := hnull
    rcases htype with htype | htype <;>
      simp only [comparison, Comparison.bind, hnull', Bool.false_eq_true, ↓reduceIte, Comparison.bindValue, htype,
        DataType.convert, DataType.convert?_eq] <;> rfl

end

private theorem trim_append_blank {s gap : String} (hs : PlainText s) (hgap : Text.Blank gap.toList) :
    Text.trim (s ++ gap) = s := by
  have htight := Text.trim_eq_self_iff.1 hs.trim_eq
  rw [Text.trim_of_toList_eq Text.Blank.nil htight hgap (by simp), String.ofList_toList]

private theorem trim_blank_append {s gap : String} (hs : PlainText s) (hgap : Text.Blank gap.toList) :
    Text.trim (gap ++ s) = s := by
  have htight := Text.trim_eq_self_iff.1 hs.trim_eq
  rw [Text.trim_of_toList_eq hgap htight Text.Blank.nil (by simp), String.ofList_toList]

section

variable {reg : Registry} (hreg : ∀ name ∈ reg.names, PlainName name) {gap : String} (hgap : Text.Blank gap.toList)

include hreg hgap

/-- A written triple is accepted as the comparison that it is. -/
theorem acceptedComparison?_triple {t : Triple} (h : t.Fits reg) :
    acceptedComparison? reg (t.written gap) = some t.comparison := by
  have hname := hreg t.field (Registry.mem_names_of_isFilterable h.1)
  have hleft : OperatorFree (t.field ++ gap).toList := by
    rw [String.toList_append]
    exact hname.operatorFree.append (.of_blank hgap)
  have hright : OperatorFree (gap ++ t.literal.written).toList := by
    rw [String.toList_append]
    exact (OperatorFree.of_blank hgap).append h.plainText.operatorFree
  unfold Triple.written
  rw [acceptedComparison?_written reg t.op hleft hright, trim_append_blank hname.toPlainText hgap,
    trim_blank_append h.plainText hgap, if_pos ⟨hname.ne_empty, h.1⟩]
  rfl

theorem comma_not_mem_triple {t : Triple} (h : t.Fits reg) : ',' ∉ (t.written gap).toList := by
  have hname := hreg t.field (Registry.mem_names_of_isFilterable h.1)
  have hsymbol : ',' ∉ t.op.symbol.toList := by cases t.op <;> decide
  simp [Triple.written, hname.comma_not_mem, h.plainText.comma_not_mem, hsymbol, Text.comma_not_mem_of_blank hgap]

theorem acceptedComparisons_group {g : TripleGroup} (h : ∀ t ∈ g.triples, t.Fits reg) :
    acceptedComparisons reg (g.written gap) = g.triples.map Triple.comparison := by
  have hcommas : ∀ s ∈ g.triples.map (·.written gap), ',' ∉ s.toList := by
    intro s hs
    obtain ⟨t, ht, rfl⟩ := List.mem_map.1 hs
    exact comma_not_mem_triple hreg hgap (h t ht)
  have hne : g.triples.map (·.written gap) ≠ [] := by simp [TripleGroup.triples]
  unfold acceptedComparisons TripleGroup.written
  rw [Text.splitAtCommas_intercalate hne hcommas, List.filterMap_map, ← List.filterMap_eq_map]
  apply List.filterMap_congr
  intro t ht
  simp only [Function.comp_apply]
  exact acceptedComparison?_triple hreg hgap (h t ht)

theorem acceptedGroups_written {gs : List TripleGroup} (h : ∀ g ∈ gs, ∀ t ∈ g.triples, t.Fits reg) (join : Join) :
    acceptedGroups reg join (gs.map (·.written gap)) = gs.map (·.accepted join) := by
  unfold acceptedGroups
  rw [List.map_map]
  apply List.map_congr_left
  intro g hg
  simp [TripleGroup.accepted, acceptedComparisons_group hreg hgap (h g hg)]

end

namespace TripleGroup

variable {reg : Registry} {g : TripleGroup} (h : ∀ t ∈ g.triples, t.Fits reg) (join : Join)

include h

theorem group?_accepted : (g.accepted join).group? reg = some (g.group join) := by
  have hhead := (h g.head (by simp [triples])).bind_comparison
  have htail : ∀ t ∈ g.tail, (t.comparison.bind reg).condition = t.condition := by
    intro t ht
    rw [(h t (by simp [triples, ht])).bind_comparison]
  simp only [accepted, triples, List.map_cons, AcceptedGroup.group?_cons, hhead, group, List.map_map,
    Option.some.injEq, Group.mk.injEq, true_and]
  exact List.map_congr_left htail

theorem values_accepted : (g.accepted join).values reg = g.triples.map (·.literal.value) := by
  simp only [accepted, AcceptedGroup.values, List.map_map]
  apply List.map_congr_left
  intro t ht
  simp [(h t ht).bind_comparison]

theorem problems_accepted : (g.accepted join).problems reg = [] := by
  simp only [accepted, AcceptedGroup.problems, List.flatMap_eq_nil_iff, List.forall_mem_map]
  intro t ht
  rw [(h t ht).bind_comparison]

end TripleGroup

theorem Filter.addAccepted_written (f : Filter) {reg : Registry} {gs : List TripleGroup}
    (h : ∀ g ∈ gs, ∀ t ∈ g.triples, t.Fits reg) (join : Join) :
    f.addAccepted reg (gs.map (·.accepted join)) = { f with
      groups := f.groups ++ gs.map (·.group join)
      values := f.values ++ (gs.flatMap TripleGroup.triples).map (·.literal.value) } := by
  induction gs generalizing f with
  | nil => simp [addAccepted]
  | cons g gs ih =>
    have hg := h g (by simp)
    have hone : f.addAccepted reg [g.accepted join] = { f with
        groups := f.groups ++ [g.group join]
        values := f.values ++ g.triples.map (·.literal.value) } := by
      simp [addAccepted, TripleGroup.group?_accepted hg, TripleGroup.values_accepted hg,
        TripleGroup.problems_accepted hg]
    have hsplit : (g :: gs).map (·.accepted join) = [g.accepted join] ++ gs.map (·.accepted join) := rfl
    rw [hsplit, ← addAccepted_addAccepted, hone, ih _ fun g' hg' => h g' (by simp [hg'])]
    simp

private theorem SortKey.written_plain {k : SortKey} (h : PlainName k.field) :
    Text.trim k.written = k.written ∧ k.written ≠ "" ∧ ',' ∉ k.written.toList ∧
      SortKey.entry k.written = some ⟨k.field, k⟩ := by
  obtain ⟨field, descending⟩ := k
  cases descending with
  | false =>
    refine ⟨h.trim_eq, h.ne_empty, h.comma_not_mem, ?_⟩
    have hkey : SortKey.ofToken field = ⟨field, false⟩ := by
      unfold SortKey.ofToken
      split
      · next cs hcs => exact absurd (by simp [hcs]) h.no_dash
      · rfl
    show some (Entry.mk (SortKey.ofToken field).field (SortKey.ofToken field)) = _
    rw [hkey]
  | true =>
    have hfield := Text.trim_eq_self_iff.1 h.trim_eq
    have hchars : ("-" ++ field).toList = '-' :: field.toList := by simp
    refine ⟨Text.trim_eq_self_iff.2 ?_, ?_, ?_, ?_⟩
    · show Text.Tight ("-" ++ field).toList
      rw [hchars]
      exact Text.Tight.cons (by decide) hfield
    · simp [written]
    · simp [written, h.comma_not_mem]
    · have hkey : SortKey.ofToken ("-" ++ field) = ⟨field, true⟩ := by
        unfold SortKey.ofToken
        rw [hchars]
        show SortKey.mk (Text.trim (String.ofList field.toList)) true = _
        rw [String.ofList_toList, h.trim_eq]
      show some (Entry.mk (SortKey.ofToken ("-" ++ field)).field (SortKey.ofToken ("-" ++ field))) = _
      rw [hkey]

section

variable {reg : Registry} (hreg : ∀ name ∈ reg.names, PlainName name) {limits : Limits} {q : Search}
  (hq : q.Expressible reg limits)

include hreg hq

private theorem fields_tokens : (RawValue.text (",".intercalate q.fields)).tokens = .ok q.fields := by
  apply RawValue.tokens_intercalate
  intro name hname
  have hplain := hreg name (Registry.isSelectable_iff.1 (hq.selectable name hname))
  exact ⟨hplain.trim_eq, hplain.ne_empty, hplain.comma_not_mem⟩

private theorem selected_fields : reg.selected q.fields = q.fields := by
  have hfirst : selectFirst reg.isSelectable fieldEntry (q.fields.map id) = q.fields.map id := by
    apply selectFirst_map (e := fun name => ⟨name, name⟩)
    · intro name hname
      have hallowed := hq.selectable name hname
      have hplain := hreg name (Registry.isSelectable_iff.1 hallowed)
      exact ⟨hplain.trim_eq, hplain.ne_empty, rfl, hallowed⟩
    · simpa using hq.fields_nodup
  rw [List.map_id] at hfirst
  unfold Registry.selected
  rw [reg.contains_names]
  rw [hfirst]
  simp [hq.fields_ne_nil]

private theorem order_tokens :
    (RawValue.text (",".intercalate (q.order.map SortKey.written))).tokens =
      .ok (q.order.map SortKey.written) := by
  apply RawValue.tokens_intercalate
  intro token htoken
  obtain ⟨k, hk, rfl⟩ := List.mem_map.1 htoken
  obtain ⟨htrim, hne, hcomma, -⟩ := k.written_plain (hreg k.field (Registry.mem_names_of_isSortable (hq.sortable k hk)))
  exact ⟨htrim, hne, hcomma⟩

private theorem sortKeys_order : reg.sortKeys (q.order.map SortKey.written) = q.order := by
  have hfirst : selectFirst reg.isSortable SortKey.entry (q.order.map SortKey.written) = q.order.map id := by
    apply selectFirst_map (e := fun k => ⟨k.field, k⟩)
    · intro k hk
      have hallowed := hq.sortable k hk
      obtain ⟨htrim, hne, -, hentry⟩ := k.written_plain (hreg k.field (Registry.mem_names_of_isSortable hallowed))
      exact ⟨htrim, hne, hentry, hallowed⟩
    · exact hq.order_nodup
  rw [List.map_id] at hfirst
  exact hfirst

private theorem filter_groups {gap : String} (hgap : Text.Blank gap.toList) {req : Request}
    (hc : req.conjunctions = trimmed (q.conjunctions.map (·.written gap)))
    (hd : req.disjunctions = trimmed (q.disjunctions.map (·.written gap))) :
    req.filter reg = ⟨q.query.groups, q.query.values, []⟩ := by
  have hconj : ∀ g ∈ q.conjunctions, ∀ t ∈ g.triples, t.Fits reg :=
    fun g hg t ht => hq.fits t (List.mem_flatMap.2 ⟨g, List.mem_append_left _ hg, ht⟩)
  have hdisj : ∀ g ∈ q.disjunctions, ∀ t ∈ g.triples, t.Fits reg :=
    fun g hg t ht => hq.fits t (List.mem_flatMap.2 ⟨g, List.mem_append_right _ hg, ht⟩)
  rw [Request.filter_of_trimmed hc hd reg, acceptedGroups_written hreg hgap hconj,
    acceptedGroups_written hreg hgap hdisj, ← Filter.addAccepted_addAccepted,
    Filter.addAccepted_written Filter.empty hconj, Filter.addAccepted_written _ hdisj]
  simp [Filter.empty, Search.query, Search.triples]

end

theorem Limits.offset_int {n : Int} (h : 0 ≤ n) : Limits.offset (.int n) = n := by
  have hmax : max 0 n = n := by omega
  simp [offset, RawValue.bounded, clamp, hmax]

theorem Limits.limit_int {l : Limits} {n : Int} (hpos : 1 ≤ n) (hle : n ≤ l.ceiling) : l.limit (.int n) = n := by
  have hclamp : min (max 1 n) l.ceiling = n := by omega
  simp [limit, RawValue.bounded, clamp, hclamp]

theorem readJoin_word (join : Join) : readJoin [join.word] = (join, none) := by
  cases join <;> decide +kernel

/-- A search that can be expressed is compiled to the statement of what was meant, however it is spaced. -/
theorem compile_params {reg : Registry} (hreg : ∀ name ∈ reg.names, PlainName name) {limits : Limits} {q : Search}
    (hq : q.Expressible reg limits) {gap : String} (hgap : Text.Blank gap.toList) :
    ∃ s, compile reg limits (q.params gap) = .ok s ∧ q.query.statement = .ok s ∧
      s.select.items = q.fields ∧
      s.filter.items = q.conjunctions.map (fun g => (g.group .and).text) ++
        q.disjunctions.map (fun g => (g.group .or).text) ∧
      s.values = q.triples.map (·.literal.value) ∧ s.join = q.join.word ∧
      s.order.items = q.order.map SortKey.text ∧ s.offset = q.offset ∧ s.limit = q.limit := by
  let req : Request := {
    fields := q.fields
    conjunctions := trimmed (q.conjunctions.map (·.written gap)) ++ []
    disjunctions := trimmed (q.disjunctions.map (·.written gap))
    join := q.join
    joinProblem := none }
  have hjoin : (RawValue.text q.join.word).tokens = .ok [q.join.word] := by cases q.join <;> decide +kernel
  have hreq : Request.ofParams (q.params gap) = .ok req := by
    refine Request.ofParams_eq_ok_iff.2 ⟨q.fields, _, [], _, [q.join.word], fields_tokens hreg hq,
      RawValue.groups_list _, rfl, RawValue.groups_list _, hjoin, ?_⟩
    rw [readJoin_word]
  have hfilter : req.filter reg = ⟨q.query.groups, q.query.values, []⟩ :=
    filter_groups hreg hq hgap (List.append_nil _) rfl
  have hquery : req.query reg limits (q.params gap) (q.order.map SortKey.written) = q.query := by
    have hoffset : Limits.offset ((q.params gap).get "offset") = q.offset := Limits.offset_int hq.offset_nonneg
    have hlimit : limits.limit ((q.params gap).get "limit") = q.limit := Limits.limit_int hq.limit_pos hq.limit_le
    unfold Request.query
    rw [hfilter, hoffset, hlimit, sortKeys_order hreg hq]
    -- The fields of `req` are those of `q` by definition only.
    show Query.mk (reg.selected q.fields) _ _ _ _ _ _ = _
    rw [selected_fields hreg hq]
    rfl
  let page := "LIMIT " ++ String.ofList (Number.intDigits q.offset) ++ "," ++
    String.ofList (Number.intDigits q.limit)
  have hpage : Statement.limitText? q.query.offset q.query.limit = some page := by
    show Statement.limitText? q.offset q.limit = some page
    unfold Statement.limitText?
    rw [Number.intText?_of_writable hq.offset_writable, Number.intText?_of_writable hq.limit_writable]
    rfl
  have hs := (Query.statement_eq_ok_iff (q := q.query)).2 ⟨page, hpage, rfl⟩
  have hcompile : ∀ s, q.query.statement = .ok s → compile reg limits (q.params gap) = .ok s := by
    intro s hs
    rw [← hquery] at hs
    exact compile_eq_ok_iff.2 ⟨req, _, hreq, order_tokens hreg hq, rfl, by rw [hfilter], hs⟩
  refine ⟨_, hcompile _ hs, hs, rfl, ?_, rfl, rfl, rfl, rfl, rfl⟩
  simp [Query.filterClause, Search.query, Function.comp_def]

/-- Every kind of literal, with spaces around the operators. -/
def peopleSearch : Search where
  fields := ["name", "id"]
  conjunctions := [⟨⟨"age", .ge, .int (-21)⟩, [⟨"name", .ne, .text "Zoë ?"⟩]⟩, ⟨⟨"name", .eq, .text ""⟩, []⟩]
  disjunctions := [⟨⟨"name", .eq, .null⟩, [⟨"active", .lt, .bool true⟩]⟩]
  join := .or
  order := [⟨"age", true⟩, ⟨"name", false⟩]
  offset := 40
  limit := 10

theorem compile_params_people :
    ∃ s, compile people ⟨20, 20⟩ (peopleSearch.params " ") = .ok s ∧
      s.filter.items = ["((age >= ?) AND (name <> ?))", "(name = ?)", "((name IS ?) OR (active < ?))"] ∧
      s.values = [.int (-21), .text "Zoë ?", .text "", .null, .bool true] := by
  have hnames : ∀ name ∈ people.names, PlainName name := by decide +kernel
  have hsearch : peopleSearch.Expressible people ⟨20, 20⟩ := by
    constructor <;> decide +kernel
  have hgap : Text.Blank " ".toList := by decide +kernel
  obtain ⟨s, hs, -, -, hfilter, hvalues, -⟩ := compile_params hnames hsearch hgap
  exact ⟨s, hs, hfilter.trans (by decide +kernel), hvalues⟩

end ParamQuery
