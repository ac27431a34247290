import ParamQuery.Proofs.QueryEncoding
import ParamQuery.Proofs.TokenForms

/-!
# Names that a request can reach

A registry takes any text for a name, but not every name can be written in a parameter.  Tokens are trimmed and have
no commas, the field of a comparison has no character of an operator either, and a dash in front of a sort key says
that it is descending.  A name that withstands all this can be reached, by a parameter that is hardly more than the
name, and no other name can, by any parameter at all (`reachable_names`).
-/

namespace ParamQuery

section

variable {α : Type} {allowed : String → Bool} {read : String → Option (Entry α)}

theorem exists_token_of_mem_selectFirst {tokens : List String} {item : α}
    (h : item ∈ selectFirst allowed read tokens) :
    ∃ token ∈ tokens, ∃ e, readToken? read token = some e ∧ allowed e.field = true ∧ e.item = item := by
  rw [selectFirst_eq] at h
  obtain ⟨e, he, hitem⟩ := List.mem_map.1 h
  obtain ⟨hmem, hallowed⟩ := List.mem_filter.1 (mem_of_mem_firstOnFields he)
  obtain ⟨token, htoken, hread⟩ := List.mem_filterMap.1 hmem
  exact ⟨token, htoken, e, hread, hallowed, hitem⟩

theorem mem_selectFirst_singleton {token : String} {e : Entry α} (hread : readToken? read token = some e)
    (hallowed : allowed e.field = true) : e.item ∈ selectFirst allowed read [token] := by
  have hentries : entries read [token] = [e] := List.filterMap_cons_some hread
  have hfilter : [e].filter (fun e => allowed e.field) = [e] := List.filter_cons_of_pos hallowed
  rw [selectFirst_eq, hentries, hfilter]
  exact List.mem_cons_self

/-- Tokens in normal form are read as they stand. -/
theorem IsToken.readToken?_eq {token : String} (h : IsToken token) : readToken? read token = read token := by
  rw [readToken?, h.trim_eq, if_neg h.ne_empty]

/-- The items that tokens of a parameter may select are those that a single token may select. -/
theorem exists_mem_selectFirst_iff {item : α} :
    (∃ value tokens, RawValue.tokens value = .ok tokens ∧ item ∈ selectFirst allowed read tokens) ↔
      ∃ token e, IsToken token ∧ read token = some e ∧ allowed e.field = true ∧ e.item = item := by
  constructor
  · rintro ⟨value, tokens, htokens, hitem⟩
    obtain ⟨texts, -, rfl⟩ := RawValue.tokens_eq_ok_iff.1 htokens
    obtain ⟨token, htoken, e, hread, hallowed, heq⟩ := exists_token_of_mem_selectFirst hitem
    have hnormal := isToken_of_mem_tokensOf htoken
    rw [hnormal.readToken?_eq] at hread
    exact ⟨token, e, hnormal, hread, hallowed, heq⟩
  · rintro ⟨token, e, hnormal, hread, hallowed, rfl⟩
    have htokens : tokensOf [token] = [token] := tokensOf_eq_self fun s hs => List.mem_singleton.1 hs ▸ hnormal
    refine ⟨.text token, [token], RawValue.tokens_eq_ok_iff.2 ⟨[token], .text token, htokens.symm⟩, ?_⟩
    exact mem_selectFirst_singleton (hnormal.readToken?_eq.trans hread) hallowed

end

namespace SortKey

variable {token name : String}

/-- A token without a dash in front names a field as it stands. -/
theorem ofToken_eq_ascending_iff : ofToken token = ⟨name, false⟩ ↔ token = name ∧ name.toList.head? ≠ some '-' := by
  unfold ofToken
  split
  · next cs hcs =>
    constructor
    · intro h
      cases h
    · rintro ⟨rfl, hdash⟩
      rw [hcs] at hdash
      exact absurd rfl hdash
  · next hdash =>
    simp only [mk.injEq, and_true]
    constructor
    · rintro rfl
      refine ⟨rfl, fun hhead => ?_⟩
      obtain ⟨cs, hcs⟩ := List.head?_eq_some_iff.1 hhead
      exact hdash cs hcs
    · exact And.left

/-- Behind a dash the white space does not count. -/
theorem ofToken_eq_descending_iff :
    ofToken token = ⟨name, true⟩ ↔ ∃ cs, token.toList = '-' :: cs ∧ Text.trim (String.ofList cs) = name := by
  unfold ofToken
  split
  · next cs hcs => simp [hcs]
  · next hdash =>
    constructor
    · intro h
      cases h
    · rintro ⟨cs, hcs, -⟩
      exact absurd hcs (hdash cs)

end SortKey

/-- The dash in front of a name is all that has to be added to sort by it in descending order. -/
theorem isToken_dash_append {name : String} (htrim : Text.trim name = name) (hcomma : ',' ∉ name.toList) :
    IsToken ("-" ++ name) := by
  have hchars : ("-" ++ name).toList = '-' :: name.toList := by simp
  refine ⟨⟨?ne_empty, ?trim_eq⟩, ?comma_not_mem⟩
  case ne_empty => simp
  case trim_eq =>
    rw [Text.trim_eq_self_iff, hchars]
    exact Text.Tight.cons (by decide) (Text.trim_eq_self_iff.1 htrim)
  case comma_not_mem => simp [hchars, hcomma]

section

variable {reg : Registry} {name : String}

/-- The conditions of a filter are on the fields of the accepted comparisons. -/
theorem exists_condition_iff {join : Join} {groups : List String} :
    (∃ c ∈ (Filter.empty.addGroups reg join groups).conditions, c.field = name) ↔
      ∃ group ∈ groups, ∃ c ∈ acceptedComparisons reg group, c.field = name := by
  have hconditions : (Filter.empty.addGroups reg join groups).conditions =
      (acceptedGroups reg join groups).flatMap (·.conditions reg) := by
    rw [Filter.addGroups_eq]
    exact flatMap_conditions_filterMap_group? reg _
  rw [hconditions]
  simp only [acceptedGroups, List.mem_flatMap, List.mem_map, AcceptedGroup.conditions]
  constructor
  · rintro ⟨_, ⟨_, ⟨group, hgroup, rfl⟩, ⟨c, hc, rfl⟩⟩, hfield⟩
    exact ⟨group, hgroup, c, hc, c.bind_condition_field reg ▸ hfield⟩
  · rintro ⟨group, hgroup, c, hc, hfield⟩
    exact ⟨_, ⟨_, ⟨group, hgroup, rfl⟩, ⟨c, hc, rfl⟩⟩, (c.bind_condition_field reg).trans hfield⟩

/-- The field of an accepted comparison has been trimmed and cut out between separators. -/
theorem plain_of_mem_acceptedComparisons {group : String} {c : Comparison} (h : c ∈ acceptedComparisons reg group) :
    PlainText c.field ∧ c.field ≠ "" := by
  obtain ⟨token, htoken, haccepted⟩ := List.mem_filterMap.1 h
  obtain ⟨hparse, -⟩ := acceptedComparison?_eq_some.1 haccepted
  obtain ⟨field, value, hwritten, hfield, -⟩ := Comparison.exists_written_of_parse? hparse
  have hagain := Comparison.parse?_trim_written c.op hwritten.field_free hwritten.value_free
  rw [← hwritten.token_eq, Text.trim_trim, hparse, ← hfield] at hagain
  refine ⟨⟨?trim_eq, fun d hd hseparator => ?unseparated⟩, fun hempty => ?ne_empty⟩
  case trim_eq => rw [hfield, Text.trim_trim]
  case unseparated =>
    rw [hfield] at hd
    have hd' : d ∈ field.toList := Text.mem_of_mem_trim hd
    have hfree := hwritten.field_free d hd'
    have hmem : d ∈ token.toList := by
      apply Text.mem_of_mem_trim
      rw [hwritten.token_eq, String.toList_append, String.toList_append]
      exact List.mem_append_left _ (List.mem_append_left _ hd')
    simp only [separators, List.mem_cons, List.not_mem_nil, or_false] at hseparator
    rcases hseparator with rfl | rfl | rfl | rfl
    · exact Text.comma_not_mem_of_mem_splitAtCommas htoken hmem
    · exact absurd hfree (by decide)
    · exact absurd hfree (by decide)
    · exact absurd hfree (by decide)
  case ne_empty =>
    rw [if_pos hempty] at hagain
    cases hagain

/-- A name without separators can be compared with the empty text. -/
theorem mem_acceptedComparisons_eq_empty (hfilterable : reg.isFilterable name = true) (hplain : PlainText name)
    (hne : name ≠ "") : ⟨name, .eq, ""⟩ ∈ acceptedComparisons reg (name ++ "=") := by
  have hempty : OperatorFree "".toList := by simp [OperatorFree]
  have hwritten := acceptedComparison?_written reg .eq hplain.operatorFree hempty
  rw [hplain.trim_eq, if_pos ⟨hne, hfilterable⟩, String.append_empty] at hwritten
  have hcomma : ',' ∉ (name ++ "=").toList := by simp [hplain.comma_not_mem]
  rw [acceptedComparisons, Text.splitAtCommas_of_comma_not_mem hcomma]
  exact List.mem_filterMap.2 ⟨_, List.mem_singleton_self _, hwritten⟩

/-- A text with an accepted comparison is not blank, so it is a group when it is passed alone. -/
theorem exists_groups_of_mem_acceptedComparisons {s : String} {c : Comparison}
    (h : c ∈ acceptedComparisons reg s) :
    ∃ groups, (RawValue.text s).groups = .ok groups ∧ ∃ group ∈ groups, c ∈ acceptedComparisons reg group := by
  have hblank : Text.trim s ≠ "" := by
    intro hblank
    rw [acceptedComparisons_of_blank reg hblank] at h
    cases h
  refine ⟨[Text.trim s], RawValue.groups_eq_ok_iff.2 ⟨[s], .text s, ?_⟩, Text.trim s, List.mem_singleton_self _, ?_⟩
  · simp [trimmed, hblank]
  · rwa [acceptedComparisons_trim]

end

namespace Registry

/-- The parameter has the field selected because it names it. -/
def Selects (reg : Registry) (value : RawValue) (name : String) : Prop :=
  ∃ tokens, value.tokens = .ok tokens ∧ name ∈ selectFirst reg.isSelectable fieldEntry tokens

/-- The parameter, whose groups are joined with `join` inside, has the field compared. -/
def Compares (reg : Registry) (join : Join) (value : RawValue) (name : String) : Prop :=
  ∃ groups, value.groups = .ok groups ∧ ∃ c ∈ (Filter.empty.addGroups reg join groups).conditions, c.field = name

/-- The parameter has the rows sorted by the key. -/
def Sorts (reg : Registry) (value : RawValue) (key : SortKey) : Prop :=
  ∃ tokens, value.tokens = .ok tokens ∧ key ∈ reg.sortKeys tokens

variable {reg : Registry} {name : String}

theorem exists_selects_iff : (∃ value, reg.Selects value name) ↔ name ∈ reg.names ∧ IsToken name := by
  unfold Selects
  rw [exists_mem_selectFirst_iff, ← isSelectable_iff]
  constructor
  · rintro ⟨token, e, hnormal, hread, hallowed, rfl⟩
    cases hread
    exact ⟨hallowed, hnormal⟩
  · rintro ⟨hallowed, hnormal⟩
    exact ⟨name, ⟨name, name⟩, hnormal, rfl, hallowed, rfl⟩

theorem exists_compares_iff (join : Join) :
    (∃ value, reg.Compares join value name) ↔ reg.isFilterable name = true ∧ PlainText name ∧ name ≠ "" := by
  unfold Compares
  simp only [exists_condition_iff]
  constructor
  · rintro ⟨value, groups, -, group, -, c, hc, rfl⟩
    exact ⟨isFilterable_of_mem_acceptedComparisons hc, plain_of_mem_acceptedComparisons hc⟩
  · rintro ⟨hfilterable, hplain, hne⟩
    obtain ⟨groups, hgroups, group, hgroup, hc⟩ :=
      exists_groups_of_mem_acceptedComparisons (mem_acceptedComparisons_eq_empty hfilterable hplain hne)
    exact ⟨_, groups, hgroups, group, hgroup, _, hc, rfl⟩

/-- The sort keys that a parameter may name are those that a single token may name. -/
theorem exists_sorts_iff {key : SortKey} :
    (∃ value, reg.Sorts value key) ↔
      reg.isSortable key.field = true ∧ ∃ token, IsToken token ∧ SortKey.ofToken token = key := by
  unfold Sorts sortKeys
  rw [exists_mem_selectFirst_iff]
  constructor
  · rintro ⟨token, e, hnormal, hread, hallowed, rfl⟩
    cases hread
    exact ⟨hallowed, token, hnormal, rfl⟩
  · rintro ⟨hallowed, token, hnormal, rfl⟩
    exact ⟨token, ⟨_, _⟩, hnormal, rfl, hallowed, rfl⟩

theorem exists_sorts_ascending_iff :
    (∃ value, reg.Sorts value ⟨name, false⟩) ↔
      reg.isSortable name = true ∧ IsToken name ∧ name.toList.head? ≠ some '-' := by
  rw [exists_sorts_iff]
  simp only [SortKey.ofToken_eq_ascending_iff]
  constructor
  · rintro ⟨hsortable, token, hnormal, rfl, hdash⟩
    exact ⟨hsortable, hnormal, hdash⟩
  · rintro ⟨hsortable, hnormal, hdash⟩
    exact ⟨hsortable, name, hnormal, rfl, hdash⟩

theorem exists_sorts_descending_iff :
    (∃ value, reg.Sorts value ⟨name, true⟩) ↔
      reg.isSortable name = true ∧ Text.trim name = name ∧ ',' ∉ name.toList := by
  rw [exists_sorts_iff]
  simp only [SortKey.ofToken_eq_descending_iff]
  constructor
  · rintro ⟨hsortable, token, hnormal, cs, hcs, rfl⟩
    refine ⟨hsortable, Text.trim_trim _, fun hcomma => hnormal.comma_not_mem ?_⟩
    rw [hcs]
    have hmem := Text.mem_of_mem_trim hcomma
    rw [String.toList_ofList] at hmem
    exact List.mem_cons_of_mem _ hmem
  · rintro ⟨hsortable, htrim, hcomma⟩
    refine ⟨hsortable, "-" ++ name, isToken_dash_append htrim hcomma, name.toList, by simp, ?_⟩
    rw [String.ofList_toList, htrim]

end Registry

/-- A name can be selected exactly if it is registered, trimmed, not empty and without commas; compared, in either
kind of group, exactly if it may be filtered by, is trimmed and not empty, and has no separators; sorted by, if it may
be, in ascending order exactly if it can stand as a token that opens with no dash, and in descending order exactly if
it is trimmed and without commas. -/
theorem reachable_names (reg : Registry) (name : String) :
    ((∃ value, reg.Selects value name) ↔
      name ∈ reg.names ∧ name ≠ "" ∧ Text.trim name = name ∧ ',' ∉ name.toList) ∧
    (∀ join, (∃ value, reg.Compares join value name) ↔
      reg.isFilterable name = true ∧ name ≠ "" ∧ Text.trim name = name ∧
        ∀ c ∈ [',', '<', '>', '='], c ∉ name.toList) ∧
    ((∃ value, reg.Sorts value ⟨name, false⟩) ↔
      reg.isSortable name = true ∧ name ≠ "" ∧ Text.trim name = name ∧ ',' ∉ name.toList ∧
        name.toList.head? ≠ some '-') ∧
    ((∃ value, reg.Sorts value ⟨name, true⟩) ↔
      reg.isSortable name = true ∧ Text.trim name = name ∧ ',' ∉ name.toList) := by
  have htoken : IsToken name ↔ name ≠ "" ∧ Text.trim name = name ∧ ',' ∉ name.toList :=
    ⟨fun h => ⟨h.ne_empty, h.trim_eq, h.comma_not_mem⟩, fun h => ⟨⟨h.1, h.2.1⟩, h.2.2⟩⟩
  have hplain : PlainText name ∧ name ≠ "" ↔
      name ≠ "" ∧ Text.trim name = name ∧ ∀ c ∈ [',', '<', '>', '='], c ∉ name.toList :=
    ⟨fun h => ⟨h.2, h.1.trim_eq, fun c hc hmem => h.1.unseparated c hmem hc⟩,
      fun h => ⟨⟨h.2.1, fun c hmem hc => h.2.2 c hc hmem⟩, h.1⟩⟩
  refine ⟨?select, fun join => ?compare, ?ascending, Registry.exists_sorts_descending_iff⟩
  case select => rw [Registry.exists_selects_iff, htoken]
  case compare => rw [Registry.exists_compares_iff, hplain]
  case ascending => rw [Registry.exists_sorts_ascending_iff, htoken, and_assoc, and_assoc]

/-- Behind a dash even the empty name can be reached, and one that opens with a dash itself. -/
example : selectFirst (fun _ => true) SortKey.entry ["-", "--age"] = [⟨"", true⟩, ⟨"-age", true⟩] := by decide

end ParamQuery
