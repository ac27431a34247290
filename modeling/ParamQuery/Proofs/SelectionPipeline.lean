import ParamQuery.Proofs.FirstEntries
import ParamQuery.SortKey

/-!
# Selection as a pipeline

A pass selects the items of the entries on allowed fields, of the first one on each field or of all
(`selection_eq_pipeline`).  The one that looks for repetitions does so before it asks what is allowed, and would select
the same if it asked first.

A token on a field that occurred before changes nothing (`selectFirst_insert`), so a field is sorted by once, in the
direction that is named first (`mem_selectFirst_sortKey_iff`).
-/

namespace ParamQuery

variable {α : Type}

theorem entries_eq_filterMap (read : String → Option (Entry α)) (tokens : List String) :
    entries read tokens = ((tokens.map Text.trim).filter (· ≠ "")).filterMap read := by
  unfold entries
  rw [List.filterMap_filter, List.filterMap_map]
  apply List.filterMap_congr
  intro token _
  by_cases hblank : Text.trim token = "" <;> simp [readToken?, hblank]

/-- The first entries on their fields are what is left when no field may be repeated. -/
theorem firstOnFields_eq_eraseDupsBy (es : List (Entry α)) :
    firstOnFields es = es.eraseDupsBy fun d e => d.field == e.field := by
  match es with
  | [] => rfl
  | e :: es =>
    -- One goes on with the entries on other fields, the other leaves out those on this field in the end.
    have hcomm := filter_firstOnFields (fun name => decide (name ≠ e.field)) es
    rw [firstOnFields, hcomm, firstOnFields_eq_eraseDupsBy, List.eraseDupsBy_cons]
    simp only [ne_eq, decide_not, beq_eq_false_iff_ne]
termination_by es.length
decreasing_by exact Nat.lt_succ_of_le (List.length_filter_le _ _)

theorem mem_firstOnFields_iff {es : List (Entry α)} {e : Entry α} :
    e ∈ firstOnFields es ↔ es.find? (fun d => d.field = e.field) = some e := by
  induction es with
  | nil => simp [firstOnFields]
  | cons d es ih =>
    rw [firstOnFields, List.mem_cons, List.mem_filter, ih, List.find?_cons]
    by_cases hfield : d.field = e.field
    · simp [hfield, eq_comm]
    · have hne : e ≠ d := by
        rintro rfl
        exact hfield rfl
      simp [hfield, hne, Ne.symm hfield]

theorem firstOnFields_append (es ds : List (Entry α)) :
    firstOnFields (es ++ ds) =
      firstOnFields es ++ (firstOnFields ds).filter fun d => d.field ∉ es.map (·.field) := by
  induction es with
  | nil => simp [firstOnFields]
  | cons e es ih =>
    rw [List.cons_append, firstOnFields, ih, firstOnFields, List.filter_append, List.filter_filter, List.cons_append]
    simp only [List.map_cons, List.mem_cons, not_or, Bool.decide_and]

/-- An entry on a field that occurred before may as well be missing. -/
theorem firstOnFields_insert {es : List (Entry α)} {d : Entry α} (h : d.field ∈ es.map (·.field))
    (ds : List (Entry α)) : firstOnFields (es ++ d :: ds) = firstOnFields (es ++ ds) := by
  have hrest : (firstOnFields (d :: ds)).filter (fun e => e.field ∉ es.map (·.field)) =
      (firstOnFields ds).filter fun e => e.field ∉ es.map (·.field) := by
    rw [firstOnFields, List.filter_cons_of_neg (by simpa using h), List.filter_filter]
    apply List.filter_congr
    intro e _
    by_cases hfield : e.field = d.field
    · simp [hfield, h]
    · simp [hfield]
  rw [firstOnFields_append, firstOnFields_append, hrest]

section

variable {allowed : String → Bool} {read : String → Option (Entry α)}

theorem selectFirst_insert {before : List String} {token : String}
    (h : ∀ d, readToken? read token = some d → d.field ∈ (entries read before).map (·.field)) (after : List String) :
    selectFirst allowed read (before ++ token :: after) = selectFirst allowed read (before ++ after) := by
  have hentries : ∀ tokens, entries read (before ++ tokens) = entries read before ++ entries read tokens :=
    fun _ => List.filterMap_append
  rw [selectFirst_eq, selectFirst_eq, ← filter_firstOnFields, ← filter_firstOnFields, hentries, hentries]
  cases htoken : readToken? read token with
  | none =>
    have hnone : entries read (token :: after) = entries read after := List.filterMap_cons_none htoken
    rw [hnone]
  | some d =>
    have hsome : entries read (token :: after) = d :: entries read after := List.filterMap_cons_some htoken
    rw [hsome, firstOnFields_insert (h d htoken)]

/-- A pass that takes all entries does not look at the fields seen. -/
private theorem selectFrom_repeats_eq (seen tokens : List String) :
    Id.run (selectFrom true allowed (fun token => pure (read token)) seen tokens) =
      ((entries read tokens).filter fun e => allowed e.field).map (·.item) := by
  induction tokens generalizing seen with
  | nil => rfl
  | cons token tokens ih =>
    rw [selectFrom, readEntry_pure]
    cases htoken : readToken? read token with
    | none =>
      have hnone : entries read (token :: tokens) = entries read tokens := List.filterMap_cons_none htoken
      rw [hnone]
      exact ih seen
    | some e =>
      have hsome : entries read (token :: tokens) = e :: entries read tokens := List.filterMap_cons_some htoken
      have hpass := ih (e.field :: seen)
      rw [hsome]
      simp only [Bool.not_true, Bool.false_eq_true, false_and, ↓reduceIte, pure_bind]
      by_cases hallowed : allowed e.field = true
      · rw [List.filter_cons, if_pos hallowed, List.map_cons, ← hpass]
        simp [hallowed]
      · rw [List.filter_cons, if_neg hallowed, ← hpass]
        simp [hallowed]

theorem selectAll_eq (tokens : List String) :
    selectAll allowed read tokens = ((entries read tokens).filter fun e => allowed e.field).map (·.item) :=
  selectFrom_repeats_eq [] tokens

end

/-- The sort keys that tokens name, with repetitions. -/
def SortKey.named (tokens : List String) : List SortKey :=
  ((tokens.map Text.trim).filter (· ≠ "")).map ofToken

/-- A key is selected if its field is allowed and no key on this field is named before it. -/
theorem mem_selectFirst_sortKey_iff {allowed : String → Bool} {tokens : List String} {k : SortKey} :
    k ∈ selectFirst allowed SortKey.entry tokens ↔
      allowed k.field = true ∧ (SortKey.named tokens).find? (fun d => d.field = k.field) = some k := by
  have hentries : entries SortKey.entry tokens = (SortKey.named tokens).map fun d => ⟨d.field, d⟩ := by
    rw [entries_eq_filterMap, SortKey.named, List.map_map]
    exact congrFun List.filterMap_eq_map _
  rw [selectFirst_eq, ← filter_firstOnFields, hentries, List.mem_map]
  simp only [List.mem_filter, mem_firstOnFields_iff, List.find?_map, Option.map_eq_some_iff, Function.comp_def]
  constructor
  · rintro ⟨e, ⟨⟨d, hd, rfl⟩, hallowed⟩, rfl⟩
    exact ⟨hallowed, hd⟩
  · rintro ⟨hallowed, hk⟩
    exact ⟨⟨k.field, k⟩, ⟨⟨k, hk, rfl⟩, hallowed⟩, rfl⟩

theorem selectFirst_sortKey_distinct (allowed : String → Bool) (tokens : List String) :
    ((selectFirst allowed SortKey.entry tokens).map (·.field)).Nodup ∧
      ∀ k ∈ selectFirst allowed SortKey.entry tokens, allowed k.field = true := by
  apply selectFirst_distinct
  intro token e he
  cases he
  rfl

/-- A pass over tokens trims them, leaves out blank ones, reads the others, and selects the items of the entries on
allowed fields: of the first one on each field, where it does not matter whether fields are left out before or after
repetitions, or of all of them. -/
theorem selection_eq_pipeline (allowed : String → Bool) (read : String → Option (Entry α)) (tokens : List String) :
    let es := ((tokens.map Text.trim).filter (· ≠ "")).filterMap read
    let first := List.eraseDupsBy fun d e : Entry α => d.field == e.field
    selectFirst allowed read tokens = (first (es.filter fun e => allowed e.field)).map (·.item) ∧
    (first es).filter (fun e => allowed e.field) = first (es.filter fun e => allowed e.field) ∧
    selectAll allowed read tokens = (es.filter fun e => allowed e.field).map (·.item) ∧
    (∀ token, (∀ d, readToken? read token = some d → d.field ∈ es.map (·.field)) → ∀ after,
      selectFirst allowed read (tokens ++ token :: after) = selectFirst allowed read (tokens ++ after)) ∧
    ((selectFirst allowed SortKey.entry tokens).map (·.field)).Nodup ∧
    ∀ k, k ∈ selectFirst allowed SortKey.entry tokens ↔
      allowed k.field = true ∧ (SortKey.named tokens).find? (fun d => d.field = k.field) = some k := by
  intro es first
  have hes : es = entries read tokens := (entries_eq_filterMap read tokens).symm
  have hfirst : ∀ ds, first ds = firstOnFields ds := fun ds => (firstOnFields_eq_eraseDupsBy ds).symm
  simp only [hfirst, hes]
  refine ⟨selectFirst_eq tokens, filter_firstOnFields allowed _, selectAll_eq tokens, ?_, ?_, ?_⟩
  · exact fun token h after => selectFirst_insert h after
  · exact (selectFirst_sortKey_distinct allowed tokens).1
  · exact fun k => mem_selectFirst_sortKey_iff

example : selectFirst (· ≠ "id") SortKey.entry ["-age", " name", "", "age", "- name", "id"] =
    [⟨"age", true⟩, ⟨"name", false⟩] := by decide

end ParamQuery
