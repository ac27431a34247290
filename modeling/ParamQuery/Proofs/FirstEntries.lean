import Mathlib.Data.List.Basic
import ParamQuery.Proofs.Text.Trim
import ParamQuery.Selection
import ParamQuery.Token

/-!
# The first entry on each field

A pass that takes one entry on each field selects the items of the first entries on the allowed fields
(`selectFirst_eq`).  Which entries are the first on their fields can be asked before or after the fields that are
not allowed are left out (`filter_firstOnFields`), so tokens on such fields may as well be missing
(`selectFirst_filter`).
-/

namespace ParamQuery

variable {α : Type}

/-- The entry of a token, read without the white space around it. -/
def readToken? (read : String → Option (Entry α)) (token : String) : Option (Entry α) :=
  if Text.trim token = "" then none else read (Text.trim token)

/-- Without effects a token is read as its entry. -/
theorem readEntry_pure (read : String → Option (Entry α)) (token : String) :
    readEntry (m := Id) (fun token => pure (read token)) token = pure (readToken? read token) := by
  by_cases hblank : Text.trim token = "" <;> simp [readEntry, readToken?, hblank]

/-- The entries of tokens, without those that are blank or cannot be read. -/
def entries (read : String → Option (Entry α)) (tokens : List String) : List (Entry α) :=
  tokens.filterMap (readToken? read)

/-- The entries whose field is not that of an entry before them. -/
def firstOnFields : List (Entry α) → List (Entry α)
  | [] => []
  | e :: es => e :: (firstOnFields es).filter (·.field ≠ e.field)

theorem mem_of_mem_firstOnFields {es : List (Entry α)} {e : Entry α} (h : e ∈ firstOnFields es) : e ∈ es := by
  induction es with
  | nil => exact h
  | cons d es ih =>
    rcases List.mem_cons.1 h with rfl | h
    · exact List.mem_cons_self
    · exact List.mem_cons_of_mem d (ih (List.mem_filter.1 h).1)

theorem nodup_map_field_firstOnFields (es : List (Entry α)) : ((firstOnFields es).map (·.field)).Nodup := by
  induction es with
  | nil => exact .nil
  | cons d es ih =>
    rw [firstOnFields, List.map_cons, List.nodup_cons]
    constructor
    · intro hmem
      obtain ⟨e, he, hfield⟩ := List.mem_map.1 hmem
      have hne := (List.mem_filter.1 he).2
      simp only [decide_eq_true_eq] at hne
      exact hne hfield
    · exact ih.sublist (List.filter_sublist.map _)

theorem firstOnFields_of_nodup {es : List (Entry α)} (h : (es.map (·.field)).Nodup) : firstOnFields es = es := by
  induction es with
  | nil => rfl
  | cons d es ih =>
    obtain ⟨hd, hes⟩ := List.nodup_cons.1 h
    rw [firstOnFields, ih hes]
    congr 1
    rw [List.filter_eq_self]
    intro e he
    simp only [decide_eq_true_eq]
    rintro hfield
    exact hd (List.mem_map.2 ⟨e, he, hfield⟩)

theorem filter_firstOnFields (p : String → Bool) (es : List (Entry α)) :
    (firstOnFields es).filter (fun e => p e.field) = firstOnFields (es.filter fun e => p e.field) := by
  induction es with
  | nil => rfl
  | cons d es ih =>
    have hcomm : ((firstOnFields es).filter (·.field ≠ d.field)).filter (fun e => p e.field) =
        (firstOnFields (es.filter fun e => p e.field)).filter (·.field ≠ d.field) := by
      rw [← ih, List.filter_filter, List.filter_filter]
      simp only [Bool.and_comm]
    by_cases hd : p d.field = true
    · rw [List.filter_cons, if_pos hd, firstOnFields, firstOnFields, List.filter_cons, if_pos hd, hcomm]
    · -- The entries that `d` is before are not allowed either.
      have hself : (firstOnFields (es.filter fun e => p e.field)).filter (·.field ≠ d.field) =
          firstOnFields (es.filter fun e => p e.field) := by
        rw [List.filter_eq_self]
        intro e he
        have hpe := (List.mem_filter.1 (mem_of_mem_firstOnFields he)).2
        simp only [decide_eq_true_eq]
        intro hfield
        rw [hfield] at hpe
        exact hd hpe
      rw [List.filter_cons, if_neg hd, firstOnFields, List.filter_cons, if_neg hd, hcomm, hself]

section

variable {allowed : String → Bool} {read : String → Option (Entry α)}

/-- A pass behind entries on the fields seen takes the first entries on the allowed ones of the other fields. -/
private theorem selectFrom_eq (seen tokens : List String) :
    Id.run (selectFrom false allowed (fun token => pure (read token)) seen tokens) =
      (((firstOnFields (entries read tokens)).filter fun e => e.field ∉ seen).filter
        fun e => allowed e.field).map (·.item) := by
  induction tokens generalizing seen with
  | nil => rfl
  | cons token tokens ih =>
    rw [selectFrom, readEntry_pure]
    cases htoken : readToken? read token with
    | none =>
      have hentries : entries read (token :: tokens) = entries read tokens := List.filterMap_cons_none htoken
      rw [hentries]
      exact ih seen
    | some e =>
      have hentries : entries read (token :: tokens) = e :: entries read tokens := List.filterMap_cons_some htoken
      rw [hentries, firstOnFields]
      by_cases hseen : e.field ∈ seen
      · have hrest : ((firstOnFields (entries read tokens)).filter (·.field ≠ e.field)).filter
            (fun d => d.field ∉ seen) = (firstOnFields (entries read tokens)).filter fun d => d.field ∉ seen := by
          rw [List.filter_filter]
          apply List.filter_congr
          intro d hd
          by_cases hfield : d.field = e.field <;> simp [hfield, hseen]
        rw [List.filter_cons_of_neg (by simp [hseen]), hrest, ← ih seen]
        simp [hseen]
      · have hrest : ((firstOnFields (entries read tokens)).filter (·.field ≠ e.field)).filter
            (fun d => d.field ∉ seen) =
              (firstOnFields (entries read tokens)).filter fun d => d.field ∉ e.field :: seen := by
          rw [List.filter_filter]
          apply List.filter_congr
          intro d hd
          by_cases hfield : d.field = e.field <;> simp [hfield]
        have hpass := ih (e.field :: seen)
        rw [List.filter_cons_of_pos (by simp [hseen]), hrest]
        simp only [Bool.not_false, hseen, and_false, ↓reduceIte, pure_bind]
        by_cases hallowed : allowed e.field = true
        · rw [List.filter_cons, if_pos hallowed, List.map_cons, ← hpass]
          simp [hallowed]
        · rw [List.filter_cons, if_neg hallowed, ← hpass]
          simp [hallowed]

theorem selectFirst_eq (tokens : List String) :
    selectFirst allowed read tokens =
      (firstOnFields ((entries read tokens).filter fun e => allowed e.field)).map (·.item) := by
  unfold selectFirst
  rw [selectFrom_eq, ← filter_firstOnFields]
  simp

/-- Items that show the fields of their entries are selected once for each field, and only for allowed ones. -/
theorem selectFirst_distinct {field : α → String} (hread : ∀ token e, read token = some e → field e.item = e.field)
    (tokens : List String) :
    ((selectFirst allowed read tokens).map field).Nodup ∧
      ∀ item ∈ selectFirst allowed read tokens, allowed (field item) = true := by
  have hfield : ∀ e ∈ firstOnFields ((entries read tokens).filter fun e => allowed e.field),
      field e.item = e.field ∧ allowed e.field = true := by
    intro e he
    obtain ⟨hmem, hallowed⟩ := List.mem_filter.1 (mem_of_mem_firstOnFields he)
    obtain ⟨token, -, htoken⟩ := List.mem_filterMap.1 hmem
    unfold readToken? at htoken
    split at htoken
    · cases htoken
    · exact ⟨hread _ e htoken, hallowed⟩
  rw [selectFirst_eq]
  constructor
  · have hmap : ((firstOnFields ((entries read tokens).filter fun e => allowed e.field)).map (·.item)).map field =
        (firstOnFields ((entries read tokens).filter fun e => allowed e.field)).map (·.field) := by
      rw [List.map_map]
      exact List.map_congr_left fun e he => (hfield e he).1
    rw [hmap]
    exact nodup_map_field_firstOnFields _
  · intro item hitem
    obtain ⟨e, he, rfl⟩ := List.mem_map.1 hitem
    rw [(hfield e he).1]
    exact (hfield e he).2

/-- The token is an entry on an allowed field. -/
def isAllowedToken (allowed : String → Bool) (read : String → Option (Entry α)) (token : String) : Bool :=
  (readToken? read token).any fun e => allowed e.field

theorem selectFirst_filter (tokens : List String) :
    selectFirst allowed read (tokens.filter (isAllowedToken allowed read)) = selectFirst allowed read tokens := by
  have hentries : (entries read (tokens.filter (isAllowedToken allowed read))).filter (fun e => allowed e.field) =
      (entries read tokens).filter fun e => allowed e.field := by
    unfold entries
    rw [List.filter_filterMap, List.filter_filterMap, List.filterMap_filter]
    apply List.filterMap_congr
    intro token htoken
    unfold isAllowedToken
    cases readToken? read token with
    | none => rfl
    | some e => cases h : allowed e.field <;> simp [h, Option.filter]
  rw [selectFirst_eq, selectFirst_eq, hentries]

end

end ParamQuery
