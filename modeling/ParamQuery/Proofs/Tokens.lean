import Mathlib.Data.List.Forall2
import ParamQuery.Proofs.FirstEntries
import ParamQuery.Proofs.Text.Commas

/-!
# Tokens that are written one by one

Texts without commas and without white space around them, joined with commas, are the tokens of the parameter that
they make (`tokens_intercalate`).  If they are read as entries on distinct allowed fields, all of them are selected
(`selectFirst_map`).
-/

namespace ParamQuery

theorem trimmed_eq_self {texts : List String} (h : ∀ s ∈ texts, Text.trim s = s ∧ s ≠ "") :
    trimmed texts = texts := by
  have hmap : texts.map Text.trim = texts.map id := List.map_congr_left fun s hs => (h s hs).1
  unfold trimmed
  rw [hmap, List.map_id, List.filter_eq_self]
  intro s hs
  simp [(h s hs).2]

theorem trimmed_trimmed (texts : List String) : trimmed (trimmed texts) = trimmed texts := by
  apply trimmed_eq_self
  intro s hs
  obtain ⟨hmem, hne⟩ := List.mem_filter.1 hs
  obtain ⟨t, -, rfl⟩ := List.mem_map.1 hmem
  exact ⟨Text.trim_trim t, by simpa using hne⟩

theorem RawValue.tokens_intercalate {texts : List String}
    (h : ∀ s ∈ texts, Text.trim s = s ∧ s ≠ "" ∧ ',' ∉ s.toList) :
    (RawValue.text (",".intercalate texts)).tokens = .ok texts := by
  have htokens : (RawValue.text (",".intercalate texts)).tokens =
      .ok (trimmed ([",".intercalate texts].flatMap Text.splitAtCommas)) := rfl
  rw [htokens, List.flatMap_singleton]
  by_cases hne : texts = []
  · subst hne
    rfl
  · rw [Text.splitAtCommas_intercalate hne fun s hs => (h s hs).2.2,
      trimmed_eq_self fun s hs => ⟨(h s hs).1, (h s hs).2.1⟩]

/-- A pass that may fail succeeds if it does so at every item. -/
theorem mapM_eq_ok_iff {α β ε : Type} {f : α → Except ε β} {as : List α} {bs : List β} :
    as.mapM f = .ok bs ↔ List.Forall₂ (fun a b => f a = .ok b) as bs := by
  induction as generalizing bs with
  | nil =>
    rw [List.mapM_nil, List.forall₂_nil_left_iff]
    exact ⟨fun h => (Except.ok.inj h).symm, fun h => h ▸ rfl⟩
  | cons a as ih =>
    rw [List.mapM_cons, List.forall₂_cons_left_iff]
    constructor
    · intro h
      cases hb : f a with
      | error e => rw [hb] at h; cases h
      | ok b =>
      cases hbs : as.mapM f with
      | error e => rw [hb, hbs] at h; cases h
      | ok bs' =>
        rw [hb, hbs] at h
        cases h
        exact ⟨b, bs', rfl, ih.1 hbs, rfl⟩
    · rintro ⟨b, bs', hb, hbs, rfl⟩
      rw [hb, ih.2 hbs]
      rfl

theorem RawValue.groups_eq_ok {value : RawValue} {groups : List String} (h : value.groups = .ok groups) :
    ∃ texts, value.texts = .ok texts ∧ groups = trimmed texts := by
  unfold RawValue.groups at h
  cases ht : value.texts with
  | error e => rw [ht] at h; cases h
  | ok texts =>
    rw [ht] at h
    cases h
    exact ⟨texts, rfl, rfl⟩

theorem RawValue.groups_list (texts : List String) :
    (RawValue.list (texts.map .text)).groups = .ok (trimmed texts) := by
  have hmap : (texts.map RawValue.text).mapM text? = .ok texts := by
    rw [mapM_eq_ok_iff, List.forall₂_map_left_iff, List.forall₂_same]
    exact fun s _ => rfl
  have hgroups : (RawValue.list (texts.map .text)).groups =
      ((texts.map RawValue.text).mapM text?).map trimmed := rfl
  rw [hgroups, hmap]
  rfl

/-- Tokens of distinct allowed fields are all selected. -/
theorem selectFirst_map {α β : Type} {allowed : String → Bool} {read : String → Option (Entry α)}
    {token : β → String} {e : β → Entry α} {bs : List β}
    (h : ∀ b ∈ bs, Text.trim (token b) = token b ∧ token b ≠ "" ∧ read (token b) = some (e b) ∧
      allowed (e b).field = true)
    (hnodup : (bs.map fun b => (e b).field).Nodup) :
    selectFirst allowed read (bs.map token) = bs.map fun b => (e b).item := by
  have hentries : entries read (bs.map token) = bs.map e := by
    unfold entries
    rw [List.filterMap_map, ← List.filterMap_eq_map]
    apply List.filterMap_congr
    intro b hb
    obtain ⟨htrim, hne, hread, -⟩ := h b hb
    simp [readToken?, htrim, hne, hread]
  have hallowed : (bs.map e).filter (fun d => allowed d.field) = bs.map e := by
    rw [List.filter_eq_self]
    intro d hd
    obtain ⟨b, hb, rfl⟩ := List.mem_map.1 hd
    exact (h b hb).2.2.2
  have hdistinct : ((bs.map e).map (·.field)).Nodup := by
    rw [List.map_map]
    exact hnodup
  rw [selectFirst_eq, hentries, hallowed, firstOnFields_of_nodup hdistinct, List.map_map]
  rfl

end ParamQuery
