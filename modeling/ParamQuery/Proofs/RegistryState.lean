import ParamQuery.Proofs.Registrations

/-!
# What a registry knows after any registrations

A registration is effective if it has a name and declares no type or one that exists, whatever the case of its
label and the white space around it.  One that has a name and is not effective fails; one that fails or has no name
leaves all tables as they are.  After any registrations the names are those of the effective ones, each once and in
order, the rights are those that any of them gave, and the rest is as the first of them on a name said
(`FieldTables.ofHistory_reflects`).
-/

namespace ParamQuery

theorem DataType.ofName?_eq_some_iff {s : String} {type : DataType} : ofName? s = some type ↔ s = type.name := by
  constructor
  · intro h
    have hname := List.find?_some h
    exact (decide_eq_true_eq.mp hname).symm
  · rintro rfl
    exact ofName?_name type

namespace TypeLabel

/-- The label is the name of a type, up to case and the white space around it. -/
def isKnown (label : TypeLabel) : Bool :=
  label.text?.any fun s => Text.upper (Text.trim s) ∈ DataType.all.map DataType.name

/-- What is wrong with a label that is not the name of a type: there is no such type, or it cannot be written. -/
def fault (label : TypeLabel) : Fault :=
  match label.text? with
  | some s => .unknownDataType (Text.upper (Text.trim s))
  | none => .numeralTooLong

theorem resolve_eq_ok_iff {label : TypeLabel} {type : DataType} :
    label.resolve = .ok type ↔ ∃ s, label.text? = some s ∧ Text.upper (Text.trim s) = type.name := by
  unfold resolve
  cases label.text? with
  | none => simp
  | some s =>
    simp only [Option.some.injEq, exists_eq_left', ← DataType.ofName?_eq_some_iff]
    cases DataType.ofName? (Text.upper (Text.trim s)) with
    | none => simp
    | some type' => simp

theorem isKnown_iff {label : TypeLabel} : label.isKnown = true ↔ ∃ type, label.resolve = .ok type := by
  have hall : ∀ s, s ∈ DataType.all.map DataType.name ↔ ∃ type : DataType, s = type.name := by
    intro s
    rw [List.mem_map]
    constructor
    · rintro ⟨type, -, rfl⟩
      exact ⟨type, rfl⟩
    · rintro ⟨type, rfl⟩
      exact ⟨type, by cases type <;> decide, rfl⟩
  simp only [resolve_eq_ok_iff, isKnown, Option.any_eq_true, decide_eq_true_eq, hall]
  exact ⟨fun ⟨s, hs, type, htype⟩ => ⟨type, s, hs, htype⟩, fun ⟨type, s, hs, htype⟩ => ⟨s, hs, type, htype⟩⟩

theorem resolve_eq_error_iff {label : TypeLabel} {fault : Fault} :
    label.resolve = .error fault ↔ label.isKnown = false ∧ fault = label.fault := by
  have herror : ∀ fault', label.resolve = .error fault' → fault' = label.fault := by
    intro fault' h
    unfold resolve at h
    unfold TypeLabel.fault
    cases hs : label.text? with
    | none =>
      simp only [hs, Except.error.injEq] at h
      exact h.symm
    | some s =>
      cases htype : DataType.ofName? (Text.upper (Text.trim s)) with
      | none =>
        simp only [hs, htype, Except.error.injEq] at h
        exact h.symm
      | some type => simp only [hs, htype, reduceCtorEq] at h
  rw [← Bool.not_eq_true, isKnown_iff]
  cases hresolve : label.resolve with
  | ok type => simp
  | error fault' => simp [herror fault' hresolve, eq_comm]

end TypeLabel

namespace Registration

/-- Whether a registration has a name and declares no type or one that exists. -/
def isEffective (r : Registration) : Bool :=
  r.name.isSome && r.type.all TypeLabel.isKnown

theorem declared_eq_error_iff {r : Registration} {fault : Fault} :
    r.declared = .error fault ↔ ∃ label, r.type = some label ∧ label.isKnown = false ∧ fault = label.fault := by
  unfold declared
  cases r.type with
  | none => simp
  | some label =>
    simp only [Option.some.injEq, exists_eq_left', ← TypeLabel.resolve_eq_error_iff]
    cases label.resolve <;> simp [Except.map]

theorem isOk_declared (r : Registration) : r.declared.isOk = r.type.all TypeLabel.isKnown := by
  cases hdeclared : r.declared with
  | error fault =>
    obtain ⟨label, hlabel, hunknown, -⟩ := declared_eq_error_iff.1 hdeclared
    rw [hlabel, Option.all_some, hunknown]
    rfl
  | ok type =>
    have hknown : ∀ label, r.type = some label → label.isKnown = true := by
      intro label hlabel
      by_contra hunknown
      have herror := declared_eq_error_iff.2 ⟨label, hlabel, Bool.eq_false_iff.2 hunknown, rfl⟩
      rw [hdeclared] at herror
      cases herror
    exact ((Option.all_eq_true _ _).2 hknown).symm

theorem isEffectiveOn_iff {r : Registration} {name : String} :
    r.isEffectiveOn name = true ↔ r.isEffective = true ∧ r.name = some name := by
  unfold isEffectiveOn isEffective
  rw [isOk_declared]
  cases r.name <;> simp [and_comm]

/-- The type that a registration declares, as its label tells. -/
theorem declared_eq_ok_some_iff {r : Registration} {type : DataType} :
    r.declared = .ok (some type) ↔
      ∃ label s, r.type = some label ∧ label.text? = some s ∧ Text.upper (Text.trim s) = type.name := by
  unfold declared
  cases r.type with
  | none => simp
  | some label =>
    have hresolve := @TypeLabel.resolve_eq_ok_iff label type
    simp only [Option.some.injEq, exists_and_left, exists_eq_left', ← hresolve]
    cases label.resolve <;> simp [Except.map]

end Registration

/-- The names of the effective registrations, in order. -/
def effectiveNames (history : List Registration) : List String :=
  (history.filter (·.isEffective)).filterMap (·.name)

/-- The first effective registration of a name. -/
def firstEffective? (history : List Registration) (name : String) : Option Registration :=
  history.find? fun r => r.isEffective ∧ r.name = some name

theorem mem_effective_iff {history : List Registration} {name : String} {r : Registration} :
    r ∈ effective history name ↔ r ∈ history ∧ r.isEffective = true ∧ r.name = some name := by
  rw [effective, List.mem_filter, Registration.isEffectiveOn_iff]

theorem head?_effective (history : List Registration) (name : String) :
    (effective history name).head? = firstEffective? history name := by
  have hsame : (fun r : Registration => r.isEffectiveOn name) =
      fun r => decide (r.isEffective ∧ r.name = some name) := by
    funext r
    rw [Bool.eq_iff_iff, Registration.isEffectiveOn_iff, decide_eq_true_eq]
  rw [effective, List.head?_filter, hsame]
  rfl

theorem effectiveNames_append_singleton (history : List Registration) (r : Registration) :
    effectiveNames (history ++ [r]) =
      effectiveNames history ++ if r.isEffective then r.name.toList else [] := by
  unfold effectiveNames
  rw [List.filter_append, List.filterMap_append]
  congr 1
  cases heffective : r.isEffective <;> cases hname : r.name <;> simp [heffective, hname]

theorem mem_effectiveNames_iff {history : List Registration} {name : String} :
    name ∈ effectiveNames history ↔ ∃ r, r ∈ effective history name := by
  simp only [effectiveNames, List.mem_filterMap, List.mem_filter, mem_effective_iff, and_assoc]

namespace FieldTables

variable {t : FieldTables} {r : Registration}

/-- A call fails if it names a field and declares a type that does not exist. -/
theorem add_eq_error_iff {fault : Fault} :
    (t.add r).2 = .error fault ↔
      r.name.isSome = true ∧ ∃ label, r.type = some label ∧ label.isKnown = false ∧ fault = label.fault := by
  rw [← Registration.declared_eq_error_iff]
  unfold add
  cases r.name with
  | none => simp
  | some name => cases r.declared <;> simp

/-- A call that fails or has no name leaves all tables as they are. -/
theorem add_of_not_effective (h : r.isEffective = false) : (t.add r).1 = t := by
  rcases t.add_cases r with ⟨name, -, -, -, heffective, -⟩ | ⟨-, hsame⟩
  · have hname := (Registration.isEffectiveOn_iff.1 ((heffective name).trans (decide_eq_true rfl))).1
    rw [h] at hname
    cases hname
  · exact hsame

/-- Known are the names of the effective registrations. -/
theorem isSelectable_ofHistory_iff {history : List Registration} {name : String} :
    (ofHistory history).isSelectable name = true ↔ name ∈ effectiveNames history := by
  rw [mem_effectiveNames_iff, isSelectable_ofHistory]
  cases effective history name <;> simp

theorem names_ofHistory (history : List Registration) :
    (ofHistory history).names = (effectiveNames history).eraseDups := by
  induction history using List.reverseRecOn with
  | nil => rfl
  | append_singleton history r ih =>
    rw [ofHistory_append_singleton, names_add, ih, effectiveNames_append_singleton, List.eraseDups_append]
    congr 1
    by_cases heffective : r.isEffective = true
    · obtain ⟨name, hname⟩ := Option.isSome_iff_exists.1 (Bool.and_eq_true_iff.1 heffective).1
      have hon : r.isEffectiveOn name = true := Registration.isEffectiveOn_iff.2 ⟨heffective, hname⟩
      have hknown := @isSelectable_ofHistory_iff history name
      by_cases hmem : name ∈ effectiveNames history
      · simp [hname, heffective, Option.filter, hknown.2 hmem, List.removeAll, hmem]
      · have hnew : (ofHistory history).isSelectable name = false := Bool.eq_false_iff.2 (mt hknown.1 hmem)
        simp [hname, heffective, Option.filter, hon, hnew, List.removeAll, hmem, List.eraseDups_cons]
    · have hnone : ∀ name, r.isEffectiveOn name = false :=
        fun name => Bool.eq_false_iff.2 fun h => heffective (Registration.isEffectiveOn_iff.1 h).1
      rw [if_neg heffective]
      cases r.name <;> simp [Option.filter, hnone, List.removeAll]

/-- What the tables know, read off the registrations behind them. -/
structure Reflects (t : FieldTables) (history : List Registration) : Prop where
  names_eq : t.names = (effectiveNames history).eraseDups
  names_nodup : t.names.Nodup
  size_eq : t.size = (effectiveNames history).eraseDups.length
  selectable_iff (name : String) : t.isSelectable name = true ↔ name ∈ t.names
  registered_iff (name : String) : name ∈ t.names ↔ name ∈ effectiveNames history
  filterable_iff (name : String) : t.isFilterable name = true ↔
    ∃ r ∈ history, r.isEffective = true ∧ r.name = some name ∧ r.filterable = true
  sortable_iff (name : String) : t.isSortable name = true ↔
    ∃ r ∈ history, r.isEffective = true ∧ r.name = some name ∧ r.sortable = true
  filterable_subset : t.filterable ⊆ t.names
  sortable_subset : t.sortable ⊆ t.names
  nullable_iff (name : String) : t.isNullable name = true ↔
    ∃ r, firstEffective? history name = some r ∧ r.nullable = true
  /-- Texts need no conversion, so their type is not kept. -/
  type_iff (name : String) (type : DataType) : t.type? name = some type ↔
    type ≠ .string ∧ ∃ r label s, firstEffective? history name = some r ∧ r.type = some label ∧
      label.text? = some s ∧ Text.upper (Text.trim s) = type.name

theorem type?_ofHistory_eq_some_iff {history : List Registration} {name : String} {type : DataType} :
    (ofHistory history).type? name = some type ↔
      type ≠ .string ∧ ∃ r, firstEffective? history name = some r ∧ r.declared = .ok (some type) := by
  have hdeclared : ∀ r : Registration,
      r.declared.toOption.getD none = some type ↔ r.declared = .ok (some type) := by
    intro r
    cases r.declared <;> simp [Except.toOption]
  simp only [type?_ofHistory, head?_effective, Option.bind_eq_some_iff, Registration.kept,
    Option.filter_eq_some_iff, hdeclared, decide_eq_true_eq]
  constructor
  · rintro ⟨r, hr, hd, hne⟩
    exact ⟨hne, r, hr, hd⟩
  · rintro ⟨hne, r, hr, hd⟩
    exact ⟨r, hr, hd, hne⟩

theorem reflects_tables (history : List Registration) : (ofHistory history).Reflects history := by
  have hnames := names_ofHistory history
  have hregistered : ∀ name, name ∈ (ofHistory history).names ↔ name ∈ effectiveNames history := by
    intro name
    rw [hnames, List.mem_eraseDups]
  -- Who has a right has an effective registration, so a name among the names.
  have hright : ∀ {set : FieldTables → List String} {right : Registration → Bool}, KeepsRight set right →
      set (ofHistory history) ⊆ (ofHistory history).names := by
    intro set right hset name hname
    obtain ⟨r, hr, -⟩ := hset.mem_ofHistory.1 hname
    exact (hregistered name).2 (mem_effectiveNames_iff.2 ⟨r, hr⟩)
  constructor
  case names_eq => exact hnames
  case names_nodup => exact (consistent_ofHistory history).names_nodup
  case size_eq => exact congrArg List.length hnames
  case selectable_iff => exact fun name => isSelectable_ofHistory_iff.trans (hregistered name).symm
  case registered_iff => exact hregistered
  case filterable_iff =>
    intro name
    simp only [isFilterable_ofHistory, List.any_eq_true, mem_effective_iff, and_assoc]
  case sortable_iff =>
    intro name
    simp only [isSortable_ofHistory, List.any_eq_true, mem_effective_iff, and_assoc]
  case filterable_subset => exact hright keepsRight_filterable
  case sortable_subset => exact hright keepsRight_sortable
  case nullable_iff =>
    intro name
    rw [isNullable_ofHistory, head?_effective, Option.any_eq_true]
  case type_iff =>
    intro name type
    simp only [type?_ofHistory_eq_some_iff, Registration.declared_eq_ok_some_iff, exists_and_left]

/-- Whatever is in the tables, a call fails exactly if it names a field and declares a type that does not exist, and
one that fails or has no name leaves every table as it is.  After any calls the tables know what the effective ones
among them say. -/
theorem ofHistory_reflects :
    (∀ (t : FieldTables) (r : Registration) (fault : Fault), (t.add r).2 = .error fault ↔
        r.name.isSome = true ∧ ∃ label, r.type = some label ∧ label.isKnown = false ∧ fault = label.fault) ∧
      (∀ (t : FieldTables) (r : Registration), (∃ fault, (t.add r).2 = .error fault) ∨ r.name = none →
        (t.add r).1 = t) ∧
      ∀ history : List Registration, (ofHistory history).Reflects history := by
  refine ⟨fun t r fault => add_eq_error_iff, ?_, reflects_tables⟩
  intro t r h
  apply add_of_not_effective
  rcases h with ⟨fault, hfault⟩ | hname
  · obtain ⟨-, label, hlabel, hunknown, -⟩ := add_eq_error_iff.1 hfault
    rw [Registration.isEffective, hlabel, Option.all_some, hunknown, Bool.and_false]
  · rw [Registration.isEffective, hname]
    rfl

end FieldTables

end ParamQuery
