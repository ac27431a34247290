import Mathlib.Data.List.Induction
import ParamQuery.Registry

/-!
# Sequences of registrations

A registration that fails leaves the tables as they are, so any sequence of registrations makes tables
(`FieldTables.ofHistory`).  What they know of a name can be read off the registrations of this name that do not fail,
the effective ones: the first of them decides whether the field is nullable and which type it has, and any of them
may add a right.  For each table there is one lemma for what a registration does to it and one for a sequence.

The tables stay in step, so they make a registry (`Registry.ofHistory`).  One that is made at once, if that succeeds,
is the same (`ofHistory_eq_of_ofRegistrations`).
-/

namespace ParamQuery

namespace Registration

def isEffectiveOn (r : Registration) (name : String) : Bool :=
  r.name = some name ∧ r.declared.isOk = true

/-- The type that is kept of a registration. -/
def kept (r : Registration) : Option DataType :=
  (r.declared.toOption.getD none).filter (· ≠ .string)

end Registration

/-- The registrations of a name that do not fail. -/
def effective (history : List Registration) (name : String) : List Registration :=
  history.filter (·.isEffectiveOn name)

theorem effective_append_singleton (history : List Registration) (r : Registration) (name : String) :
    effective (history ++ [r]) name = effective history name ++ if r.isEffectiveOn name then [r] else [] := by
  unfold effective
  rw [List.filter_append, List.filter_cons, List.filter_nil]

namespace FieldTables

/-- The tables after any registrations, failing ones among them. -/
def ofHistory (history : List Registration) : FieldTables :=
  history.foldl (fun t r => (t.add r).1) empty

theorem ofHistory_append_singleton (history : List Registration) (r : Registration) :
    ofHistory (history ++ [r]) = ((ofHistory history).add r).1 :=
  List.foldl_append

theorem consistent_ofHistory (history : List Registration) : (ofHistory history).Consistent := by
  induction history using List.reverseRecOn with
  | nil => exact .empty
  | append_singleton history r ih =>
    rw [ofHistory_append_singleton]
    exact ih.add r

/-- An effective registration introduces its name, if that is new, and gives rights to it; any other one leaves the
tables as they are. -/
theorem add_cases (t : FieldTables) (r : Registration) :
    (∃ name type, r.name = some name ∧ r.declared = .ok type ∧ (∀ x, r.isEffectiveOn x = decide (x = name)) ∧
        t.add r = ((t.introduce name r.nullable type).allow name r.filterable r.sortable, .ok ())) ∨
      (∀ x, r.isEffectiveOn x = false) ∧ (t.add r).1 = t := by
  unfold add Registration.isEffectiveOn
  cases r.name with
  | none => exact .inr ⟨fun x => by simp, rfl⟩
  | some name =>
    cases r.declared with
    | error fault => exact .inr ⟨fun x => by simp [Except.isOk, Except.toBool], rfl⟩
    | ok type => exact .inl ⟨name, type, rfl, rfl, fun x => by simp [Except.isOk, Except.toBool, eq_comm], rfl⟩

theorem lookup_nullable_introduce (t : FieldTables) (name : String) (nullable : Bool) (type : Option DataType)
    (x : String) : (t.introduce name nullable type).nullable.lookup x =
      (t.nullable.lookup x).or (if x = name then some nullable else none) := by
  unfold introduce
  by_cases hknown : t.isSelectable name = true
  · obtain ⟨known, hlookup⟩ := Option.isSome_iff_exists.1 hknown
    by_cases hx : x = name <;> simp [hknown, hx, hlookup]
  · have hlookup : t.nullable.lookup name = none := Option.not_isSome_iff_eq_none.1 hknown
    by_cases hx : x = name
    · simp [hknown, hx, hlookup]
    · have hne : (x == name) = false := beq_false_of_ne hx
      simp [hknown, hx, hne, List.lookup_cons]

theorem lookup_types_introduce (t : FieldTables) (name : String) (nullable : Bool) (type : Option DataType)
    (x : String) : (t.introduce name nullable type).types.lookup x =
      if x = name ∧ t.isSelectable x = false then (type.filter (· ≠ .string)).or (t.types.lookup x)
      else t.types.lookup x := by
  unfold introduce
  by_cases hx : x = name
  · subst hx
    cases hknown : t.isSelectable x <;> cases type.filter (· ≠ .string) <;> simp
  · have hne : (x == name) = false := beq_false_of_ne hx
    cases t.isSelectable name <;> cases type.filter (· ≠ .string) <;> simp [hx, hne, List.lookup_cons]

theorem names_introduce (t : FieldTables) (name : String) (nullable : Bool) (type : Option DataType) :
    (t.introduce name nullable type).names = if t.isSelectable name then t.names else t.names ++ [name] := by
  unfold introduce
  split <;> rfl

/-- The first registration of a name decides whether the field is nullable. -/
theorem lookup_nullable_add (t : FieldTables) (r : Registration) (x : String) :
    (t.add r).1.nullable.lookup x =
      (t.nullable.lookup x).or (if r.isEffectiveOn x then some r.nullable else none) := by
  rcases t.add_cases r with ⟨name, type, -, -, heffective, hadd⟩ | ⟨heffective, hadd⟩
  · simp only [hadd, heffective, decide_eq_true_eq]
    exact lookup_nullable_introduce t name r.nullable type x
  · simp only [hadd, heffective, Bool.false_eq_true, if_false, Option.or_none]

/-- The first registration of a name decides which type the field has, also if it has none. -/
theorem lookup_types_add (t : FieldTables) (r : Registration) (x : String) :
    (t.add r).1.types.lookup x =
      if r.isEffectiveOn x ∧ t.isSelectable x = false then r.kept.or (t.types.lookup x) else t.types.lookup x := by
  rcases t.add_cases r with ⟨name, type, -, htype, heffective, hadd⟩ | ⟨heffective, hadd⟩
  · have hkept : r.kept = type.filter (· ≠ .string) := by
      rw [Registration.kept, htype]
      rfl
    simp only [hadd, heffective, decide_eq_true_eq, hkept]
    exact lookup_types_introduce t name r.nullable type x
  · simp only [hadd, heffective, Bool.false_eq_true, false_and, if_false]

theorem names_add (t : FieldTables) (r : Registration) :
    (t.add r).1.names =
      t.names ++ (r.name.filter fun name => r.isEffectiveOn name && !t.isSelectable name).toList := by
  rcases t.add_cases r with ⟨name, type, hname, -, heffective, hadd⟩ | ⟨heffective, hadd⟩
  · have hnames : (t.add r).1.names = (t.introduce name r.nullable type).names := by rw [hadd]; rfl
    rw [hnames, names_introduce, hname]
    cases hknown : t.isSelectable name <;> simp [Option.filter, heffective, hknown]
  · rw [hadd]
    cases r.name <;> simp [Option.filter, heffective]

/-- A table is the set of those names that some registration gave a right to. -/
structure KeepsRight (set : FieldTables → List String) (right : Registration → Bool) : Prop where
  empty : set empty = []
  allow (t : FieldTables) (r : Registration) (name : String) (type : Option DataType) :
    set ((t.introduce name r.nullable type).allow name r.filterable r.sortable) = insertIf (right r) name (set t)

theorem keepsRight_filterable : KeepsRight (·.filterable) (·.filterable) where
  empty := rfl
  allow t r name type := by
    unfold introduce
    split <;> rfl

theorem keepsRight_sortable : KeepsRight (·.sortable) (·.sortable) where
  empty := rfl
  allow t r name type := by
    unfold introduce
    split <;> rfl

theorem KeepsRight.mem_add {set : FieldTables → List String} {right : Registration → Bool}
    (h : KeepsRight set right) (t : FieldTables) (r : Registration) {x : String} :
    x ∈ set (t.add r).1 ↔ x ∈ set t ∨ r.isEffectiveOn x = true ∧ right r = true := by
  rcases t.add_cases r with ⟨name, type, -, -, heffective, hadd⟩ | ⟨heffective, hadd⟩
  · rw [hadd, h.allow, mem_insertIf_iff, heffective, decide_eq_true_eq, and_comm]
  · simp [hadd, heffective]

/-! ### Sequences

Each by induction from the end, as the last registration adds to what those before it have made. -/

theorem lookup_nullable_ofHistory (history : List Registration) (name : String) :
    (ofHistory history).nullable.lookup name = (effective history name).head?.map (·.nullable) := by
  induction history using List.reverseRecOn with
  | nil => rfl
  | append_singleton history r ih =>
    rw [ofHistory_append_singleton, lookup_nullable_add, ih, effective_append_singleton, List.head?_append,
      Option.map_or]
    congr 1
    split <;> rfl

theorem isSelectable_ofHistory (history : List Registration) (name : String) :
    (ofHistory history).isSelectable name = !(effective history name).isEmpty := by
  unfold isSelectable
  rw [lookup_nullable_ofHistory]
  cases effective history name <;> rfl

theorem isNullable_ofHistory (history : List Registration) (name : String) :
    (ofHistory history).isNullable name = (effective history name).head?.any (·.nullable) := by
  unfold isNullable
  rw [lookup_nullable_ofHistory]
  cases effective history name <;> rfl

theorem type?_ofHistory (history : List Registration) (name : String) :
    (ofHistory history).type? name = (effective history name).head?.bind Registration.kept := by
  unfold type?
  induction history using List.reverseRecOn with
  | nil => rfl
  | append_singleton history r ih =>
    rw [ofHistory_append_singleton, lookup_types_add, ih, isSelectable_ofHistory, effective_append_singleton]
    cases effective history name with
    | nil => cases r.isEffectiveOn name <;> simp
    | cons first rest => simp

theorem KeepsRight.mem_ofHistory {set : FieldTables → List String} {right : Registration → Bool}
    (h : KeepsRight set right) {history : List Registration} {name : String} :
    name ∈ set (ofHistory history) ↔ ∃ r ∈ effective history name, right r = true := by
  induction history using List.reverseRecOn with
  | nil => simp [ofHistory, h.empty, effective]
  | append_singleton history r ih =>
    rw [ofHistory_append_singleton, h.mem_add, ih, effective_append_singleton]
    cases r.isEffectiveOn name <;> simp [or_and_right, exists_or]

theorem isFilterable_ofHistory (history : List Registration) (name : String) :
    (ofHistory history).isFilterable name = (effective history name).any (·.filterable) := by
  rw [Bool.eq_iff_iff, isFilterable_iff, keepsRight_filterable.mem_ofHistory, List.any_eq_true]

theorem isSortable_ofHistory (history : List Registration) (name : String) :
    (ofHistory history).isSortable name = (effective history name).any (·.sortable) := by
  rw [Bool.eq_iff_iff, isSortable_iff, keepsRight_sortable.mem_ofHistory, List.any_eq_true]

end FieldTables

namespace Registry

/-- The registry after any registrations, failing ones among them. -/
def ofHistory (history : List Registration) : Registry :=
  ⟨.ofHistory history, FieldTables.consistent_ofHistory history⟩

theorem toFieldTables_ofHistory (history : List Registration) :
    (ofHistory history).toFieldTables = .ofHistory history :=
  rfl

/-- A registry that is made at once is the one of these registrations, none of which fails. -/
theorem ofHistory_eq_of_ofRegistrations {registrations : List Registration} {reg : Registry}
    (h : ofRegistrations registrations = .ok reg) : ofHistory registrations = reg := by
  suffices hfold : ∀ start : Registry,
      registrations.foldlM (fun reg r => (reg.add r).2.map fun _ => (reg.add r).1) start = .ok reg →
      registrations.foldl (fun t r => (t.add r).1) start.toFieldTables = reg.toFieldTables by
    have htables := hfold empty h
    cases reg
    cases htables
    rfl
  clear h
  induction registrations with
  | nil =>
    intro start h
    cases h
    rfl
  | cons r rs ih =>
    intro start h
    rw [List.foldlM_cons] at h
    cases hadd : (start.add r).2 with
    | error fault =>
      rw [hadd] at h
      cases h
    | ok _ =>
      rw [hadd] at h
      exact ih (start.add r).1 h

end Registry

end ParamQuery
