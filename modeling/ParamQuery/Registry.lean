import ParamQuery.Fault
import ParamQuery.Text.Blank
import ParamQuery.Text.Case

/-!
# The fields that a request may name

What is known of the fields is kept in five tables: the names in the order of their first registration, the names
that may be filtered by, those that may be ordered by, whether a field is nullable, and the types that values are
converted to.  The first registration of a name decides whether the field is nullable and which type it has; every
registration may add the right to filter by the field or to order by it, and none takes a right away.

Nothing in the tables themselves keeps them in step.  That each registration does is `FieldTables.Consistent.add`,
and a registry (`Registry`) is tables that are in step.
-/

namespace ParamQuery

/-- A registration of a field. -/
structure Registration where
  name : Option String
  filterable : Bool
  sortable : Bool
  nullable : Bool
  type : Option TypeLabel
  deriving DecidableEq, Repr

/-- The data type that a label stands for. -/
def TypeLabel.resolve (label : TypeLabel) : Except Fault DataType :=
  match label.text? with
  | none => .error .numeralTooLong
  | some s =>
    let name := Text.upper (Text.trim s)
    match DataType.ofName? name with
    | some type => .ok type
    | none => .error (.unknownDataType name)

/-- The type that a registration declares, if it declares one. -/
def Registration.declared (r : Registration) : Except Fault (Option DataType) :=
  match r.type with
  | none => .ok none
  | some label => label.resolve.map some

structure FieldTables where
  /-- The names of all fields, in order. -/
  names : List String
  /-- The names of the fields that may be filtered by, as a set. -/
  filterable : List String
  /-- The names of the fields that may be ordered by, as a set. -/
  sortable : List String
  /-- Whether a field may be `NULL`, the latest entry first. -/
  nullable : List (String × Bool)
  /-- The types that values are converted to, the latest entry first; a field without one has texts. -/
  types : List (String × DataType)
  deriving DecidableEq, Repr

namespace FieldTables

def empty : FieldTables := ⟨[], [], [], [], []⟩

def isSelectable (t : FieldTables) (name : String) : Bool :=
  (t.nullable.lookup name).isSome

def isFilterable (t : FieldTables) (name : String) : Bool :=
  t.filterable.contains name

def isSortable (t : FieldTables) (name : String) : Bool :=
  t.sortable.contains name

def isNullable (t : FieldTables) (name : String) : Bool :=
  (t.nullable.lookup name).getD false

def type? (t : FieldTables) (name : String) : Option DataType :=
  t.types.lookup name

def size (t : FieldTables) : Nat :=
  t.names.length

/-- Adds a field behind the others, unless there is one of its name.  Texts need no conversion, so their type is not
kept. -/
def introduce (t : FieldTables) (name : String) (nullable : Bool) (type : Option DataType) : FieldTables :=
  if t.isSelectable name then t
  else { t with
    names := t.names ++ [name]
    nullable := (name, nullable) :: t.nullable
    types := ((type.filter (· ≠ .string)).map (name, ·)).toList ++ t.types }

/-- Adds a name to a set, if it is allowed to. -/
def insertIf (allowed : Bool) (name : String) (set : List String) : List String :=
  if allowed then set.insert name else set

/-- Gives rights to a name. -/
def allow (t : FieldTables) (name : String) (filterable sortable : Bool) : FieldTables :=
  { t with
    filterable := insertIf filterable name t.filterable
    sortable := insertIf sortable name t.sortable }

/-- A registration without a name changes nothing, and one with an unknown type fails.  The tables are what they have
become, also if it fails. -/
def add (t : FieldTables) (r : Registration) : FieldTables × Except Fault Unit :=
  match r.name with
  | none => (t, .ok ())
  | some name =>
    match r.declared with
    | .error fault => (t, .error fault)
    | .ok type => ((t.introduce name r.nullable type).allow name r.filterable r.sortable, .ok ())

theorem isFilterable_iff {t : FieldTables} {name : String} : t.isFilterable name = true ↔ name ∈ t.filterable :=
  List.contains_iff_mem

theorem isSortable_iff {t : FieldTables} {name : String} : t.isSortable name = true ↔ name ∈ t.sortable :=
  List.contains_iff_mem

theorem mem_insertIf_iff {allowed : Bool} {name x : String} {set : List String} :
    x ∈ insertIf allowed name set ↔ x ∈ set ∨ allowed = true ∧ x = name := by
  unfold insertIf
  cases allowed <;> simp [or_comm]

/-- The tables speak of the same fields, and of each once. -/
structure Consistent (t : FieldTables) : Prop where
  names_nodup : t.names.Nodup
  nullable_keys : t.nullable.map (·.1) = t.names.reverse
  types_keys : (t.types.map (·.1)).Sublist t.names.reverse
  filterable_subset : t.filterable ⊆ t.names
  sortable_subset : t.sortable ⊆ t.names

namespace Consistent

variable {t : FieldTables}

theorem empty : FieldTables.empty.Consistent := by
  constructor <;> simp [FieldTables.empty]

theorem isSelectable_iff (h : t.Consistent) {name : String} : t.isSelectable name = true ↔ name ∈ t.names := by
  rw [← List.mem_reverse, ← h.nullable_keys, isSelectable, List.lookup_isSome_iff, List.mem_map]
  simp

theorem introduce (h : t.Consistent) (name : String) (nullable : Bool) (type : Option DataType) :
    (t.introduce name nullable type).Consistent ∧ name ∈ (t.introduce name nullable type).names := by
  unfold FieldTables.introduce
  by_cases hknown : t.isSelectable name = true
  · rw [if_pos hknown]
    exact ⟨h, h.isSelectable_iff.1 hknown⟩
  · rw [if_neg hknown]
    have hname : name ∉ t.names := fun hmem => hknown (h.isSelectable_iff.2 hmem)
    refine ⟨?_, List.mem_append_right _ List.mem_cons_self⟩
    constructor
    case names_nodup =>
      refine List.nodup_append.2 ⟨h.names_nodup, List.nodup_cons.2 ⟨List.not_mem_nil, .nil⟩, ?_⟩
      intro x hx y hy hxy
      rw [← List.mem_singleton.1 hy, ← hxy] at hname
      exact hname hx
    case nullable_keys => simp [h.nullable_keys]
    case types_keys =>
      simp only [List.map_append, List.reverse_append]
      cases type.filter (· ≠ .string) with
      | none => exact h.types_keys.cons name
      | some type => exact h.types_keys.cons_cons name
    case filterable_subset => exact fun x hx => List.mem_append_left _ (h.filterable_subset hx)
    case sortable_subset => exact fun x hx => List.mem_append_left _ (h.sortable_subset hx)

theorem allow (h : t.Consistent) {name : String} (hname : name ∈ t.names) (filterable sortable : Bool) :
    (t.allow name filterable sortable).Consistent := by
  have hinsert : ∀ {allowed : Bool} {set : List String}, set ⊆ t.names → insertIf allowed name set ⊆ t.names := by
    intro allowed set hset x hx
    rcases mem_insertIf_iff.1 hx with hx | ⟨-, rfl⟩
    · exact hset hx
    · exact hname
  exact ⟨h.names_nodup, h.nullable_keys, h.types_keys, hinsert h.filterable_subset, hinsert h.sortable_subset⟩

theorem add (h : t.Consistent) (r : Registration) : (t.add r).1.Consistent := by
  unfold FieldTables.add
  cases r.name with
  | none => exact h
  | some name =>
    cases r.declared with
    | error fault => exact h
    | ok type =>
      obtain ⟨hnew, hname⟩ := h.introduce name r.nullable type
      exact hnew.allow hname r.filterable r.sortable

end Consistent

end FieldTables

structure Registry extends FieldTables where
  consistent : toFieldTables.Consistent
  deriving DecidableEq, Repr

namespace Registry

def empty : Registry := ⟨.empty, .empty⟩

def add (reg : Registry) (r : Registration) : Registry × Except Fault Unit :=
  (⟨(reg.toFieldTables.add r).1, reg.consistent.add r⟩, (reg.toFieldTables.add r).2)

/-- The registry of some fields, if none of the registrations fails. -/
def ofRegistrations (registrations : List Registration) : Except Fault Registry :=
  registrations.foldlM (fun reg r => (reg.add r).2.map fun _ => (reg.add r).1) empty

theorem isSelectable_iff {reg : Registry} {name : String} : reg.isSelectable name = true ↔ name ∈ reg.names :=
  reg.consistent.isSelectable_iff

/-- The names are the keys of the other tables. -/
theorem contains_names (reg : Registry) : reg.names.contains = reg.isSelectable := by
  funext name
  rw [Bool.eq_iff_iff, List.contains_iff_mem, isSelectable_iff]

theorem mem_names_of_isFilterable {reg : Registry} {name : String} (h : reg.isFilterable name = true) :
    name ∈ reg.names :=
  reg.consistent.filterable_subset (FieldTables.isFilterable_iff.1 h)

theorem mem_names_of_isSortable {reg : Registry} {name : String} (h : reg.isSortable name = true) :
    name ∈ reg.names :=
  reg.consistent.sortable_subset (FieldTables.isSortable_iff.1 h)

end Registry

end ParamQuery
