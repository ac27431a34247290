import ParamQuery.Paging
import ParamQuery.Proofs.Number.LeadingInt
import ParamQuery.Proofs.Success

/-!
# The bounds of a page

The page size of a request lies between 1 and the ceiling, and its offset is not negative, whatever the request and
the configuration say (`Limits.limit_mem`, `Limits.offset_nonneg`).  If the numbers that were given can be written,
so can the page, and a valid query has a statement (`Query.exists_statement`).
-/

namespace ParamQuery

theorem clamp_mem {minimum maximum : Int} (h : minimum ≤ maximum) (n : Int) :
    minimum ≤ clamp minimum (some maximum) n ∧ clamp minimum (some maximum) n ≤ maximum := by
  have hclamp : clamp minimum (some maximum) n = min (max minimum n) maximum := rfl
  omega

namespace RawValue

/-- The value is no integer with too many digits. -/
def IsShort (value : RawValue) : Prop :=
  ∀ n, value = .int n → Number.Writable n

theorem bounded_mem {default minimum maximum : Int} (hmin : minimum ≤ default) (hmax : default ≤ maximum)
    (value : RawValue) : minimum ≤ value.bounded default minimum (some maximum) ∧
      value.bounded default minimum (some maximum) ≤ maximum := by
  have hclamp := clamp_mem (Int.le_trans hmin hmax)
  unfold bounded
  split
  · exact hclamp _
  · exact hclamp _
  · exact ⟨hmin, hmax⟩

end RawValue

namespace Limits

/-- The usual page size is one that can be asked for. -/
structure Valid (l : Limits) : Prop where
  one_le_usual : 1 ≤ l.usual
  usual_le_ceiling : l.usual ≤ l.ceiling

theorem one_le_ceilingOf (greatest : Ceiling) : 1 ≤ ceilingOf greatest :=
  Int.le_max_left _ _

theorem valid_ofRaw (greatest : Ceiling) (usual : RawValue) : (ofRaw greatest usual).Valid := by
  obtain ⟨hmin, hmax⟩ := usual.bounded_mem (one_le_ceilingOf greatest) (Int.le_refl _)
  exact ⟨hmin, hmax⟩

theorem limit_mem {l : Limits} (h : l.Valid) (value : RawValue) : 1 ≤ l.limit value ∧ l.limit value ≤ l.ceiling :=
  value.bounded_mem h.one_le_usual h.usual_le_ceiling

theorem offset_nonneg (value : RawValue) : 0 ≤ offset value := by
  have hclamp : ∀ n, clamp 0 none n = max 0 n := fun _ => rfl
  unfold offset RawValue.bounded
  split
  · rw [hclamp]
    omega
  · rw [hclamp]
    omega
  · exact Int.le_refl 0

theorem writable_ceilingOf {greatest : Ceiling} (h : Number.Writable greatest.count) :
    Number.Writable (ceilingOf greatest) := by
  have hone : Number.Writable 1 := by decide
  have hstandard : Number.Writable 20 := by decide
  unfold ceilingOf standard
  split
  · exact hstandard
  · -- The ceiling is the number itself or 1.
    rcases Int.le_total 1 greatest.count with hle | hle
    · rw [Int.max_eq_right hle]
      exact h
    · rw [Int.max_eq_left hle]
      exact hone

theorem writable_limit {l : Limits} (h : l.Valid) (hceiling : Number.Writable l.ceiling) (value : RawValue) :
    Number.Writable (l.limit value) := by
  obtain ⟨hmin, hmax⟩ := limit_mem h value
  exact hceiling.of_natAbs_le (by omega)

theorem writable_offset {value : RawValue} (h : value.IsShort) : Number.Writable (offset value) := by
  have hzero : Number.Writable 0 := by decide
  have hclamp : ∀ n, Number.Writable n → Number.Writable (clamp 0 none n) := by
    intro n hn
    have hmax : clamp 0 none n = max 0 n := rfl
    exact hn.of_natAbs_le (by omega)
  unfold offset RawValue.bounded
  split
  · next n => exact hclamp n (h n rfl)
  · next s =>
    cases hs : Number.leadingInt s with
    | none => exact hclamp 0 hzero
    | some n => exact hclamp n (Number.writable_of_leadingInt hs)
  · exact hzero

end Limits

theorem Query.exists_statement {q : Query} (hoffset : Number.Writable q.offset)
    (hlimit : Number.Writable q.limit) : ∃ s, q.statement = .ok s := by
  have hpage : Statement.limitText? q.offset q.limit = some ("LIMIT " ++
      String.ofList (Number.intDigits q.offset) ++ "," ++ String.ofList (Number.intDigits q.limit)) := by
    unfold Statement.limitText?
    rw [Number.intText?_of_writable hoffset, Number.intText?_of_writable hlimit]
    rfl
  exact ⟨_, statement_eq_ok_iff.2 ⟨_, hpage, rfl⟩⟩

end ParamQuery
