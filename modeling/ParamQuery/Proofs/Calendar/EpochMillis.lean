import ParamQuery.Conversion
import ParamQuery.Proofs.Calendar.DayNumber
import ParamQuery.Proofs.Number.Rounding
import ParamQuery.Proofs.Numerals

/-!
# Milliseconds are read to the microsecond, or nearly

An integer of milliseconds goes through three roundings: the division by 1000, the microseconds of the fraction as a
floating-point number, and their whole number.  For the years of the calendar the first is off by at most `2 ^ -16`
seconds and the others by little more than half a microsecond, so the result is less than 16 microseconds from the
instant, and equal to it up to `2 ^ 33` seconds from 1970 (`convert_epochMillis`).

Rounding passes over no representable number, and so over neither end of the calendar: the integers whose instant lies
beyond are those for which there is no moment.
-/

namespace ParamQuery.Calendar

open ParamQuery.Number
open ParamQuery.Number.Binary64 (unitsPerOne unitsPerOne_pos mul_unitsPerOne_div_lt Representable
  representable_mul_unitsPerOne)

/-- Two roundings add up, the first one by less than a 128th of a unit. -/
private theorem add_roundings {exact float whole one gap : Nat} (hgap : 64 * gap ≤ one)
    (hfloat : 2 * exact ≤ 2 * float + gap ∧ 2 * float ≤ 2 * exact + gap)
    (hwhole : 2 * float ≤ 2 * whole + one ∧ 2 * whole ≤ 2 * float + one) :
    128 * exact ≤ 128 * whole + 65 * one ∧ 128 * whole ≤ 128 * exact + 65 * one := by
  omega

/-- The microseconds of a fraction of a second are off by little more than a half. -/
theorem microsOfUnits_bounds {rest : Nat} (h : rest < unitsPerOne) :
    (128 * (rest * 1000000) ≤ 128 * (microsOfUnits rest * unitsPerOne) + 65 * unitsPerOne ∧
      128 * (microsOfUnits rest * unitsPerOne) ≤ 128 * (rest * 1000000) + 65 * unitsPerOne) ∧
    microsOfUnits rest ≤ 1000000 := by
  have hsize : rest * 1000000 / 1 < Nat.pow 2 20 * unitsPerOne := by
    have hmillion : 1000000 < Nat.pow 2 20 := by decide
    have hpos := unitsPerOne_pos
    -- The unit is a power that must not be computed.
    generalize unitsPerOne = one at h hpos ⊢
    rw [Nat.div_one, Nat.mul_comm]
    exact Nat.mul_lt_mul_of_lt_of_le hmillion (Nat.le_of_lt h) hpos
  obtain ⟨v, hv⟩ := Binary64.exists_ofUnits false Nat.one_pos (by decide) hsize
  have hgap : 64 * Binary64.ulp (rest * 1000000) 1 ≤ unitsPerOne :=
    Binary64.two_pow_mul_ulp_le (j := 6) hsize (by decide)
  have hmicros : microsOfUnits rest = roundHalfEven v unitsPerOne := by
    rw [microsOfUnits, hv, Option.map_some, Option.getD_some]
  rw [hmicros]
  constructor
  · have hfloat := Binary64.ofUnits_bounds Nat.one_pos hv
    rw [Nat.mul_one, Nat.one_mul] at hfloat
    exact add_roundings hgap hfloat (roundHalfEven_bounds unitsPerOne_pos v)
  · apply roundHalfEven_le unitsPerOne_pos
    refine Binary64.ofUnits_le Nat.one_pos (representable_mul_unitsPerOne (by decide)) ?_ hv
    rw [Nat.mul_one, Nat.mul_comm]
    exact Nat.mul_le_mul_left 1000000 (Nat.le_of_lt h)

/-- The microseconds of a number of seconds, given in units. -/
def microsOfSeconds (units : Nat) : Nat :=
  units / unitsPerOne * 1000000 + microsOfUnits (units % unitsPerOne)

theorem Moment.ofMillis?_eq (millis : Binary64) :
    Moment.ofMillis? millis = (millis.divNat 1000).units?.bind fun units =>
      Moment.ofMicros? (signed (millis.divNat 1000).isNegative (microsOfSeconds units)) :=
  rfl

/-- Whole seconds are exact. -/
private theorem add_whole {whole rest micros error : Nat}
    (h : 128 * rest ≤ 128 * micros + error ∧ 128 * micros ≤ 128 * rest + error) :
    128 * (whole + rest) ≤ 128 * (whole + micros) + error ∧
      128 * (whole + micros) ≤ 128 * (whole + rest) + error := by
  omega

theorem microsOfSeconds_bounds (units : Nat) :
    128 * (units * 1000000) ≤ 128 * (microsOfSeconds units * unitsPerOne) + 65 * unitsPerOne ∧
      128 * (microsOfSeconds units * unitsPerOne) ≤ 128 * (units * 1000000) + 65 * unitsPerOne := by
  obtain ⟨hbounds, -⟩ := microsOfUnits_bounds (Nat.mod_lt units unitsPerOne_pos)
  have hunits : units * 1000000 =
      units / unitsPerOne * unitsPerOne * 1000000 + units % unitsPerOne * 1000000 := by
    rw [← Nat.add_mul, Nat.div_add_mod']
  have hmicros : microsOfSeconds units * unitsPerOne =
      units / unitsPerOne * unitsPerOne * 1000000 + microsOfUnits (units % unitsPerOne) * unitsPerOne := by
    rw [microsOfSeconds, Nat.add_mul, Nat.mul_right_comm]
  rw [hunits, hmicros]
  exact add_whole hbounds

theorem le_microsOfSeconds {a units : Nat} (h : a * unitsPerOne ≤ units) :
    a * 1000000 ≤ microsOfSeconds units := by
  have hwhole : a ≤ units / unitsPerOne := (Nat.le_div_iff_mul_le unitsPerOne_pos).2 h
  exact Nat.le_trans (Nat.mul_le_mul_right 1000000 hwhole) (Nat.le_add_right _ _)

theorem microsOfSeconds_le {a units : Nat} (h : units ≤ a * unitsPerOne) :
    microsOfSeconds units ≤ a * 1000000 := by
  have hdiv : units / unitsPerOne * unitsPerOne + units % unitsPerOne = units := Nat.div_add_mod' _ _
  have hwhole : units / unitsPerOne ≤ a := Nat.div_le_of_le_mul (by rwa [Nat.mul_comm])
  unfold microsOfSeconds
  -- Below the bound the fraction reaches it at most; at the bound there is no fraction.
  rcases Nat.lt_or_eq_of_le hwhole with hlt | heq
  · obtain ⟨-, hmicros⟩ := microsOfUnits_bounds (Nat.mod_lt units unitsPerOne_pos)
    omega
  · rw [heq] at hdiv
    have hrest : units % unitsPerOne = 0 := by omega
    have hzero : microsOfUnits 0 = 0 := by
      obtain ⟨⟨-, hle⟩, -⟩ := microsOfUnits_bounds unitsPerOne_pos
      have hpos := unitsPerOne_pos
      rcases Nat.eq_zero_or_pos (microsOfUnits 0) with hzero | hone
      · exact hzero
      · have hmul : 1 * unitsPerOne ≤ microsOfUnits 0 * unitsPerOne := Nat.mul_le_mul_right _ hone
        omega
    refine Nat.le_of_eq ?_
    rw [heq, hrest, hzero, Nat.add_zero]

section Seconds

variable {negative : Bool} {n : Nat}

/-- The sign of the milliseconds is that of the seconds. -/
theorem isNegative_seconds : ((Binary64.ofRatio negative n 1).divNat 1000).isNegative = negative := by
  rw [Binary64.isNegative_divNat, Binary64.isNegative_ofRatio]

theorem exists_units?_seconds (h : n < Nat.pow 2 53) :
    ∃ u, ((Binary64.ofRatio negative n 1).divNat 1000).units? = some u := by
  rw [Binary64.divNat_of_units? (Binary64.units?_ofRatio h)]
  exact Binary64.exists_ofUnits _ (by decide) (by decide) (mul_unitsPerOne_div_lt h)

variable {u : Nat}

/-- Below `2 ^ k` seconds, the seconds are off by `2 ^ (k - 54)` at most. -/
theorem seconds_bounds {j k : Nat} (hjk : j + k ≤ 53) (hn : n < Nat.pow 2 53) (h : n < 1000 * Nat.pow 2 k)
    (hu : ((Binary64.ofRatio negative n 1).divNat 1000).units? = some u) :
    ∃ gap, Nat.pow 2 j * gap ≤ unitsPerOne ∧ 2 * (n * unitsPerOne) ≤ 2 * (u * 1000) + 1000 * gap ∧
      2 * (u * 1000) ≤ 2 * (n * unitsPerOne) + 1000 * gap := by
  have hsize : n * unitsPerOne / 1000 < Nat.pow 2 k * unitsPerOne := by
    rw [Nat.div_lt_iff_lt_mul (by decide), Nat.mul_right_comm, Nat.mul_comm (Nat.pow 2 k)]
    exact Nat.mul_lt_mul_of_pos_right h unitsPerOne_pos
  rw [Binary64.divNat_of_units? (Binary64.units?_ofRatio hn)] at hu
  exact ⟨_, Binary64.two_pow_mul_ulp_le hsize hjk, Binary64.ofUnits_bounds (by decide) hu⟩

/-- Milliseconds that are no less than `a`, and so seconds that are no less than `b`. -/
theorem le_seconds {a b : Nat} (ha : a < Nat.pow 2 53) (han : a ≤ n) (hb : Representable b)
    (hba : b * 1000 ≤ a * unitsPerOne)
    (hu : ((Binary64.ofRatio negative n 1).divNat 1000).units? = some u) : b ≤ u := by
  cases hmillis : (Binary64.ofRatio negative n 1).units? with
  | none =>
    rw [Binary64.divNat_of_units?_eq_none hmillis, hmillis] at hu
    cases hu
  | some v =>
    have hav : a * unitsPerOne ≤ v :=
      Binary64.le_ofUnits Nat.one_pos (representable_mul_unitsPerOne ha)
        (by rw [Nat.mul_one]; exact Nat.mul_le_mul_right _ han) hmillis
    rw [Binary64.divNat_of_units? hmillis] at hu
    exact Binary64.le_ofUnits (by decide) hb (Nat.le_trans hba hav) hu

theorem seconds_le {a : Nat} (ha : a * 1000 < Nat.pow 2 53) (han : n ≤ a * 1000)
    (hu : ((Binary64.ofRatio negative n 1).divNat 1000).units? = some u) : u ≤ a * unitsPerOne := by
  rw [Binary64.divNat_of_units? (Binary64.units?_ofRatio (Nat.lt_of_le_of_lt han ha))] at hu
  refine Binary64.ofUnits_le (by decide) (representable_mul_unitsPerOne ?_) ?_ hu
  · omega
  · rw [Nat.mul_right_comm]
    exact Nat.mul_le_mul_right _ han

/-- The three roundings together. -/
private theorem add_seconds {exact seconds micros one gap : Nat}
    (hseconds : 2 * exact ≤ 2 * (seconds * 1000) + 1000 * gap ∧ 2 * (seconds * 1000) ≤ 2 * exact + 1000 * gap)
    (hmicros : 128 * (seconds * 1000000) ≤ 128 * micros + 65 * one ∧
      128 * micros ≤ 128 * (seconds * 1000000) + 65 * one) :
    128 * (1000 * exact) ≤ 128 * micros + 64000000 * gap + 65 * one ∧
      128 * micros ≤ 128 * (1000 * exact) + 64000000 * gap + 65 * one := by
  omega

theorem micros_bounds {j k : Nat} (hjk : j + k ≤ 53) (hn : n < Nat.pow 2 53) (h : n < 1000 * Nat.pow 2 k)
    (hu : ((Binary64.ofRatio negative n 1).divNat 1000).units? = some u) :
    ∃ gap, Nat.pow 2 j * gap ≤ unitsPerOne ∧
      128 * (1000 * n * unitsPerOne) ≤
        128 * (microsOfSeconds u * unitsPerOne) + 64000000 * gap + 65 * unitsPerOne ∧
      128 * (microsOfSeconds u * unitsPerOne) ≤
        128 * (1000 * n * unitsPerOne) + 64000000 * gap + 65 * unitsPerOne := by
  obtain ⟨gap, hgap, hseconds⟩ := seconds_bounds hjk hn h hu
  refine ⟨gap, hgap, ?_⟩
  rw [Nat.mul_assoc 1000]
  exact add_seconds hseconds (microsOfSeconds_bounds u)

private theorem lt_add_of_scaled {a b c e : Nat} (h : a * e < b * e + c * e) : a < b + c := by
  rw [← Nat.add_mul] at h
  exact Nat.lt_of_mul_lt_mul_right h

/-- For the years of the calendar and long after, the microseconds are off by less than 16. -/
theorem micros_near (h : n < 1000 * Nat.pow 2 38)
    (hu : ((Binary64.ofRatio negative n 1).divNat 1000).units? = some u) :
    1000 * n < microsOfSeconds u + 16 ∧ microsOfSeconds u < 1000 * n + 16 := by
  obtain ⟨gap, hgap, hle, hge⟩ := micros_bounds (j := 15) (by decide) (Nat.lt_trans h (by decide)) h hu
  replace hgap : 32768 * gap ≤ unitsPerOne := hgap
  have hpos := unitsPerOne_pos
  generalize unitsPerOne = one at *
  exact ⟨lt_add_of_scaled (e := one) (by omega), lt_add_of_scaled (e := one) (by omega)⟩

/-- For some 270 years both ways, the microseconds are those of the milliseconds. -/
theorem micros_exact (h : n < 1000 * Nat.pow 2 33)
    (hu : ((Binary64.ofRatio negative n 1).divNat 1000).units? = some u) : microsOfSeconds u = 1000 * n := by
  obtain ⟨gap, hgap, hle, hge⟩ := micros_bounds (j := 20) (by decide) (Nat.lt_trans h (by decide)) h hu
  replace hgap : 1048576 * gap ≤ unitsPerOne := hgap
  have hpos := unitsPerOne_pos
  generalize unitsPerOne = one at *
  have hlt : 1000 * n < microsOfSeconds u + 1 := lt_add_of_scaled (e := one) (by omega)
  have hgt : microsOfSeconds u < 1000 * n + 1 := lt_add_of_scaled (e := one) (by omega)
  omega

/-- A millisecond before the first year, and so seconds before it: `62135596800 + 2 ^ -10` is representable. -/
theorem lt_microsOfSeconds (h : 62135596800001 ≤ n)
    (hu : ((Binary64.ofRatio negative n 1).divNat 1000).units? = some u) :
    62135596800 * 1000000 < microsOfSeconds u := by
  obtain ⟨b, hrepresentable, hb⟩ := Binary64.exists_representable
    (show 62135596800 * 1024 + 1 < Nat.pow 2 53 by decide) (show 10 ≤ 1074 by decide)
  rw [show Nat.pow 2 10 = 1024 from rfl] at hb
  have hba : b * 1000 ≤ 62135596800001 * unitsPerOne := by
    generalize unitsPerOne = one at hb ⊢
    omega
  have hbu : b ≤ u := le_seconds (by decide) h hrepresentable hba hu
  obtain ⟨hmicros, -⟩ := microsOfSeconds_bounds u
  have hpos := unitsPerOne_pos
  apply Nat.lt_of_mul_lt_mul_right (a := unitsPerOne)
  generalize unitsPerOne = one at *
  omega

end Seconds

section Moments

variable {n : Int}

/-- The floating-point number that the digits of `n` are read as. -/
def floatMillis (n : Int) : Binary64 :=
  Binary64.ofRatio (decide (n < 0)) n.natAbs 1

/-- Microseconds with the sign of the milliseconds. -/
theorem signed_micros (hfirst : Moment.firstMicro ≤ 1000 * n) (hend : 1000 * n < Moment.endMicro) {micros : Nat}
    (hnear : 1000 * n.natAbs < micros + 16 ∧ micros < 1000 * n.natAbs + 16)
    (hyearOne : n < 0 → micros ≤ 62135596800 * 1000000) :
    (Moment.firstMicro ≤ signed (decide (n < 0)) micros ∧ signed (decide (n < 0)) micros < Moment.endMicro) ∧
      (signed (decide (n < 0)) micros - 1000 * n).natAbs < 16 ∧
      (micros = 1000 * n.natAbs → signed (decide (n < 0)) micros = 1000 * n) := by
  unfold Moment.firstMicro Moment.endMicro at *
  unfold signed
  by_cases hnegative : n < 0
  · replace hyearOne := hyearOne hnegative
    simp only [hnegative, decide_true, if_true]
    omega
  · simp only [hnegative, decide_false, Bool.false_eq_true, if_false]
    omega

theorem exists_ofMillis? (hfirst : Moment.firstMicro ≤ 1000 * n) (hend : 1000 * n < Moment.endMicro) :
    ∃ m, Moment.ofMillis? (floatMillis n) = some m ∧ m.offset = 0 ∧ (m.micros - 1000 * n).natAbs < 16 ∧
      (n.natAbs < 1000 * Nat.pow 2 33 → m.micros = 1000 * n) := by
  have hsize : n.natAbs < 1000 * Nat.pow 2 38 := by
    unfold Moment.firstMicro at hfirst
    unfold Moment.endMicro at hend
    rw [show Nat.pow 2 38 = 274877906944 from rfl]
    omega
  have hlast : n < 0 → n.natAbs ≤ 62135596800 * 1000 := by
    unfold Moment.firstMicro at hfirst
    omega
  obtain ⟨u, hu⟩ : ∃ u, ((floatMillis n).divNat 1000).units? = some u :=
    exists_units?_seconds (Nat.lt_trans hsize (by decide))
  -- At the start of the year 1 an error of a microsecond would leave the calendar.
  have hyearOne : n < 0 → microsOfSeconds u ≤ 62135596800 * 1000000 := fun hnegative =>
    microsOfSeconds_le (seconds_le (by decide) (hlast hnegative) hu)
  obtain ⟨hyears, hoff, hexact⟩ := signed_micros hfirst hend (micros_near hsize hu) hyearOne
  obtain ⟨m, hm, hoffset, hmicros⟩ := Moment.exists_ofMicros? hyears.1 hyears.2
  rw [Moment.ofMillis?_eq, hu, floatMillis, isNegative_seconds, Option.bind_some]
  exact ⟨m, hm, hoffset, by rwa [hmicros], fun h => by rw [hmicros, hexact (micros_exact h hu)]⟩

theorem ofMillis?_eq_none (h : 1000 * n < Moment.firstMicro ∨ Moment.endMicro ≤ 1000 * n) :
    Moment.ofMillis? (floatMillis n) = none := by
  rw [floatMillis, Moment.ofMillis?_eq, isNegative_seconds]
  cases hu : ((Binary64.ofRatio (decide (n < 0)) n.natAbs 1).divNat 1000).units? with
  | none => rfl
  | some u =>
    rw [Option.bind_some]
    apply Moment.ofMicros?_eq_none
    unfold signed
    unfold Moment.firstMicro Moment.endMicro at *
    rcases h with hbefore | hafter
    · have hmicros := lt_microsOfSeconds (by omega) hu
      have hnegative : n < 0 := by omega
      simp only [hnegative, decide_true, if_true]
      omega
    · have hseconds : 253402300800 * unitsPerOne ≤ u := by
        refine le_seconds (a := 253402300800000) (by decide) (by omega)
          (representable_mul_unitsPerOne (by decide)) (Nat.le_of_eq ?_) hu
        rw [Nat.mul_right_comm]
      have hmicros := le_microsOfSeconds hseconds
      have hnegative : ¬ n < 0 := by omega
      simp only [hnegative, decide_false, Bool.false_eq_true, if_false]
      omega

end Moments

end ParamQuery.Calendar

namespace ParamQuery

open Calendar

/-- Digits are no date text. -/
theorem readMoment?_intDigits (n : Int) :
    readMoment? (String.ofList (Number.intDigits n)) = Moment.ofMillis? (floatMillis n) := by
  have hcolon : ':' ∉ (String.ofList (Number.intDigits n)).toList := by
    rw [String.toList_ofList]
    intro h
    rcases Number.digit_or_minus_of_mem_intDigits h with hdigit | hminus
    · exact absurd hdigit (by decide)
    · exact absurd hminus (by decide)
  rw [readMoment?, readMoment, if_neg hcolon, DateText.toOption_required, Number.leadingFloat_intDigits,
    Option.bind_some, floatMillis]

/-- The text of an integer of milliseconds is converted if their instant is in the years of the calendar: to a moment
of offset 0 that is less than 16 microseconds from it, and so has the same milliseconds, and that is exactly it up to
`2 ^ 33` seconds from 1970.  The text of any other integer is noted as a failure. -/
theorem convert_epochMillis (n : Int) (field : String) :
    ((∃ instant : Moment, instant.offset = 0 ∧ instant.micros = 1000 * n) →
      ∃ m : Moment,
        DataType.datetime.convert field (String.ofList (Number.intDigits n)) = (some (.moment m), []) ∧
        m.offset = 0 ∧ (m.micros - 1000 * n).natAbs < 16 ∧ (m.micros + 500) / 1000 = n ∧
        (n.natAbs < 1000 * Nat.pow 2 33 → m.micros = 1000 * n)) ∧
    ((¬ ∃ instant : Moment, instant.offset = 0 ∧ instant.micros = 1000 * n) →
      DataType.datetime.convert field (String.ofList (Number.intDigits n)) =
        (none, [.unconvertible (String.ofList (Number.intDigits n)) field .datetime])) := by
  rw [Moment.exists_micros_iff, DataType.convert, DataType.convert?_eq, readMoment?_intDigits]
  constructor
  · rintro ⟨hfirst, hend⟩
    obtain ⟨m, hm, hoffset, hnear, hexact⟩ := exists_ofMillis? hfirst hend
    rw [hm]
    exact ⟨m, rfl, hoffset, hnear, by omega, hexact⟩
  · intro houtside
    rw [ofMillis?_eq_none (by omega)]
    rfl

/-- The last millisecond of the year 9999, and the next one. -/
theorem convert_epochMillis_endOfYears :
    (∃ m : Moment,
      DataType.datetime.convert "created" (String.ofList (Number.intDigits 253402300799999)) =
        (some (.moment m), []) ∧
      m.offset = 0 ∧ (m.micros - 1000 * 253402300799999).natAbs < 16 ∧
      (m.micros + 500) / 1000 = 253402300799999 ∧
      ((253402300799999 : Int).natAbs < 1000 * Nat.pow 2 33 → m.micros = 1000 * 253402300799999)) ∧
    DataType.datetime.convert "created" (String.ofList (Number.intDigits 253402300800000)) =
      (none, [.unconvertible (String.ofList (Number.intDigits 253402300800000)) "created" .datetime]) :=
  ⟨(convert_epochMillis 253402300799999 "created").1
      ⟨⟨⟨9999, 12, 31, by decide⟩, ⟨23, 59, 59, 999000, by decide⟩, 0⟩, rfl, by decide⟩,
    (convert_epochMillis 253402300800000 "created").2 (by rw [Moment.exists_micros_iff]; decide)⟩

end ParamQuery
