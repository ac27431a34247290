import Mathlib.Algebra.Order.Field.Power
import Mathlib.Tactic.FieldSimp
import ParamQuery.Proofs.Number.Nearest

/-!
# Correct rounding

Quotients of naturals and decimals of any size are rounded to the nearest number (`Binary64.isNearest_ofRatio`,
`Binary64.isNearest_ofDecimal`).  A number of the size of the quotient is a multiple of the gap there, so the nearest
multiple is the nearest number; numbers with smaller gaps are below all of that size.
-/

namespace ParamQuery.Number

/-- The distance of two natural numbers. -/
def distance (a b : Nat) : Nat :=
  ((a : Int) - b).natAbs

/-- No multiple of the denominator is nearer, and one that is as near is the odd one of two. -/
theorem roundHalfEven_nearest {den : Nat} (hden : 0 < den) (num b : Nat) :
    distance (roundHalfEven num den * den) num ≤ distance (b * den) num ∧
      (b ≠ roundHalfEven num den → distance (b * den) num = distance (roundHalfEven num den * den) num →
        roundHalfEven num den % 2 = 0) := by
  have hdiv : num / den * den + num % den = num := Nat.div_add_mod' num den
  have hmod : num % den < den := Nat.mod_lt num hden
  have hsucc : (num / den + 1) * den = num / den * den + den := Nat.succ_mul _ _
  have hbelow : b < num / den → b * den + den ≤ num / den * den := fun h => by
    rw [← Nat.succ_mul]
    exact Nat.mul_le_mul_right den h
  have hequal : b = num / den → b * den = num / den * den := fun h => by rw [h]
  have habove : num / den + 1 ≤ b → num / den * den + den ≤ b * den := fun h => by
    rw [← hsucc]
    exact Nat.mul_le_mul_right den h
  have hfar : num / den + 1 < b → num / den * den + den + den ≤ b * den := fun h => by
    rw [← hsucc, ← Nat.succ_mul]
    exact Nat.mul_le_mul_right den h
  unfold distance
  rcases roundHalfEven_sides num den with ⟨heq, hrest⟩ | ⟨heq, hrest⟩ <;> rw [heq]
  · omega
  · omega

namespace Binary64

variable {negative : Bool} {num den : Nat}

/-- A quotient whose gap is not among those of the finite numbers is above all numbers. -/
theorem extent_infinite_le (hscale : (infinite negative).scale ≤ (num / den).log2 - 52) :
    (infinite negative).extent ≤ num / den :=
  have hlog : 52 < (num / den).log2 := Nat.lt_of_sub_pos (Nat.lt_of_lt_of_le (by decide : 0 < 2046) hscale)
  calc (infinite negative).extent ≤ Nat.pow 2 52 * ulp num den := Nat.mul_le_mul_left _ (two_pow_le hscale)
    _ ≤ num / den := le_div_of_ulp hlog

/-- The significand that has become full is carried to the next scale. -/
theorem pack_full (negative : Bool) {scale : Nat} (h : scale < (infinite negative).scale) :
    (pack negative (Nat.pow 2 52) (scale + 1)).extent = Nat.pow 2 53 * Nat.pow 2 scale ∧
      (pack negative (Nat.pow 2 52) (scale + 1)).significand % 2 = 0 := by
  unfold pack
  split
  · exact ⟨two_pow_carry scale, (by decide : Nat.pow 2 52 % 2 = 0)⟩
  · next hcanonical =>
    have hlast : scale + 1 = (infinite negative).scale :=
      Nat.le_antisymm h (Nat.lt_of_not_le fun hle => hcanonical ⟨by decide, hle, .inr (Nat.le_refl _)⟩)
    refine ⟨?_, even_significand_infinite⟩
    rw [← two_pow_carry, hlast]
    rfl

theorem pack_eq_infinite {significand scale : Nat} (h : (infinite negative).scale ≤ scale) :
    pack negative significand scale = .infinite negative :=
  dif_neg fun hcanonical => Nat.not_lt.2 h (Nat.lt_succ_of_le hcanonical.2.1)

/-- A rounded quotient is a number of gaps, and its significand is even where that number is.  A quotient above all
numbers becomes infinity. -/
theorem ofUnits_cases (negative : Bool) (num : Nat) (hden : 0 < den) :
    ((ofUnits negative num den).extent = roundHalfEven num (den * ulp num den) * ulp num den ∧
        (roundHalfEven num (den * ulp num den) % 2 = 0 → (ofUnits negative num den).significand % 2 = 0)) ∨
      (ofUnits negative num den = .infinite negative ∧ (infinite negative).extent ≤ num / den) := by
  have hle : roundHalfEven num (den * ulp num den) ≤ Nat.pow 2 53 := significand_le hden
  unfold ofUnits
  simp only
  rcases Nat.lt_or_ge ((num / den).log2 - 52) (infinite negative).scale with hlt | hge
  · refine .inl ?_
    split
    · next hfull =>
      obtain ⟨hextent, heven⟩ := pack_full negative hlt
      refine ⟨?_, fun _ => heven⟩
      rw [hextent, ← hfull]
      rfl
    · next hfull =>
      have hcanonical : Canonical (roundHalfEven num (den * ulp num den)) ((num / den).log2 - 52) := by
        refine ⟨Nat.lt_of_le_of_ne hle hfull, Nat.le_of_lt_succ hlt, ?_⟩
        rcases Nat.lt_or_ge 52 (num / den).log2 with hscale | hscale
        · exact .inr (le_significand hden hscale)
        · exact .inl (Nat.sub_eq_zero_of_le hscale)
      obtain ⟨hextent, hsignificand⟩ := pack_canonical negative hcanonical
      exact ⟨hextent, fun heven => Eq.trans (congrArg (· % 2) hsignificand) heven⟩
  · refine .inr ⟨?_, extent_infinite_le hge⟩
    split
    · exact pack_eq_infinite (Nat.le_succ_of_le hge)
    · exact pack_eq_infinite hge

/-- A number that is no number of gaps is below those of the size of the quotient, and farther from it than they. -/
theorem exists_mul_ulp_or_farther (hden : 0 < den) {a : Nat} (ha : Representable a) :
    (∃ b, a = b * ulp num den) ∨
      distance (roundHalfEven num (den * ulp num den) * (den * ulp num den)) num < distance (a * den) num := by
  rcases Nat.lt_or_ge 52 (num / den).log2 with hscale | hscale
  · rcases Nat.lt_or_ge a (Nat.pow 2 52 * ulp num den) with hlt | hge
    · right
      have hle : Nat.pow 2 52 * ulp num den * den ≤ num := (Nat.le_div_iff_mul_le hden).1 (le_div_of_ulp hscale)
      have ha : a * den < Nat.pow 2 52 * ulp num den * den := Nat.mul_lt_mul_of_pos_right hlt hden
      rw [Nat.mul_assoc, Nat.mul_comm (ulp num den)] at hle ha
      have hnearest := (roundHalfEven_nearest (Nat.mul_pos hden (ulp_pos num den)) num (Nat.pow 2 52)).1
      unfold distance at hnearest ⊢
      omega
    · exact .inl (ha.exists_mul_ulp hge)
  · exact .inl ⟨a, by rw [ulp_eq_one hscale, Nat.mul_one]⟩

/-- No number is nearer to the quotient than its rounding, and where another is as near the rounding has the even
significand. -/
theorem ofUnits_nearest (negative : Bool) (num : Nat) (hden : 0 < den) (y : Binary64) :
    distance ((ofUnits negative num den).extent * den) num ≤ distance (y.extent * den) num ∧
      (y.extent ≠ (ofUnits negative num den).extent →
        distance (y.extent * den) num = distance ((ofUnits negative num den).extent * den) num →
          (ofUnits negative num den).significand % 2 = 0) := by
  rcases ofUnits_cases negative num hden with ⟨hextent, heven⟩ | ⟨hinfinite, hle⟩
  · have hunits : ∀ b, b * ulp num den * den = b * (den * ulp num den) := fun b => by
      rw [Nat.mul_assoc, Nat.mul_comm (ulp num den)]
    rw [hextent, hunits]
    rcases exists_mul_ulp_or_farther hden y.representable_extent with ⟨b, hb⟩ | hfarther
    · obtain ⟨hle, htie⟩ := roundHalfEven_nearest (Nat.mul_pos hden (ulp_pos num den)) num b
      rw [hb, hunits]
      exact ⟨hle, fun hne heq => heven (htie (fun h => hne (by rw [h])) heq)⟩
    · exact ⟨Nat.le_of_lt hfarther, fun _ heq => absurd heq.symm (Nat.ne_of_lt hfarther)⟩
  · have htop : (infinite negative).extent * den ≤ num := (Nat.le_div_iff_mul_le hden).1 hle
    have hy : y.extent * den ≤ (infinite negative).extent * den :=
      Nat.mul_le_mul_right den y.extent_le_infinite
    rw [hinfinite]
    refine ⟨?_, fun _ _ => even_significand_infinite⟩
    unfold distance
    omega

theorem abs_magnitude_sub (x : Binary64) (num : Nat) (hden : 0 < den) :
    |x.magnitude - num / (den * unitsPerOne)| = distance (x.extent * den) num / (den * unitsPerOne : ℚ) := by
  have hunit := cast_unitsPerOne_pos
  have hden : (0 : ℚ) < den := Nat.cast_pos.2 hden
  have hsub : x.magnitude - num / (den * unitsPerOne) = (x.extent * den - num) / (den * unitsPerOne) := by
    rw [magnitude]
    field_simp
  rw [hsub, abs_div, abs_of_pos (mul_pos hden hunit), distance, Nat.cast_natAbs]
  push_cast
  rfl

/-- A quotient of units is rounded to the nearest number. -/
theorem isNearest_ofUnits (negative : Bool) (num : Nat) (hden : 0 < den) :
    (ofUnits negative num den).IsNearest (num / (den * unitsPerOne)) := by
  have hpos : (0 : ℚ) < den * unitsPerOne := mul_pos (Nat.cast_pos.2 hden) cast_unitsPerOne_pos
  refine ⟨fun y => ?least, fun y hne heq => ?even⟩
  case least =>
    rw [abs_magnitude_sub _ _ hden, abs_magnitude_sub _ _ hden, div_le_div_iff_of_pos_right hpos, Nat.cast_le]
    exact (ofUnits_nearest negative num hden y).1
  case even =>
    rw [abs_magnitude_sub _ _ hden, abs_magnitude_sub _ _ hden, div_left_inj' hpos.ne', Nat.cast_inj] at heq
    refine (ofUnits_nearest negative num hden y).2 (fun h => hne ?_) heq
    rw [magnitude, h]
    rfl

theorem isNearest_ofRatio (negative : Bool) (num : Nat) (hden : 0 < den) :
    (ofRatio negative num den).IsNearest (num / den) := by
  have hnearest := isNearest_ofUnits negative (num * unitsPerOne) hden
  rwa [Nat.cast_mul, mul_div_mul_right _ _ cast_unitsPerOne_pos.ne'] at hnearest

theorem isNearest_divNat {x : Binary64} {units : Nat} (h : x.units? = some units) (hden : 0 < den) :
    (x.divNat den).IsNearest (x.magnitude / den) := by
  rw [divNat_of_units? h, magnitude, extent_of_units? h, div_div, mul_comm (unitsPerOne : ℚ)]
  exact isNearest_ofUnits x.isNegative units hden

/-- The quotient of a finite number is finite. -/
theorem exists_units?_divNat {x : Binary64} {units : Nat} (h : x.units? = some units) (hden : 0 < den) :
    ∃ u, (x.divNat den).units? = some u := by
  refine Option.ne_none_iff_exists'.1 fun hnone => ?_
  have hoverflow := (isNearest_divNat h hden).units?_eq_none_iff.1 hnone
  have hnonneg : 0 ≤ x.magnitude := div_nonneg (Nat.cast_nonneg _) cast_unitsPerOne_pos.le
  have hle : x.magnitude / den ≤ x.magnitude := div_le_self hnonneg (Nat.one_le_cast.2 hden)
  exact absurd (magnitude_lt_overflow h) (not_lt_of_ge (le_trans hoverflow hle))

theorem extent_infinite_le_ten_pow (negative : Bool) : (infinite negative).extent ≤ Nat.pow 10 311 * unitsPerOne := by
  cases negative <;> decide +kernel

theorem two_mul_unitsPerOne_le : 2 * unitsPerOne ≤ Nat.pow 10 331 := by
  decide +kernel

/-- From a power of ten on every magnitude is above all numbers, and below one all are less than half a unit. -/
theorem exists_ten_pow_bounds (negative : Bool) : ∃ large small : Nat, large = 311 ∧ small = 331 ∧
    (infinite negative).magnitude ≤ 10 ^ (large : ℤ) ∧ 2 * (unitsPerOne : ℚ) ≤ 10 ^ (small : ℤ) := by
  have hlarge := extent_infinite_le_ten_pow negative
  have hsmall := two_mul_unitsPerOne_le
  generalize 311 = large at hlarge
  generalize 331 = small at hsmall
  refine ⟨large, small, rfl, rfl, ?_, by exact_mod_cast hsmall⟩
  rw [magnitude, div_le_iff₀ cast_unitsPerOne_pos]
  exact_mod_cast hlarge

theorem isNegative_ofDecimal (negative : Bool) (digits count : Nat) (exponent : Int) :
    (ofDecimal negative digits count exponent).isNegative = negative := by
  unfold ofDecimal
  split
  · exact isNegative_pack _ _ _
  · split
    · rfl
    · split
      · exact isNegative_pack _ _ _
      · exact isNegative_ofRatio _ _ _

/-- A decimal is a quotient of naturals. -/
theorem cast_ratio_eq (digits : Nat) (exponent : Int) :
    ((digits * Nat.pow 10 exponent.toNat : Nat) : ℚ) / (Nat.pow 10 (-exponent).toNat : Nat) =
      digits * 10 ^ exponent := by
  rcases Int.eq_nat_or_neg exponent with ⟨k, rfl | rfl⟩
  · simp
  · simp [div_eq_mul_inv]

/-- A decimal with a power of ten that is not computed is beyond all numbers. -/
theorem isNearest_large (negative : Bool) {digits : Nat} (hpos : digits ≠ 0) {exponent : Int} (h : 310 < exponent) :
    (infinite negative).IsNearest (digits * 10 ^ exponent) := by
  obtain ⟨large, -, hlarge, -, hinfinite, -⟩ := exists_ten_pow_bounds negative
  refine isNearest_infinite negative (le_trans hinfinite ?_)
  have hone : (1 : ℚ) ≤ digits := Nat.one_le_cast.2 (Nat.pos_of_ne_zero hpos)
  calc (10 : ℚ) ^ (large : ℤ) = 1 * 10 ^ (large : ℤ) := (one_mul _).symm
    _ ≤ digits * 10 ^ exponent :=
      mul_le_mul hone (zpow_le_zpow_right₀ (by norm_num) (by omega)) (by positivity) (by positivity)

/-- A decimal with one on the other side is less than half a unit. -/
theorem isNearest_small (negative : Bool) {digits count : Nat} (hcount : digits < Nat.pow 10 count) {exponent : Int}
    (h : exponent + count < -330) : (pack negative 0 0).IsNearest (digits * 10 ^ exponent) := by
  obtain ⟨-, small, -, hsmall, -, hunit⟩ := exists_ten_pow_bounds negative
  refine isNearest_zero negative (by positivity) ?_
  have hdigits : (digits : ℚ) ≤ 10 ^ (count : ℤ) := by exact_mod_cast hcount.le
  calc 2 * ((digits : ℚ) * 10 ^ exponent) * unitsPerOne = digits * 10 ^ exponent * (2 * unitsPerOne) := by ring
    _ ≤ 10 ^ (count : ℤ) * 10 ^ exponent * 10 ^ (small : ℤ) :=
      mul_le_mul (mul_le_mul_of_nonneg_right hdigits (by positivity)) hunit
        (mul_pos two_pos cast_unitsPerOne_pos).le (by positivity)
    _ = 10 ^ (count + exponent + small) := by rw [zpow_add₀ (by norm_num), zpow_add₀ (by norm_num)]
    _ ≤ 1 := zpow_le_one_of_nonpos₀ (by norm_num) (by omega)

/-- A decimal of any size is rounded to the nearest number. -/
theorem isNearest_ofDecimal (negative : Bool) {digits count : Nat} (hcount : digits < Nat.pow 10 count)
    (exponent : Int) : (ofDecimal negative digits count exponent).IsNearest (digits * 10 ^ exponent) := by
  unfold ofDecimal
  split
  · next hzero =>
    rw [hzero, Nat.cast_zero, zero_mul]
    refine isNearest_zero negative le_rfl ?_
    rw [mul_zero, zero_mul]
    exact zero_le_one
  · next hpos =>
    split
    · next hexponent => exact isNearest_large negative hpos hexponent
    · split
      · next hexponent => exact isNearest_small negative hcount hexponent
      · rw [← cast_ratio_eq]
        exact isNearest_ofRatio negative _ (Nat.pow_pos (by decide))

end Binary64

end ParamQuery.Number
